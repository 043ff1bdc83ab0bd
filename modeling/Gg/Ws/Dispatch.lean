import Gg.Ws.Session
import Gg.Ws.Wire

/-!
# `readFrame` の振り分けと I/O loop

`readFrame` は frame ごとに独立に読んで振り分ける。前の frame の状態（fragment の組み立てなど）は
持たない。だから受け付ける frame の言語は一つずつの frame で決まり（`readFrame_encode`）、
frame の列を流したときの callback の列は、frame ごとの callback の列を並べたものになる
（`ioLoop_frames`）。

* 宣言された長さが `maxMessageSize` を超えたときだけ `onError(MessageTooLarge)` になる。
  RSV、FIN、制御 frame の長さ、opcode の表は見ない。表にない opcode は何もせずに捨てる。
* `Text` / `Binary` は FIN に関わらずその payload だけで `onRawMessage` に渡る。
  `Continuation` は捨てる。
-/

namespace Gg.Ws

open Session

variable (isJson : Bytes → Bool)

/-! ## frame ごとの callback -/

/-- `Close` 以外の frame で呼ばれる callback と、送る frame。 -/
def frameEvents (s : Session) (o : UInt8) (p : Bytes) : List Event :=
  if o = Opcode.text ∨ o = Opcode.binary then .rawMessage p :: (if isJson p then [.message p] else [])
  else if o = Opcode.ping then
    (if s.config.ping.autoPong ∧ s.connected then [.frame Opcode.pong p] else []) ++ [.ping p]
  else if o = Opcode.pong then [.pong p]
  else []

/-- `Close` 以外の frame を振り分けた後の状態。`Pong` だけが `waitingPong` を落とす。 -/
def afterFrame (s : Session) (o : UInt8) (p : Bytes) : Session :=
  { s with trace := s.trace ++ frameEvents isJson s o p,
           waitingPong := if o = Opcode.pong then false else s.waitingPong }

theorem frameEvents_congr {s s' : Session} (hc : s'.config = s.config)
    (hk : s'.connected = s.connected) (o : UInt8) (p : Bytes) :
    frameEvents isJson s' o p = frameEvents isJson s o p := by
  simp [frameEvents, hc, hk]

/-- 4 bit の opcode と表の定数の比較。 -/
theorem opcode_cases : ∀ o : Fin 16,
    (o.val ≠ 8 → o.val.toUInt8 ≠ Opcode.close) ∧
    (o.val ∉ [0x1, 0x2, 0x8, 0x9, 0xA] →
      ¬(o.val.toUInt8 = Opcode.text ∨ o.val.toUInt8 = Opcode.binary) ∧
        o.val.toUInt8 ≠ Opcode.close ∧ o.val.toUInt8 ≠ Opcode.ping ∧ o.val.toUInt8 ≠ Opcode.pong) := by
  decide

theorem dispatch_of_ne_close {o : UInt8} (h : o ≠ Opcode.close) (s : Session) (p : Bytes) :
    dispatch isJson s o p = (afterFrame isJson s o p, true) := by
  unfold dispatch afterFrame frameEvents
  by_cases hd : o = Opcode.text ∨ o = Opcode.binary
  · have hp : o ≠ Opcode.pong := by rcases hd with rfl | rfl <;> decide
    simp only [if_pos hd, if_neg hp, handleMessage, emit]
    split <;> simp
  · by_cases hi : o = Opcode.ping
    · subst hi
      have hpp : Opcode.ping ≠ Opcode.pong := by decide
      simp only [if_neg hd, if_neg h, if_pos, if_neg hpp, handlePing, sendPongFrame, sendFrame, emit]
      by_cases ha : s.config.ping.autoPong <;> by_cases hk : s.connected <;> simp [ha, hk]
    · by_cases ho : o = Opcode.pong
      · subst ho
        simp [if_neg hd, if_neg h, if_neg hi, handlePong, emit]
      · simp [if_neg hd, if_neg h, if_neg hi, if_neg ho]

/-- 振り分けは `onError` を呼ばない。`Close` も callback を呼ばずに `connected` を落とすだけである。 -/
theorem dispatch_no_error (s : Session) (o : UInt8) (p : Bytes) :
    ∃ es, (dispatch isJson s o p).1.trace = s.trace ++ es ∧ ∀ c m, Event.error c m ∉ es := by
  by_cases h : o = Opcode.close
  · subst h
    have hc : ¬(Opcode.close = Opcode.text ∨ Opcode.close = Opcode.binary) := by decide
    exact ⟨[], by simp [dispatch, handleClose, hc], by simp⟩
  · rw [dispatch_of_ne_close isJson h]
    refine ⟨_, rfl, fun c m => ?_⟩
    unfold frameEvents
    split_ifs <;> simp

/-- 振り分けは `connected` と `running` を立てず、`aborted` と設定を変えない。 -/
theorem dispatch_flags (s : Session) (o : UInt8) (p : Bytes) :
    let s' := (dispatch isJson s o p).1
    (s'.connected = true → s.connected = true) ∧ (s'.running = true → s.running = true) ∧
      s'.aborted = s.aborted ∧ s'.config = s.config := by
  by_cases h : o = Opcode.close
  · subst h
    have hc : ¬(Opcode.close = Opcode.text ∨ Opcode.close = Opcode.binary) := by decide
    simp [dispatch, handleClose, hc]
  · simp [dispatch_of_ne_close isJson h, afterFrame]

/-- `readFrame` も同じ。 -/
theorem readFrame_flags {σ : Type} (r : Recv σ) (s : Session) (t : σ) :
    let s' := (readFrame isJson r s t).1.1
    (s'.connected = true → s.connected = true) ∧ (s'.running = true → s.running = true) ∧
      s'.aborted = s.aborted ∧ s'.config = s.config := by
  unfold readFrame
  split
  · simp
  · simp [triggerError, emit]
  · exact dispatch_flags isJson s _ _

/-! ## 一つの frame の読み -/

/--
**`readFrame` の読み。** FIN、RSV、opcode、mask、長さ欄の形のどれをとっても、宣言された長さが
`maxMessageSize` を超えれば `onError(MessageTooLarge)` を出して `false` を返し、mask key と
payload は読まない。そうでなければ frame を読み切って opcode で振り分ける。
-/
theorem readFrame_encodeWith (f : WireFrame) {field : Bytes}
    (hfield : LengthEncodes f.key.isSome f.payload.length field) (s : Session) (rest : Bytes) :
    readFrame isJson exact s (f.encodeWith field ++ rest) =
      if s.config.maxMessageSize < f.payload.length then
        ((s.triggerError ErrorCode.messageTooLarge "Mensagem muito grande", false),
          f.keyBytes ++ (f.body ++ rest))
      else (dispatch isJson s f.opcode.val.toUInt8 f.payload, rest) := by
  unfold readFrame
  rw [decodeFrame_encodeWith f hfield]
  by_cases h : s.config.maxMessageSize < f.payload.length
  · rw [if_pos h, if_pos h]
  · rw [if_neg h, if_neg h]

theorem readFrame_encode (f : WireFrame) (s : Session) (rest : Bytes) :
    readFrame isJson exact s (f.encode ++ rest) =
      if s.config.maxMessageSize < f.payload.length then
        ((s.triggerError ErrorCode.messageTooLarge "Mensagem muito grande", false),
          f.keyBytes ++ (f.body ++ rest))
      else (dispatch isJson s f.opcode.val.toUInt8 f.payload, rest) :=
  readFrame_encodeWith isJson f (lenField_form f.key.isSome f.short).encodes s rest

/-! ## `Ping` への `Pong` -/

/--
**`Ping` には同じ payload の `Pong` で答える。** 接続中で `autoPong` の session が、FIN、RSV、mask、
長さ欄の形を問わず payload `P` の `Ping` frame を読むと、`P` が `maxMessageSize` に収まれば、
`onPing` の前にちょうど一つ `Pong` frame を書く。その frame はどの mask key で書いても、
`readFrame` の読みで FIN = 1、opcode `Pong`、payload `P` に戻る。`P` が `maxMessageSize` を
超えれば、読みは `onError(MessageTooLarge)` で失敗し、何も書かない。
-/
theorem ping_answered_by_pong {s : Session} (hk : s.connected = true)
    (hauto : s.config.ping.autoPong = true) {f : WireFrame} (hping : f.opcode.val = 9)
    {field : Bytes} (hfield : LengthEncodes f.key.isSome f.payload.length field) (rest : Bytes) :
    readFrame isJson exact s (f.encodeWith field ++ rest) =
      (if s.config.maxMessageSize < f.payload.length then
        ((s.triggerError ErrorCode.messageTooLarge "Mensagem muito grande", false),
          f.keyBytes ++ (f.body ++ rest))
      else (({ s with trace := s.trace ++ [.frame Opcode.pong f.payload, .ping f.payload] }, true),
        rest)) ∧
    ∀ (k : MaskKey) (rest' : Bytes), f.payload.length ≤ s.config.maxMessageSize →
      decodeFrame exact s.config.maxMessageSize (sendFrameBytes Opcode.pong f.payload k ++ rest')
        = (.frame true Opcode.pong f.payload, rest') := by
  have hop : f.opcode.val.toUInt8 = Opcode.ping := by rw [hping]; rfl
  refine ⟨?_, fun k rest' hmax => ?_⟩
  · rw [readFrame_encodeWith isJson f hfield, hop]
    split
    · rfl
    · have hnd : ¬(Opcode.ping = Opcode.text ∨ Opcode.ping = Opcode.binary) := by decide
      have hnc : Opcode.ping ≠ Opcode.close := by decide
      simp [dispatch, hnd, hnc, handlePing, sendPongFrame, sendFrame, emit, hk, hauto]
  · rw [sendFrameBytes_eq_encode (by decide) f.short, decodeFrame_encode, if_neg (Nat.not_lt.mpr hmax)]
    rfl

/-- 16 bit の長さ欄で書いた、mask 付きの 1 byte の `Ping` にも `Pong` で答える。 -/
theorem ping_answered_by_pong_ext16 :
    let f : WireFrame := ⟨true, 0, ⟨9, by decide⟩, some ⟨1, 2, 3, 4⟩, [0x61], by decide⟩
    readFrame (fun _ => false) exact (opened {}) (f.encodeWith [0x80 ||| 126, 0, 1] ++ []) =
      (if (opened {}).config.maxMessageSize < f.payload.length then
        (((opened {}).triggerError ErrorCode.messageTooLarge "Mensagem muito grande", false),
          f.keyBytes ++ (f.body ++ []))
      else (({ opened {} with trace := (opened {}).trace ++
          [.frame Opcode.pong f.payload, .ping f.payload] }, true), [])) ∧
    ∀ (k : MaskKey) (rest' : Bytes), f.payload.length ≤ (opened {}).config.maxMessageSize →
      decodeFrame exact (opened {}).config.maxMessageSize
          (sendFrameBytes Opcode.pong f.payload k ++ rest')
        = (.frame true Opcode.pong f.payload, rest') :=
  ping_answered_by_pong (fun _ => false) rfl rfl rfl
    ⟨0x80 ||| 126, [0, 1], rfl, by decide, .inr (.inl ⟨by decide, rfl, by decide⟩)⟩ []

/-- `maxMessageSize = 0` の session は、payload 1 byte の `Ping` を読めずに終わり、`Pong` を書かない。 -/
theorem small_maxMessageSize_ping_unanswered :
    readFrame (fun _ => false) exact (opened { maxMessageSize := 0 }) [0x89, 0x01, 0x61] =
      (({ opened { maxMessageSize := 0 } with
          trace := [.connect, .error ErrorCode.messageTooLarge "Mensagem muito grande"] }, false),
        [0x61]) :=
  rfl

/-! ## I/O loop -/

/-- `drainSendQueue` が送る frame。 -/
def drainEvents (s : Session) : List Event :=
  if s.connected then s.sendQueue.map (.frame Opcode.text) else []

theorem foldl_send (q : List Bytes) (s : Session) :
    q.foldl send s
      = { s with trace := s.trace ++ if s.connected then q.map (.frame Opcode.text) else [] } := by
  induction q generalizing s with
  | nil => simp
  | cons m q ih =>
    rw [List.foldl_cons, ih]
    by_cases h : s.connected <;> simp [send, sendFrame, emit, h]

theorem drainSendQueue_eq (s : Session) :
    s.drainSendQueue = { s with sendQueue := [], trace := s.trace ++ drainEvents s } := by
  simp [drainSendQueue, foldl_send, drainEvents]

/-- `exact` な transport での `waitForData`。読めるのは byte が残っているときである。 -/
def exactReady (t : Bytes) : Bool := !t.isEmpty

@[simp] theorem drainSendQueue_config (s : Session) : s.drainSendQueue.config = s.config := by
  simp [drainSendQueue_eq]

@[simp] theorem drainSendQueue_running (s : Session) : s.drainSendQueue.running = s.running := by
  simp [drainSendQueue_eq]

@[simp] theorem drainSendQueue_connected (s : Session) : s.drainSendQueue.connected = s.connected := by
  simp [drainSendQueue_eq]

@[simp] theorem drainSendQueue_aborted (s : Session) : s.drainSendQueue.aborted = s.aborted := by
  simp [drainSendQueue_eq]

@[simp] theorem drainSendQueue_reconnectAttempts (s : Session) :
    s.drainSendQueue.reconnectAttempts = s.reconnectAttempts := by
  simp [drainSendQueue_eq]

theorem drainSendQueue_of_nil {s : Session} (hq : s.sendQueue = []) : s.drainSendQueue = s := by
  rw [drainSendQueue_eq]
  cases s
  simp_all [drainEvents]

/-- 読むものがなく、送るものもなければ、loop は何も変えずに回り続ける。 -/
theorem ioLoop_idle {σ : Type} (r : Recv σ) (readable : σ → Bool) (rc : ConnectOutcome)
    {s : Session} (hq : s.sendQueue = []) {t : σ} (ht : readable t = false) (k : Nat) :
    ioLoop isJson r readable rc k s t = (s, t) := by
  induction k with
  | zero => rfl
  | succ k ih =>
    rw [ioLoop]
    split
    · rfl
    · simp [drainSendQueue_of_nil hq, ht, ih]

/-- 一つの frame を読んで続けてよく、その後は読めるものがなければ、loop はそこで待ち続ける。 -/
theorem ioLoop_last_frame {σ : Type} (r : Recv σ) (readable : σ → Bool) (rc : ConnectOutcome)
    {s s' : Session} {t t' : σ} (hr : s.running = true) (ha : s.aborted = false)
    (hq : s.sendQueue = []) (ht : readable t = true)
    (hread : readFrame isJson r s t = ((s', true), t')) (hq' : s'.sendQueue = [])
    (ht' : readable t' = false) (k : Nat) :
    ioLoop isJson r readable rc (k + 1) s t = (s', t') := by
  rw [ioLoop, if_neg (by simp [hr, ha]), drainSendQueue_of_nil hq]
  simp [ht, hread, ioLoop_idle isJson r readable rc hq' ht' k]

/--
**frame の列を流す。** `Close` を含まず、どれも `maxMessageSize` に収まる frame の列を
`exact` な transport に並べると、I/O loop はそれを読み切り、callback の列は
最初に送る async の frame の後に、frame ごとの callback を順に並べたものになる。
-/
theorem ioLoop_frames (rc : ConnectOutcome) (fs : List WireFrame) :
    ∀ (s : Session), s.running = true → s.aborted = false →
      (∀ f ∈ fs, f.opcode.val ≠ 8 ∧ f.payload.length ≤ s.config.maxMessageSize) → ∀ n,
      (ioLoop isJson exact exactReady rc (fs.length + n + 1) s (fs.flatMap WireFrame.encode)).2 = [] ∧
      (ioLoop isJson exact exactReady rc (fs.length + n + 1) s (fs.flatMap WireFrame.encode)).1.trace
        = s.trace ++ drainEvents s
          ++ fs.flatMap (fun f => frameEvents isJson s f.opcode.val.toUInt8 f.payload) := by
  induction fs with
  | nil =>
    intro s hr ha _ n
    have hs : ioLoop isJson exact exactReady rc (n + 1) s [] = (s.drainSendQueue, []) := by
      rw [ioLoop, if_neg (by simp [hr, ha]), drainSendQueue_eq]
      simp only [exactReady, List.isEmpty_nil, Bool.not_true, Bool.false_eq_true, if_true]
      exact ioLoop_idle isJson exact exactReady rc rfl (show exactReady [] = false from rfl) n
    simp [hs, drainSendQueue_eq]
  | cons f fs ih =>
    intro s hr ha hfs n
    obtain ⟨hclose, hmax⟩ := hfs f (List.mem_cons_self f fs)
    have hne := (opcode_cases f.opcode).1 hclose
    have hd₁ := drainSendQueue_eq s
    set s₂ := afterFrame isJson s.drainSendQueue f.opcode.val.toUInt8 f.payload with hs₂
    have hread : readFrame isJson exact s.drainSendQueue (f.encode ++ fs.flatMap WireFrame.encode)
        = ((s₂, true), fs.flatMap WireFrame.encode) := by
      rw [readFrame_encode, if_neg (by simp only [hd₁]; omega), dispatch_of_ne_close isJson hne]
    have hready : exactReady (f.encode ++ fs.flatMap WireFrame.encode) = true := by
      simp [exactReady, WireFrame.encode]
    have hstep : ioLoop isJson exact exactReady rc ((f :: fs).length + n + 1) s
        ((f :: fs).flatMap WireFrame.encode)
        = ioLoop isJson exact exactReady rc (fs.length + n + 1) s₂ (fs.flatMap WireFrame.encode) := by
      rw [show (f :: fs).length + n + 1 = (fs.length + n + 1) + 1 by simp; omega, ioLoop,
        if_neg (by simp [hr, ha]), List.flatMap_cons]
      simp only [hready, Bool.not_true, Bool.false_eq_true, if_false, hread]
    have hc₂ : s₂.config = s.config := by simp [hs₂, afterFrame, hd₁]
    have hk₂ : s₂.connected = s.connected := by simp [hs₂, afterFrame, hd₁]
    have hq₂ : s₂.sendQueue = [] := by simp [hs₂, afterFrame, hd₁]
    have hev : frameEvents isJson s.drainSendQueue f.opcode.val.toUInt8 f.payload
        = frameEvents isJson s f.opcode.val.toUInt8 f.payload :=
      frameEvents_congr isJson (by rw [hd₁]) (by rw [hd₁]) _ _
    obtain ⟨h1, h2⟩ := ih s₂ (by simp [hs₂, afterFrame, hd₁, hr]) (by simp [hs₂, afterFrame, hd₁, ha])
      (fun g hg => hc₂ ▸ hfs g (List.mem_cons_of_mem f hg)) n
    rw [hstep]
    refine ⟨h1, ?_⟩
    rw [h2, List.flatMap_cons]
    simp only [drainEvents, hq₂, List.map_nil, ite_self, List.append_nil,
      frameEvents_congr isJson hc₂ hk₂]
    simp only [hs₂, afterFrame, hev]
    simp [hd₁, drainEvents]

/-- 表にない opcode の frame は何も呼ばずに捨てる。 -/
theorem dispatch_unknown {o : Fin 16} (h : o.val ∉ [0x1, 0x2, 0x8, 0x9, 0xA]) (s : Session)
    (p : Bytes) : dispatch isJson s o.val.toUInt8 p = (s, true) := by
  obtain ⟨h1, h2, h3, h4⟩ := (opcode_cases o).2 h
  simp [dispatch, h1, h2, h3, h4]

/-! ## frame の形を検査しないこと -/

/--
**`readFrame` は frame の形を検査しない。** どの frame でも（FIN、RSV、opcode、mask、長さを
問わず）、`onError` を呼ぶのは宣言された長さが `maxMessageSize` を超えたときの `MessageTooLarge`
だけで、そのとき mask key と payload は読まない。それ以外は frame を読み切って振り分け、
振り分けは `onError` を呼ばない。表にない opcode（`Continuation`、`0x3`–`0x7`、`0xB`–`0xF`）の
frame は何も呼ばずに捨てる。読みは frame ごとに独立なので、frame の列のどの位置でも同じである。
-/
theorem readFrame_never_invalid (f : WireFrame) (s : Session) (rest : Bytes) :
    readFrame isJson exact s (f.encode ++ rest) =
      (if s.config.maxMessageSize < f.payload.length then
        ((s.triggerError ErrorCode.messageTooLarge "Mensagem muito grande", false),
          f.keyBytes ++ (f.body ++ rest))
      else (dispatch isJson s f.opcode.val.toUInt8 f.payload, rest)) ∧
    (∃ es, (dispatch isJson s f.opcode.val.toUInt8 f.payload).1.trace = s.trace ++ es ∧
      ∀ c m, Event.error c m ∉ es) ∧
    (f.opcode.val ∉ [0x1, 0x2, 0x8, 0x9, 0xA] →
      dispatch isJson s f.opcode.val.toUInt8 f.payload = (s, true)) :=
  ⟨readFrame_encode isJson f s rest,
    dispatch_no_error isJson s _ _, fun h => dispatch_unknown isJson h s _⟩

/-- 予約された opcode `0x3` の frame も、FIN のない 200 byte の `Ping` も、`onError` なしに受け付ける。 -/
theorem reserved_opcode_and_long_ping_accepted :
    readFrame (fun _ => false) exact (Session.opened {})
        (WireFrame.encode ⟨true, 0, 3, none, [], by decide⟩) = ((Session.opened {}, true), []) ∧
    readFrame (fun _ => false) exact (Session.opened {})
        (WireFrame.encode ⟨false, 0, 9, none, List.replicate 200 7, by rw [List.length_replicate]; decide⟩)
      = ((((Session.opened {}).emit (.frame Opcode.pong (List.replicate 200 7))).emit
          (.ping (List.replicate 200 7)), true), []) := by
  constructor
  · rw [← List.append_nil (WireFrame.encode _), readFrame_encode, if_neg (by decide)]
    rfl
  · rw [← List.append_nil (WireFrame.encode _), readFrame_encode, if_neg (by rw [List.length_replicate]; decide)]
    rfl

/-! ## fragment を組み立てないこと -/

/-- `onRawMessage` に渡る payload の列。 -/
def rawMessages : List Event → List Bytes
  | [] => []
  | .rawMessage d :: es => d :: rawMessages es
  | _ :: es => rawMessages es

@[simp] theorem rawMessages_append (a b : List Event) :
    rawMessages (a ++ b) = rawMessages a ++ rawMessages b := by
  induction a with
  | nil => rfl
  | cons e a ih => cases e <;> simp [rawMessages, ih]

/-- `Text` か `Binary` の frame。 -/
def WireFrame.isData (f : WireFrame) : Bool := f.opcode.val == 1 || f.opcode.val == 2

theorem isData_iff : ∀ o : Fin 16,
    (o.val.toUInt8 = Opcode.text ∨ o.val.toUInt8 = Opcode.binary) ↔ (o.val == 1 || o.val == 2) = true := by
  decide

theorem rawMessages_frameEvents (s : Session) (f : WireFrame) :
    rawMessages (frameEvents isJson s f.opcode.val.toUInt8 f.payload)
      = if f.isData then [f.payload] else [] := by
  unfold frameEvents WireFrame.isData
  by_cases hd : f.opcode.val.toUInt8 = Opcode.text ∨ f.opcode.val.toUInt8 = Opcode.binary
  · rw [if_pos hd, if_pos ((isData_iff f.opcode).1 hd)]
    split <;> rfl
  · rw [if_neg hd, if_neg (fun h => hd ((isData_iff f.opcode).2 h))]
    split_ifs <;> simp [rawMessages]

theorem rawMessages_drainEvents (s : Session) : rawMessages (drainEvents s) = [] := by
  unfold drainEvents
  split
  · induction s.sendQueue with
    | nil => rfl
    | cons m q ih => simpa [rawMessages] using ih
  · rfl

theorem rawMessages_flatMap (s : Session) (fs : List WireFrame) :
    rawMessages (fs.flatMap fun f => frameEvents isJson s f.opcode.val.toUInt8 f.payload)
      = (fs.filter WireFrame.isData).map WireFrame.payload := by
  induction fs with
  | nil => rfl
  | cons f fs ih =>
    rw [List.flatMap_cons, rawMessages_append, ih, rawMessages_frameEvents, List.filter_cons]
    split <;> simp_all

/-- I/O loop が frame の列 `fs` を流し終えたときの様子。 -/
def DeliversEachFrame (rc : ConnectOutcome) (fs : List WireFrame) (s : Session) (n : Nat) : Prop :=
  let out := ioLoop isJson exact exactReady rc (fs.length + n + 1) s (fs.flatMap WireFrame.encode)
  out.2 = [] ∧
  out.1.trace = s.trace ++ drainEvents s
    ++ fs.flatMap (fun f => frameEvents isJson s f.opcode.val.toUInt8 f.payload) ∧
  rawMessages out.1.trace = rawMessages s.trace ++ (fs.filter WireFrame.isData).map WireFrame.payload

/--
**fragment は組み立てない。** 接続中の session に `Close` を含まず `maxMessageSize` に収まる
frame の列を流すと、`onRawMessage` は `Text` / `Binary` の frame ごとに一度、届いた順に、
その frame の payload だけで呼ばれる。FIN は見ず、`Continuation` は何も呼ばない。
`Ping` / `Pong` はその場で扱う（`frameEvents`）。
-/
theorem ioLoop_no_reassembly (rc : ConnectOutcome) (fs : List WireFrame) {s : Session}
    (hr : s.running = true) (ha : s.aborted = false)
    (hfs : ∀ f ∈ fs, f.opcode.val ≠ 8 ∧ f.payload.length ≤ s.config.maxMessageSize) (n : Nat) :
    DeliversEachFrame isJson rc fs s n := by
  obtain ⟨h1, h2⟩ := ioLoop_frames isJson rc fs s hr ha hfs n
  refine ⟨h1, h2, ?_⟩
  rw [h2, rawMessages_append, rawMessages_append, rawMessages_drainEvents, rawMessages_flatMap,
    List.append_nil]

theorem ioLoop_no_reassembly_ab :
    (Session.opened {}).running = true ∧ (Session.opened {}).aborted = false ∧
    (∀ f ∈ [(⟨false, 0, 1, none, [0x61], by decide⟩ : WireFrame), ⟨true, 0, 0, none, [0x62], by decide⟩],
      f.opcode.val ≠ 8 ∧ f.payload.length ≤ (Session.opened {}).config.maxMessageSize) ∧
    DeliversEachFrame (fun _ => false) .ok
      [⟨false, 0, 1, none, [0x61], by decide⟩, ⟨true, 0, 0, none, [0x62], by decide⟩]
      (Session.opened {}) 0 :=
  ⟨rfl, rfl, by decide, ioLoop_no_reassembly _ .ok _ rfl rfl (by decide) 0⟩

/--
"ab" を FIN のない `Text` の "a" と FIN の付いた `Continuation` の "b" に分けて送ると、
`onRawMessage` は "a" で一度だけ呼ばれ、"ab" では呼ばれない。
-/
theorem fragmented_message_not_reassembled :
    rawMessages (ioLoop (fun _ => false) exact exactReady .ok 3 (Session.opened {})
      ([(⟨false, 0, 1, none, [0x61], by decide⟩ : WireFrame), ⟨true, 0, 0, none, [0x62], by decide⟩].flatMap
        WireFrame.encode)).1.trace = [[0x61]] := by
  have h := (ioLoop_frames (fun _ => false) .ok
    [(⟨false, 0, 1, none, [0x61], by decide⟩ : WireFrame), ⟨true, 0, 0, none, [0x62], by decide⟩]
    (Session.opened {}) rfl rfl (by decide) 0).2
  simp only [List.length_cons, List.length_nil, Nat.reduceAdd] at h
  rw [h]
  decide

end Gg.Ws
