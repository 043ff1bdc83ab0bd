import Gg.Ws.Dispatch

/-!
# 接続の終わり方

`disconnect(code)`（`part_004` 350–379 行）と、I/O thread が接続の終わりを見つけたときの
`handleClose` / `handleDisconnect`（813–839 行）。ここでは I/O thread がすでに終わった後の
`disconnect` を一回の関数として書く。thread が重なるときは `Gg/Ws/Threads.lean` で扱う。

相手の `Close` を読んだ `handleClose` は status を取り出すが使わず、`connected` と `running` を
落とすだけである。I/O loop は `readFrame` の `false` を見て、`connected` がもう落ちているので
`handleDisconnect` を呼ばずに抜ける。後から `disconnect` を呼んでも `wasConnected` が `false` なので
`Close` も `onDisconnect` も出ない。
-/

namespace Gg.Ws

open Session

variable (isJson : Bytes → Bool)

/-- `sendCloseFrame(code)` の payload。`(code >> 8) & 0xFF` と `code & 0xFF`。 -/
def closePayload (code : Int) : Bytes := [(code / 256 % 256).toNat.toUInt8, (code % 256).toNat.toUInt8]

namespace Session

/--
`disconnect(code)`。I/O thread が終わった後、user thread の上で呼んだとき。
`heartbeat->stop()`、`join`、`cleanup()` は状態に何も残さない。
-/
def disconnect (s : Session) (code : Int) : Session :=
  let wasConnected := s.connected
  let s := { s with connected := false, running := false }
  let s := if wasConnected then s.sendFrame Opcode.close (closePayload code) else s
  if wasConnected then s.triggerDisconnect code else s

end Session

/-- `Close` frame を読むと、loop は `connected` と `running` を落として、それだけで抜ける。 -/
theorem ioLoop_close (rc : ConnectOutcome) {s : Session} (hr : s.running = true)
    (ha : s.aborted = false) {f : WireFrame} (hc : f.opcode.val = 8)
    (hmax : f.payload.length ≤ s.config.maxMessageSize) (rest : Bytes) (n : Nat) :
    ioLoop isJson exact exactReady rc (n + 1) s (f.encode ++ rest)
      = ({ s.drainSendQueue with connected := false, running := false }, rest) := by
  have hop : f.opcode.val.toUInt8 = Opcode.close := by rw [hc]; rfl
  have hread : readFrame isJson exact s.drainSendQueue (f.encode ++ rest)
      = (({ s.drainSendQueue with connected := false, running := false }, false), rest) := by
    have hne : ¬(Opcode.close = Opcode.text ∨ Opcode.close = Opcode.binary) := by decide
    rw [readFrame_encode, if_neg (by simp only [drainSendQueue_config]; omega), hop]
    simp [dispatch, handleClose, hne]
  have hready : exactReady (f.encode ++ rest) = true := by simp [exactReady, WireFrame.encode]
  rw [ioLoop, if_neg (by simp [hr, ha])]
  simp only [hready, Bool.not_true, Bool.false_eq_true, if_false, hread, if_neg]

/--
**相手の `Close` で終わった接続には、`onDisconnect` が来ない。** 動いている session が `Close` を
読むと、`connected` と `running` は落ちるが、callback も返事の `Close` も出ない。その後
`disconnect(code)` を呼んでも何も出ない。`onConnect` で始まった接続は、対になる `onDisconnect`
なしに終わる。
-/
theorem peer_close_without_disconnect (rc : ConnectOutcome) {s : Session} (hr : s.running = true)
    (ha : s.aborted = false) {f : WireFrame} (hc : f.opcode.val = 8)
    (hmax : f.payload.length ≤ s.config.maxMessageSize) (rest : Bytes) (code : Int) (k : Nat) :
    let out := (ioLoop isJson exact exactReady rc (k + 1) s (f.encode ++ rest)).1
    out.connected = false ∧ out.running = false ∧ out.trace = s.trace ++ drainEvents s ∧
      (out.disconnect code).trace = out.trace := by
  intro out
  have hout : out = { s.drainSendQueue with connected := false, running := false } := by
    simp only [out, ioLoop_close isJson rc hr ha hc hmax rest k]
  simp [hout, disconnect, drainSendQueue_eq]

/-- status `1000` を運ぶ、mask しない `Close` frame。 -/
def normalClose : WireFrame := ⟨true, 0, ⟨8, by decide⟩, none, [0x03, 0xE8], by decide⟩

theorem peer_close_without_disconnect_normal :
    let out := (ioLoop (fun _ => false) exact exactReady .ok (0 + 1) (opened {})
      (normalClose.encode ++ [])).1
    out.connected = false ∧ out.running = false ∧
      out.trace = (opened {}).trace ++ drainEvents (opened {}) ∧
      (out.disconnect CloseCode.normal).trace = out.trace :=
  peer_close_without_disconnect (fun _ => false) .ok rfl rfl rfl (by decide) [] CloseCode.normal 0


/-! ## 再接続の回数

`handleDisconnect` は `reconnectAttempts` を一つ増やして一度だけ `connect()` を呼ぶ。失敗すれば
そこで `running` を落として `onDisconnect(AbnormalClosure)` を出し、I/O loop も抜ける。
もう一度試す loop はどこにもないので、`maxReconnectAttempts` は「一度試すかどうか」にしか効かない。
-/

/-- 読みが失敗すれば、`readFrame` は `false` を返し、callback の記録のほかは何も変えない。 -/
theorem readFrame_of_failed {σ : Type} (r : Recv σ) (s : Session) {t t' : σ} {d : Decoded}
    (hd : decodeFrame r s.config.maxMessageSize t = (d, t'))
    (hfail : d = .recvFailed ∨ d = .tooLarge) :
    ∃ s₁, readFrame isJson r s t = ((s₁, false), t') ∧ s₁ = { s with trace := s₁.trace } := by
  rcases hfail with rfl | rfl
  · exact ⟨s, by simp [readFrame, hd], rfl⟩
  · exact ⟨s.triggerError ErrorCode.messageTooLarge "Mensagem muito grande",
      by simp [readFrame, hd], rfl⟩

/--
**再接続は一度しか試さない。** 動いている session の I/O loop が読みの失敗（短い読み、
`maxMessageSize` を超える長さ）を見つけたとき、`autoReconnect` で `reconnectAttempts = 0`、
`maxReconnectAttempts ≥ 1` なら、`handleDisconnect` は 1 秒待って一度だけ `connect()` を試す。
失敗すれば `onError` の後に `running` を落として `onDisconnect(AbnormalClosure)` を出し、loop は
終わる。`maxReconnectAttempts` がいくつでも、試すのは一度である。成功すれば `std::terminate()` に
至る。相手の `Close` を読んだときは何も試さない。
-/
theorem reconnect_tried_once {σ : Type} (r : Recv σ) (readable : σ → Bool) {s : Session}
    {t t' : σ} {d : Decoded} (hr : s.running = true) (ha : s.aborted = false)
    (hk : s.connected = true) (hauto : s.config.autoReconnect = true)
    (h0 : s.reconnectAttempts = 0) (hM : 1 ≤ s.config.maxReconnectAttempts)
    (ht : readable t = true) (hd : decodeFrame r s.config.maxMessageSize t = (d, t'))
    (hfail : d = .recvFailed ∨ d = .tooLarge) (n : Nat) :
    let s₁ := (readFrame isJson r s.drainSendQueue t).1.1
    (∀ code msg, ioLoop isJson r readable (.failed code msg) (n + 1) s t =
      ({ s₁ with connected := false, running := false, reconnectAttempts := 1,
                 trace := s₁.trace ++ [.backoff 1, .error code msg,
                   .disconnect CloseCode.abnormalClosure] }, t')) ∧
    (ioLoop isJson r readable .ok (n + 1) s t).1.aborted = true ∧
    ∀ (rc : ConnectOutcome) (f : WireFrame) (rest : Bytes), f.opcode.val = 8 →
      f.payload.length ≤ s.config.maxMessageSize →
      ioLoop isJson exact exactReady rc (n + 1) s (f.encode ++ rest)
        = ({ s.drainSendQueue with connected := false, running := false }, rest) := by
  intro s₁
  obtain ⟨s₂, hread, hs₂⟩ := readFrame_of_failed isJson r s.drainSendQueue
    (by rwa [drainSendQueue_config]) hfail
  have hs₁ : s₁ = s₂ := by simp only [s₁, hread]
  have hk₂ : s₂.connected = true := by rw [hs₂]; simpa using hk
  have h0₂ : s₂.reconnectAttempts = 0 := by rw [hs₂]; simpa using h0
  have hloop : ∀ rc, ioLoop isJson r readable rc (n + 1) s t = (handleDisconnect s₂ rc, t') := by
    intro rc
    rw [ioLoop, if_neg (by simp [hr, ha])]
    simp only [ht, Bool.not_true, Bool.false_eq_true, if_false, hread, hk₂, if_true]
  have hc : s₂.config.autoReconnect = true ∧ s₂.reconnectAttempts < s₂.config.maxReconnectAttempts := by
    rw [hs₂]
    simp [drainSendQueue_eq, hauto, h0]
    omega
  refine ⟨fun code msg => ?_, ?_, fun rc f rest hc8 hmax => ioLoop_close isJson rc hr ha hc8 hmax rest n⟩
  · rw [hloop, hs₁]
    have hM₂ : 0 < s₂.config.maxReconnectAttempts := h0₂ ▸ hc.2
    simp [handleDisconnect, hc, giveUp, triggerError, triggerDisconnect, emit, h0₂, hM₂]
  · rw [hloop]
    simp [handleDisconnect, hc]

/-- 2 回まで試す設定でも、header の 1 byte 目だけで切れた接続には一度しか試さない。 -/
theorem reconnect_tried_once_maxTwo :
    let s := opened { maxReconnectAttempts := 2 }
    let s₁ := (readFrame (fun _ => false) exact s.drainSendQueue [0x81]).1.1
    (∀ code msg, ioLoop (fun _ => false) exact exactReady (.failed code msg) (0 + 1) s [0x81] =
      ({ s₁ with connected := false, running := false, reconnectAttempts := 1,
                 trace := s₁.trace ++ [.backoff 1, .error code msg,
                   .disconnect CloseCode.abnormalClosure] }, [])) ∧
    (ioLoop (fun _ => false) exact exactReady .ok (0 + 1) s [0x81]).1.aborted = true ∧
    ∀ (rc : ConnectOutcome) (f : WireFrame) (rest : Bytes), f.opcode.val = 8 →
      f.payload.length ≤ s.config.maxMessageSize →
      ioLoop (fun _ => false) exact exactReady rc (0 + 1) s (f.encode ++ rest)
        = ({ s.drainSendQueue with connected := false, running := false }, rest) :=
  @reconnect_tried_once (fun _ => false) _ exact exactReady (opened { maxReconnectAttempts := 2 })
    [0x81] [] .recvFailed rfl rfl rfl rfl rfl (by decide) rfl rfl (.inl rfl) 0

end Gg.Ws
