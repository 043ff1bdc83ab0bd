import Gg.Ws.Wire
import Gg.Ggnet.Http

/-!
# ggnet の `WsClient` の受信

`ggnet/ws_client.hpp` の `readHandler`、`processBuffer`、`processFrames`、`handleFrame`
（196–321 行）のうち、handshake が済んだ後（`connected`）の受信。

## 仕組み

`readHandler` は `recv` が `char buf[8192]` に読んだ byte 列（`Chunk`）を `read_buffer` に足し、`processFrames` が先頭から frame を
切り出す。header か payload が足りなければ `return` して次の読みを待つ。切り出した frame は
`handleFrame` が opcode で振り分け、分割された message は `fragment_buffer` で組み立てる。

* 長さ欄が 7 bit と 16 bit の frame は、どう分けて読んでも、そろうまで待って一つずつ切り出される
  （`processFrames_frame`、`processFrames_frames`）。
* 長さ欄が 64 bit の frame（payload が 65536 byte 以上）では、`head_len` を 10 にするが
  `payload_len` は印の 127 のまま残る。frame は 137 byte で切られ、`onMessage` は payload の
  先頭 127 byte を受け取る。`run_long_frame_truncated` はどの読みの分け方でもそうなることを示す。

## 停止性

`processFrames` の一周は `read_buffer` から header の 2 byte 以上を消す。
-/

namespace Gg.Ggnet

open Gg.Ws

/-- `WsClient` のうち受信が読み書きするもの。`delivered` は `onMessageCb` に渡した列。 -/
structure WsClient where
  readBuffer : Bytes := []
  fragmentBuffer : Bytes := []
  connected : Bool := true
  delivered : List Bytes := []

/-- `close()`。受信の model に効くのは `connected` だけ。 -/
def WsClient.close (c : WsClient) : WsClient := { c with connected := false }

/-- `handleFrame`。Ping への `sendPong` は中身が空で、Pong とその他の opcode は何もしない。 -/
def handleFrame (opcode : UInt8) (fin : Bool) (payload : Bytes) (c : WsClient) : WsClient :=
  if opcode = 0x0 then
    if fin then { c with delivered := c.delivered ++ [c.fragmentBuffer ++ payload], fragmentBuffer := [] }
    else { c with fragmentBuffer := c.fragmentBuffer ++ payload }
  else if opcode = 0x1 ∨ opcode = 0x2 then
    if fin then { c with delivered := c.delivered ++ [payload] }
    else { c with fragmentBuffer := payload }
  else if opcode = 0x8 then c.close
  else c

@[simp] theorem handleFrame_readBuffer (opcode : UInt8) (fin : Bool) (payload : Bytes) (c : WsClient) :
    (handleFrame opcode fin payload c).readBuffer = c.readBuffer := by
  unfold handleFrame WsClient.close
  split_ifs <;> rfl

/-- `processFrames` の header の読み。`(head_len, payload_len)`、足りなければ `none`（`return`）。
印が 127 のときは `head_len` だけを 10 にし、`payload_len` は 127 のまま。 -/
def frameLengths (buf : Bytes) (b1 : UInt8) : Option (Nat × Nat) :=
  let payloadLen := (b1 &&& 0x7F).toNat
  if payloadLen = 126 then
    if buf.length < 4 then none
    else some (4, (buf.getD 2 0).toNat <<< 8 ||| (buf.getD 3 0).toNat)
  else if payloadLen = 127 then
    if buf.length < 10 then none
    else some (10, payloadLen)
  else some (2, payloadLen)

theorem frameLengths_two_le {buf : Bytes} {b1 : UInt8} {h p : Nat}
    (e : frameLengths buf b1 = some (h, p)) : 2 ≤ h := by
  unfold frameLengths at e
  dsimp only at e
  split_ifs at e <;> cases e <;> omega

/-- `processFrames`。`while (read_buffer.size() >= 2)`。 -/
def processFrames (c : WsClient) : WsClient :=
  if 2 ≤ c.readBuffer.length then
    let b0 := c.readBuffer.getD 0 0
    let b1 := c.readBuffer.getD 1 0
    match hl : frameLengths c.readBuffer b1 with
    | none => c
    | some (headLen, payloadLen) =>
      if c.readBuffer.length < headLen + payloadLen then c
      else
        processFrames (handleFrame (b0 &&& 0x0F) (b0 &&& 0x80 != 0)
          ((c.readBuffer.drop headLen).take payloadLen)
          { c with readBuffer := c.readBuffer.drop (headLen + payloadLen) })
  else c
termination_by c.readBuffer.length
decreasing_by
  rw [handleFrame_readBuffer]
  have := frameLengths_two_le hl
  simp only [List.length_drop]
  omega

/-- 接続後の `readHandler`。`recv` が返した `chunk` を `read_buffer` に足し、`processBuffer` の
`connected` の分岐として `processFrames` を呼ぶ。 -/
def readHandler (c : WsClient) (chunk : Chunk) : WsClient :=
  processFrames { c with readBuffer := c.readBuffer ++ chunk.bytes }

/-- 読みの列 `chunks` を順に受ける。 -/
def run (c : WsClient) (chunks : List Chunk) : WsClient := chunks.foldl readHandler c

theorem run_append (c : WsClient) (a b : List Chunk) : run c (a ++ b) = run (run c a) b :=
  List.foldl_append _ _ _ _

/-! ## `processFrames` の一周 -/

section Unfold

variable (c : WsClient)

theorem processFrames_of_lt (h : c.readBuffer.length < 2) : processFrames c = c := by
  rw [processFrames, if_neg (by omega)]

theorem processFrames_of_none (h2 : 2 ≤ c.readBuffer.length)
    (hl : frameLengths c.readBuffer (c.readBuffer.getD 1 0) = none) : processFrames c = c := by
  rw [processFrames, if_pos h2]
  dsimp only
  split
  · rfl
  · rename_i heq; rw [hl] at heq; cases heq

theorem processFrames_of_short {h p : Nat} (h2 : 2 ≤ c.readBuffer.length)
    (hl : frameLengths c.readBuffer (c.readBuffer.getD 1 0) = some (h, p))
    (hs : c.readBuffer.length < h + p) : processFrames c = c := by
  rw [processFrames, if_pos h2]
  dsimp only
  split
  · rfl
  · rename_i heq; rw [hl] at heq; cases heq; exact if_pos hs

/-- 一つの frame がそろっていれば、切り出して `handleFrame` に渡し、残りで続ける。 -/
theorem processFrames_of_some {h p : Nat} (h2 : 2 ≤ c.readBuffer.length)
    (hl : frameLengths c.readBuffer (c.readBuffer.getD 1 0) = some (h, p))
    (hs : h + p ≤ c.readBuffer.length) :
    processFrames c = processFrames (handleFrame (c.readBuffer.getD 0 0 &&& 0x0F)
      (c.readBuffer.getD 0 0 &&& 0x80 != 0) ((c.readBuffer.drop h).take p)
      { c with readBuffer := c.readBuffer.drop (h + p) }) := by
  rw [processFrames, if_pos h2]
  dsimp only
  split
  · rename_i heq; rw [hl] at heq; cases heq
  · rename_i heq; rw [hl] at heq; cases heq; exact if_neg (by omega)

end Unfold

/-! ## frame の header -/

/-- 先頭の 2 byte から読む FIN と opcode。 -/
theorem byte0_fields (f : WireFrame) :
    (f.byte0 &&& 0x80 != 0) = f.fin ∧ f.byte0 &&& 0x0F = f.opcode.val.toUInt8 :=
  byte0_ok f.fin f.rsv.val f.rsv.isLt f.opcode.val f.opcode.isLt

theorem encode_unmasked (f : WireFrame) (hk : f.key = none) :
    f.encode = f.byte0 :: (lenField false f.payload.length ++ f.payload) := by
  simp only [WireFrame.encode, WireFrame.keyBytes, WireFrame.body, hk, Option.isSome_none,
    List.append_nil]

/-- `frameLengths` を先頭の 2 byte と残りで書き直したもの。 -/
theorem frameLengths_cons (b0 b : UInt8) (t : Bytes) :
    frameLengths (b0 :: b :: t) b =
      if (b &&& 0x7F).toNat = 126 then (if t.length < 2 then none else some (4, extLen16 t))
      else if (b &&& 0x7F).toNat = 127 then (if t.length < 8 then none else some (10, 127))
      else some (2, (b &&& 0x7F).toNat) := by
  unfold frameLengths
  simp only [List.length_cons, extLen16, List.getD_cons_succ]
  split_ifs <;> first | rfl | omega | simp_all

theorem extLen16_append {ext : Bytes} (h : ext.length = 2) (more : Bytes) :
    extLen16 (ext ++ more) = extLen16 ext := by
  match ext, h with
  | [_, _], _ => rfl

theorem extLen16_take {k : Nat} (h : 2 ≤ k) : ∀ l : Bytes, extLen16 (l.take k) = extLen16 l
  | [] => by rw [List.take_nil]
  | [a] => by rw [List.take_of_length_le (by simp; omega)]
  | a :: b :: t => by
    obtain ⟨k, rfl⟩ : ∃ k', k = k' + 2 := ⟨k - 2, by omega⟩
    rfl

theorem encode_length (f : WireFrame) (hk : f.key = none) :
    f.encode.length = (lenField false f.payload.length).length + 1 + f.payload.length := by
  rw [encode_unmasked f hk, List.length_cons, List.length_append]
  omega

/-- 7 bit と 16 bit の形の header の長さ。 -/
def headLen (n : Nat) : Nat := if n < 126 then 2 else 4

/-- 65536 byte 未満の unmasked frame の header は、`frameLengths` が `(headLen, 長さ)` と読む。
`k` は読めている byte 数で、16 bit の形では 4 byte 目までそろっている必要がある。 -/
theorem frameLengths_frame (f : WireFrame) (hk : f.key = none) (hn : f.payload.length < 65536)
    (more : Bytes) {k : Nat} (h2 : 2 ≤ k) :
    ∃ t, (f.encode ++ more).take k = f.byte0 :: (lenField false f.payload.length).headD 0 :: t ∧
      frameLengths ((f.encode ++ more).take k) ((lenField false f.payload.length).headD 0) =
        if f.payload.length < 126 ∨ 4 ≤ k then some (headLen f.payload.length, f.payload.length)
        else none := by
  obtain ⟨b, ext, hfield, -, hform⟩ := lenField_form false (n := f.payload.length) (by omega)
  obtain ⟨k, rfl⟩ : ∃ k', k = k' + 2 := ⟨k - 2, by omega⟩
  have ht : (f.encode ++ more).take (k + 2) = f.byte0 :: b :: (ext ++ f.payload ++ more).take k := by
    rw [encode_unmasked f hk, hfield]; simp
  refine ⟨_, by rw [ht, hfield]; rfl, ?_⟩
  · rw [ht, hfield, List.headD_cons, frameLengths_cons]
    rcases hform with ⟨h1, hb, rfl⟩ | ⟨h1, -, hb, hl, hv⟩ | ⟨h1, -⟩
    · rw [if_neg (by omega), if_neg (by omega), hb, if_pos (.inl h1), headLen, if_pos h1]
    · rw [if_pos hb, headLen, if_neg (show ¬ f.payload.length < 126 by omega)]
      have hlen : (List.take k (ext ++ f.payload ++ more)).length = min k (2 + f.payload.length + more.length) := by
        simp only [List.length_take, List.length_append, hl]
      by_cases h4 : 4 ≤ k + 2
      · rw [if_neg (show ¬ (List.take k (ext ++ f.payload ++ more)).length < 2 by omega),
          if_pos (.inr h4), extLen16_take (by omega), List.append_assoc, extLen16_append hl, hv]
      · rw [if_pos (show (List.take k (ext ++ f.payload ++ more)).length < 2 by omega),
          if_neg (show ¬ (f.payload.length < 126 ∨ 4 ≤ k + 2) by omega)]
    · omega

theorem lenField_length {n : Nat} (hn : n < 65536) : (lenField false n).length + 1 = headLen n := by
  unfold lenField headLen
  split_ifs <;> simp only [List.length_cons, List.length_nil, length_beBytes]; omega

theorem getD_one_take (b0 b : UInt8) (t : Bytes) : (b0 :: b :: t).getD 1 0 = b := rfl

theorem two_le_headLen (n : Nat) : 2 ≤ headLen n := by
  unfold headLen; split <;> omega

/-- **そろった frame は一つ切り出される。** 65536 byte 未満の unmasked frame が `read_buffer` の
先頭にそろっていれば、`processFrames` は FIN、opcode、payload を `handleFrame` に渡し、残りで続ける。 -/
theorem processFrames_frame (c : WsClient) (f : WireFrame) (hk : f.key = none)
    (hn : f.payload.length < 65536) (rest : Bytes) :
    processFrames { c with readBuffer := f.encode ++ rest } =
      processFrames (handleFrame f.opcode.val.toUInt8 f.fin f.payload { c with readBuffer := rest }) := by
  have hL := lenField_length hn
  have hE := encode_length f hk
  have hlen : (f.encode ++ rest).length = headLen f.payload.length + f.payload.length + rest.length := by
    rw [List.length_append]; omega
  have h2 := two_le_headLen f.payload.length
  obtain ⟨t, ht, hfl⟩ := frameLengths_frame f hk hn rest (k := (f.encode ++ rest).length) (by omega)
  rw [List.take_length] at ht hfl
  have h4 : f.payload.length < 126 ∨ 4 ≤ (f.encode ++ rest).length := by
    unfold headLen at hlen; split_ifs at hlen <;> omega
  rw [if_pos h4] at hfl
  rw [processFrames_of_some ({ c with readBuffer := f.encode ++ rest } : WsClient)
    (show 2 ≤ (f.encode ++ rest).length by omega)
    (by rw [ht, getD_one_take, ← ht]; exact hfl) (show _ ≤ (f.encode ++ rest).length by omega)]
  have hdrop : (f.encode ++ rest).drop (headLen f.payload.length) = f.payload ++ rest := by
    rw [encode_unmasked f hk, ← hL, List.cons_append, List.drop_succ_cons, List.append_assoc,
      List.drop_left]
  have h0 : (f.encode ++ rest).getD 0 0 = f.byte0 := by rw [encode_unmasked f hk]; rfl
  rw [hdrop, List.take_left', h0, (byte0_fields f).1, (byte0_fields f).2, ← List.drop_drop, hdrop,
    List.drop_left]
  rfl

/-! ## 読みの分け方によらない -/

theorem handleFrame_setBuffer (opcode : UInt8) (fin : Bool) (payload : Bytes) (c : WsClient)
    (buf : Bytes) :
    handleFrame opcode fin payload { c with readBuffer := buf } =
      { handleFrame opcode fin payload c with readBuffer := buf } := by
  unfold handleFrame WsClient.close
  split_ifs <;> rfl

theorem handleFrame_append (opcode : UInt8) (fin : Bool) (payload : Bytes) (c : WsClient)
    (buf more : Bytes) :
    handleFrame opcode fin payload { c with readBuffer := buf ++ more } =
      { handleFrame opcode fin payload { c with readBuffer := buf } with
        readBuffer := (handleFrame opcode fin payload { c with readBuffer := buf }).readBuffer ++ more } := by
  simp only [handleFrame_setBuffer, handleFrame_readBuffer]

/-- header が読めた長さは、後ろに byte が足されても変わらない。 -/
theorem frameLengths_append {buf : Bytes} {b1 : UInt8} {h p : Nat}
    (e : frameLengths buf b1 = some (h, p)) (more : Bytes) :
    frameLengths (buf ++ more) b1 = some (h, p) := by
  have hg : ∀ i, i < buf.length → (buf ++ more).getD i 0 = buf.getD i 0 := fun i hi => by
    simp only [List.getD_eq_getElem?_getD, List.getElem?_append_left hi]
  unfold frameLengths at e ⊢
  dsimp only at e ⊢
  rw [List.length_append]
  by_cases h126 : (b1 &&& 0x7F).toNat = 126
  · rw [if_pos h126] at e ⊢
    by_cases h4 : buf.length < 4
    · rw [if_pos h4] at e; cases e
    · rw [if_neg h4] at e
      rw [if_neg (by omega), hg 2 (by omega), hg 3 (by omega)]
      exact e
  · rw [if_neg h126] at e ⊢
    by_cases h127 : (b1 &&& 0x7F).toNat = 127
    · rw [if_pos h127] at e ⊢
      by_cases h10 : buf.length < 10
      · rw [if_pos h10] at e; cases e
      · rw [if_neg h10] at e; rw [if_neg (by omega)]; exact e
    · rw [if_neg h127] at e ⊢; exact e

/-- **`processFrames` は読みの分け方によらない。** 今の `read_buffer` を処理してから `more` を足して
処理しても、`more` を足してから一度に処理しても同じ状態になる。どんな byte 列でも成り立つ。 -/
theorem processFrames_append (more : Bytes) : ∀ (n : Nat) (c : WsClient), c.readBuffer.length = n →
    processFrames { c with readBuffer := c.readBuffer ++ more } =
      processFrames { processFrames c with readBuffer := (processFrames c).readBuffer ++ more } := by
  intro n
  induction n using Nat.strong_induction_on with
  | _ n ih =>
  intro c hn
  have hsame : processFrames c = c →
      processFrames { c with readBuffer := c.readBuffer ++ more } =
        processFrames { processFrames c with readBuffer := (processFrames c).readBuffer ++ more } :=
    fun h => by rw [h]
  by_cases h2 : 2 ≤ c.readBuffer.length
  swap
  · exact hsame (processFrames_of_lt c (by omega))
  cases hl : frameLengths c.readBuffer (c.readBuffer.getD 1 0) with
  | none => exact hsame (processFrames_of_none c h2 hl)
  | some hp =>
    obtain ⟨h, p⟩ := hp
    by_cases hs : c.readBuffer.length < h + p
    · exact hsame (processFrames_of_short c h2 hl hs)
    have hg : ∀ i, i < c.readBuffer.length → (c.readBuffer ++ more).getD i 0 = c.readBuffer.getD i 0 :=
      fun i hi => by simp only [List.getD_eq_getElem?_getD, List.getElem?_append_left hi]
    have h2' : 2 ≤ ({ c with readBuffer := c.readBuffer ++ more } : WsClient).readBuffer.length := by
      show 2 ≤ (c.readBuffer ++ more).length; rw [List.length_append]; omega
    have hl' : frameLengths (c.readBuffer ++ more) ((c.readBuffer ++ more).getD 1 0) = some (h, p) := by
      rw [hg 1 (by omega)]; exact frameLengths_append hl more
    have hle := frameLengths_two_le hl
    rw [processFrames_of_some c h2 hl (by omega), processFrames_of_some _ h2' hl'
      (by show _ ≤ (c.readBuffer ++ more).length; rw [List.length_append]; omega)]
    dsimp only
    rw [hg 0 (by omega), List.drop_append_of_le_length (by omega),
      List.take_append_of_le_length (by simp only [List.length_drop]; omega),
      List.drop_append_of_le_length (by omega), handleFrame_append]
    exact ih _ (by rw [handleFrame_readBuffer, List.length_drop]; omega) _ rfl

theorem processFrames_idem (c : WsClient) : processFrames (processFrames c) = processFrames c := by
  have := processFrames_append [] _ c rfl
  simp only [List.append_nil] at this
  exact this.symm

/-- 処理し終えた状態から読み始めれば、どう分けて読んでも、全部を一度に読んで処理したのと同じ。 -/
theorem run_eq_processFrames (chunks : List Chunk) : ∀ c : WsClient, processFrames c = c →
    run c chunks = processFrames { c with readBuffer := c.readBuffer ++ (chunks.map Chunk.bytes).flatten } := by
  induction chunks with
  | nil => intro c hc; rw [List.map_nil, List.flatten_nil, List.append_nil]; exact hc.symm
  | cons ch chs ih =>
    intro c hc
    rw [run, List.foldl_cons, ← run, readHandler, ih _ (processFrames_idem _),
      ← processFrames_append (chs.map Chunk.bytes).flatten _ _ rfl, List.map_cons, List.flatten_cons,
      List.append_assoc]

/-! ## 7 bit と 16 bit の frame の列 -/

/-- `handleFrame` を frame の列に順に当てる。 -/
def handleAll (c : WsClient) (fs : List WireFrame) : WsClient :=
  fs.foldl (fun c f => handleFrame f.opcode.val.toUInt8 f.fin f.payload c) c

/-- 長さ欄が 7 bit か 16 bit の、mask しない frame。 -/
def Small (f : WireFrame) : Prop := f.key = none ∧ f.payload.length < 65536

/-- 読みかけのまま待つ byte 列。`processFrames` はこれを `read_buffer` に残して止まる。 -/
def Stuck (r : Bytes) : Prop := ∀ c : WsClient, processFrames { c with readBuffer := r } = { c with readBuffer := r }

theorem stuck_nil : Stuck [] := fun c => processFrames_of_lt _ (by show 0 < 2; omega)

/-- そろった frame を先頭から全部切り出し、読みかけの部分で止まる。 -/
theorem processFrames_frames {r : Bytes} (hr : Stuck r) :
    ∀ (fs : List WireFrame) (c : WsClient), (∀ f ∈ fs, Small f) →
      processFrames { c with readBuffer := (fs.map WireFrame.encode).flatten ++ r } =
        { handleAll c fs with readBuffer := r }
  | [], c, _ => hr c
  | f :: fs, c, hs => by
    have hf := hs f (List.mem_cons_self f fs)
    rw [List.map_cons, List.flatten_cons, List.append_assoc, processFrames_frame c f hf.1 hf.2,
      handleFrame_setBuffer,
      processFrames_frames hr fs _ (fun g hg => hs g (List.mem_cons_of_mem f hg))]
    rfl

/-- そろった frame の列と読みかけの部分が届いていれば、どう分けて読んでも、そろった frame だけが
`handleFrame` に渡り、読みかけの部分が `read_buffer` に残る。 -/
theorem run_frames (fs : List WireFrame) (hs : ∀ f ∈ fs, Small f) {r : Bytes} (hr : Stuck r)
    (chunks : List Chunk) (hc : (chunks.map Chunk.bytes).flatten = (fs.map WireFrame.encode).flatten ++ r) :
    run {} chunks = { handleAll {} fs with readBuffer := r } := by
  rw [run_eq_processFrames chunks {} (processFrames_of_lt _ (by show 0 < 2; omega)), hc]
  exact processFrames_frames hr fs {} hs

/-! ## message -/

/-- 一つの message の、最初の data frame の後ろ。Continuation frame が続き、最後に FIN が立つ。
間に Ping と Pong が入ってよい。`q` は Continuation の payload の連結。 -/
inductive Continues : List WireFrame → Bytes → Prop
  | last {f : WireFrame} : f.fin = true → f.opcode.val = 0 → Continues [f] f.payload
  | more {f : WireFrame} {fs : List WireFrame} {q : Bytes} :
      f.fin = false → f.opcode.val = 0 → Continues fs q → Continues (f :: fs) (f.payload ++ q)
  | control {f : WireFrame} {fs : List WireFrame} {q : Bytes} :
      (f.opcode.val = 9 ∨ f.opcode.val = 10) → Continues fs q → Continues (f :: fs) q

/-- 一つの message を運ぶ frame の列と、その payload の連結。Text か Binary の frame 一つ（FIN）か、
FIN のない Text か Binary の frame の後に `Continues`。 -/
inductive Carries : List WireFrame → Bytes → Prop
  | single {f : WireFrame} : f.fin = true → (f.opcode.val = 1 ∨ f.opcode.val = 2) → Carries [f] f.payload
  | first {f : WireFrame} {fs : List WireFrame} {q : Bytes} :
      f.fin = false → (f.opcode.val = 1 ∨ f.opcode.val = 2) → Continues fs q →
      Carries (f :: fs) (f.payload ++ q)

/-- message の列を運ぶ frame の列。 -/
inductive Messages : List WireFrame → List Bytes → Prop
  | nil : Messages [] []
  | cons {fs gs : List WireFrame} {p : Bytes} {ps : List Bytes} :
      Carries fs p → Messages gs ps → Messages (fs ++ gs) (p :: ps)

theorem handleFrame_continuation (fin : Bool) (payload : Bytes) (c : WsClient) :
    handleFrame 0 fin payload c =
      if fin then { c with delivered := c.delivered ++ [c.fragmentBuffer ++ payload], fragmentBuffer := [] }
      else { c with fragmentBuffer := c.fragmentBuffer ++ payload } := if_pos rfl

theorem handleFrame_data {opcode : UInt8} (ho : opcode = 1 ∨ opcode = 2) (fin : Bool) (payload : Bytes)
    (c : WsClient) :
    handleFrame opcode fin payload c =
      if fin then { c with delivered := c.delivered ++ [payload] }
      else { c with fragmentBuffer := payload } := by
  rw [handleFrame, if_neg (by rcases ho with rfl | rfl <;> decide), if_pos ho]

theorem handleFrame_control {opcode : UInt8} (ho : opcode = 9 ∨ opcode = 10) (fin : Bool)
    (payload : Bytes) (c : WsClient) : handleFrame opcode fin payload c = c := by
  rcases ho with rfl | rfl <;> rfl

theorem handleAll_cons (c : WsClient) (f : WireFrame) (fs : List WireFrame) :
    handleAll c (f :: fs) = handleAll (handleFrame f.opcode.val.toUInt8 f.fin f.payload c) fs := rfl

/-- Continuation の opcode。 -/
theorem cont_opcode {f : WireFrame} (hop : f.opcode.val = 0) : f.opcode.val.toUInt8 = 0 := by
  rw [hop]; rfl

theorem handleAll_append (c : WsClient) (fs gs : List WireFrame) :
    handleAll c (fs ++ gs) = handleAll (handleAll c fs) gs := List.foldl_append _ _ _ _

theorem handleAll_continues {fs : List WireFrame} {q : Bytes} (h : Continues fs q) :
    ∀ c : WsClient, handleAll c fs =
      { c with delivered := c.delivered ++ [c.fragmentBuffer ++ q], fragmentBuffer := [] } := by
  induction h with
  | last hfin hop =>
    intro c
    rw [handleAll_cons, cont_opcode hop, handleFrame_continuation, hfin, if_pos rfl]
    rfl
  | more hfin hop _ ih =>
    intro c
    rw [handleAll_cons, cont_opcode hop, handleFrame_continuation, hfin,
      if_neg Bool.false_ne_true, ih]
    simp only [List.append_assoc]
  | control hop _ ih =>
    intro c
    rw [handleAll_cons, handleFrame_control (by rcases hop with hop | hop <;> rw [hop] <;> decide), ih]

/-- Text と Binary の opcode。 -/
theorem data_opcode {f : WireFrame} (hop : f.opcode.val = 1 ∨ f.opcode.val = 2) :
    f.opcode.val.toUInt8 = 1 ∨ f.opcode.val.toUInt8 = 2 := by
  rcases hop with hop | hop <;> rw [hop] <;> decide

theorem handleAll_carries {fs : List WireFrame} {p : Bytes} (h : Carries fs p) (c : WsClient) :
    ∃ fb, handleAll c fs = { c with delivered := c.delivered ++ [p], fragmentBuffer := fb } := by
  cases h with
  | single hfin hop =>
    refine ⟨c.fragmentBuffer, ?_⟩
    rw [handleAll_cons, handleFrame_data (data_opcode hop), hfin, if_pos rfl]
    rfl
  | first hfin hop hq =>
    refine ⟨[], ?_⟩
    rw [handleAll_cons, handleFrame_data (data_opcode hop), hfin, if_neg Bool.false_ne_true,
      handleAll_continues hq]

theorem handleAll_messages {fs : List WireFrame} {ps : List Bytes} (h : Messages fs ps) :
    ∀ c : WsClient, (handleAll c fs).delivered = c.delivered ++ ps := by
  induction h with
  | nil => intro c; rw [List.append_nil]; rfl
  | cons hp _ ih =>
    intro c
    obtain ⟨fb, hfb⟩ := handleAll_carries hp c
    rw [handleAll_append, hfb, ih]
    simp only [List.append_assoc, List.singleton_append]

/-- **7 bit と 16 bit の長さ欄の frame だけで運ぶ message の列は、どう分けて読んでも、
`onMessage` に一度ずつ、順に、連結した payload で渡される。** 読み終えると `read_buffer` は空。 -/
theorem run_delivers_in_order {fs : List WireFrame} {msgs : List Bytes} (hm : Messages fs msgs)
    (hs : ∀ f ∈ fs, Small f) (chunks : List Chunk)
    (hc : (chunks.map Chunk.bytes).flatten = (fs.map WireFrame.encode).flatten) :
    (run {} chunks).delivered = msgs ∧ (run {} chunks).readBuffer = [] := by
  rw [run_frames fs hs stuck_nil chunks (by rw [hc, List.append_nil])]
  exact ⟨(handleAll_messages hm {}).trans (List.nil_append _), rfl⟩

theorem run_delivers_in_order_split :
    (run {} [⟨[0x81, 0x02, 0x68], by decide⟩, ⟨[0x69, 0x01, 0x01, 0x61, 0x80, 0x01, 0x62], by decide⟩]).delivered =
      [[0x68, 0x69], [0x61, 0x62]] ∧
    (run {} [⟨[0x81, 0x02, 0x68], by decide⟩, ⟨[0x69, 0x01, 0x01, 0x61, 0x80, 0x01, 0x62], by decide⟩]).readBuffer = [] :=
  @run_delivers_in_order [⟨true, 0, 1, none, [0x68, 0x69], by decide⟩, ⟨false, 0, 1, none, [0x61], by decide⟩,
      ⟨true, 0, 0, none, [0x62], by decide⟩] [[0x68, 0x69], [0x61, 0x62]]
    (@Messages.cons [_] [_, _] _ _ (.single rfl (.inl rfl))
      (@Messages.cons [_, _] [] _ _ (.first rfl (.inl rfl) (.last rfl rfl)) .nil))
    (by unfold Small; decide) _ (by decide)

/-! ## 64 bit の長さ欄 -/

theorem handleFrame_delivered (opcode : UInt8) (fin : Bool) (payload : Bytes) (c : WsClient) :
    ∃ ms, (handleFrame opcode fin payload c).delivered = c.delivered ++ ms := by
  unfold handleFrame WsClient.close
  split_ifs
  all_goals first | exact ⟨_, rfl⟩ | exact ⟨[], (List.append_nil _).symm⟩

/-- `processFrames` は `onMessage` の呼び出しを後ろに足すだけで、前の呼び出しは変えない。 -/
theorem processFrames_delivered (c : WsClient) :
    ∃ ms, (processFrames c).delivered = c.delivered ++ ms := by
  induction c using processFrames.induct with
  | case1 c h2 _ hl => exact ⟨[], by rw [processFrames_of_none c h2 hl, List.append_nil]⟩
  | case2 c h2 _ h p hl hs => exact ⟨[], by rw [processFrames_of_short c h2 hl hs, List.append_nil]⟩
  | case3 c h2 _ _ h p hl hs ih =>
    obtain ⟨ms, hms⟩ := ih
    obtain ⟨ms', hms'⟩ := handleFrame_delivered (c.readBuffer.getD 0 0 &&& 0x0F)
      (c.readBuffer.getD 0 0 &&& 0x80 != 0) ((c.readBuffer.drop h).take p)
      { c with readBuffer := c.readBuffer.drop (h + p) }
    refine ⟨ms' ++ ms, ?_⟩
    rw [processFrames_of_some c h2 hl (by omega), hms, hms', List.append_assoc]
  | case4 c h2 => exact ⟨[], by rw [processFrames_of_lt c (by omega), List.append_nil]⟩

/-- 64 bit の長さ欄の frame は、header の 10 byte の後の 127 byte を payload として切り出され、
残りは次の frame の header として読まれる。 -/
theorem processFrames_long (c : WsClient) (f : WireFrame) (hk : f.key = none)
    (hlong : 65536 ≤ f.payload.length) (rest : Bytes) :
    processFrames { c with readBuffer := f.encode ++ rest } =
      processFrames (handleFrame f.opcode.val.toUInt8 f.fin (f.payload.take 127)
        { c with readBuffer := f.payload.drop 127 ++ rest }) := by
  obtain ⟨b, ext, hfield, -, hform⟩ := lenField_form false f.short
  obtain ⟨-, hb, hl, -⟩ : 65535 < f.payload.length ∧ (b &&& 0x7F).toNat = 127 ∧ ext.length = 8 ∧
      extLen64 ext = f.payload.length := by
    rcases hform with ⟨h1, -⟩ | ⟨-, h2, -⟩ | h
    · omega
    · omega
    · exact h
  have hbuf : f.encode ++ rest = f.byte0 :: b :: (ext ++ (f.payload ++ rest)) := by
    rw [encode_unmasked f hk, hfield]; simp
  have hlen : (f.encode ++ rest).length = 10 + f.payload.length + rest.length := by
    rw [hbuf]; simp only [List.length_cons, List.length_append, hl]; omega
  have hfl : frameLengths (f.encode ++ rest) ((f.encode ++ rest).getD 1 0) = some (10, 127) := by
    rw [hbuf, getD_one_take, frameLengths_cons, if_neg (show ¬ (b &&& 0x7F).toNat = 126 by omega),
      if_pos hb, if_neg (show ¬ (ext ++ (f.payload ++ rest)).length < 8 by
        simp only [List.length_append, hl]; omega)]
  have hd10 : (f.encode ++ rest).drop 10 = f.payload ++ rest := by
    rw [hbuf, List.drop_succ_cons, List.drop_succ_cons, List.drop_left' hl]
  have h0 : (f.encode ++ rest).getD 0 0 = f.byte0 := by rw [hbuf]; rfl
  rw [processFrames_of_some ({ c with readBuffer := f.encode ++ rest } : WsClient)
    (show 2 ≤ (f.encode ++ rest).length by omega) hfl
    (show 10 + 127 ≤ (f.encode ++ rest).length by omega)]
  dsimp only
  rw [hd10, List.take_append_of_le_length (by omega), h0, (byte0_fields f).1, (byte0_fields f).2,
    ← List.drop_drop, hd10, List.drop_append_of_le_length (by omega)]

/-- **64 bit の長さ欄の frame は 127 byte で切られる。** payload が 65536 byte 以上の Text か Binary の
frame（FIN、mask なし）で始まる流れを、どう分けて読んでも、`onMessage` が最初に受け取るのは
payload の先頭 127 byte で、payload そのものではない。 -/
theorem run_long_frame_truncated (f : WireFrame) (hk : f.key = none)
    (hop : f.opcode.val = 1 ∨ f.opcode.val = 2) (hfin : f.fin = true) (hlong : 65536 ≤ f.payload.length)
    (rest : Bytes) (chunks : List Chunk) (hc : (chunks.map Chunk.bytes).flatten = f.encode ++ rest) :
    (∃ more, (run {} chunks).delivered = f.payload.take 127 :: more) ∧ f.payload.take 127 ≠ f.payload := by
  refine ⟨?_, fun h => by have := congrArg List.length h; rw [List.length_take] at this; omega⟩
  obtain ⟨ms, hms⟩ := processFrames_delivered (handleFrame f.opcode.val.toUInt8 f.fin
    (f.payload.take 127) { ({} : WsClient) with readBuffer := f.payload.drop 127 ++ rest })
  refine ⟨ms, ?_⟩
  rw [run_eq_processFrames chunks {} (processFrames_of_lt _ (by show 0 < 2; omega)), hc]
  show (processFrames { ({} : WsClient) with readBuffer := f.encode ++ rest }).delivered = _
  rw [processFrames_long {} f hk hlong rest, hms, handleFrame_data (data_opcode hop), hfin, if_pos rfl]
  rfl



/-- payload が `a` を 65536 個並べた Text frame（FIN、mask なし）。 -/
def longText : WireFrame :=
  ⟨true, 0, 1, none, List.replicate 65536 0x61, by rw [List.length_replicate]; decide⟩

theorem longText_length : 65536 ≤ longText.payload.length := by
  show 65536 ≤ (List.replicate 65536 (0x61 : UInt8)).length
  rw [List.length_replicate]

/-- 65536 byte の Text frame を、8192 byte ずつの読みで受ける。 -/
theorem run_long_frame_truncated_text :
    longText.key = none ∧ (longText.opcode.val = 1 ∨ longText.opcode.val = 2) ∧ longText.fin = true ∧
      65536 ≤ longText.payload.length ∧
      ((Chunk.split longText.encode).map Chunk.bytes).flatten = longText.encode ++ [] ∧
      (∃ more, (run {} (Chunk.split longText.encode)).delivered = longText.payload.take 127 :: more) ∧
      longText.payload.take 127 ≠ longText.payload :=
  ⟨rfl, .inl rfl, rfl, longText_length, by rw [Chunk.split_bytes, List.append_nil],
    run_long_frame_truncated longText rfl (.inl rfl) rfl longText_length [] (Chunk.split longText.encode)
      (by rw [Chunk.split_bytes, List.append_nil])⟩

end Gg.Ggnet
