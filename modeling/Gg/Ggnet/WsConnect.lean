import Gg.Ggnet.WsClient
import Gg.Ggnet.Http

/-!
# ggnet の `WsClient` の接続

`ggnet/ws_client.hpp` の `connect`、`send`、`close`、`sendHandshake`、`sendRaw`、`doWrite`
（54–194 行）と、`readHandler`、`processBuffer`（196–245 行）。受け取った frame の処理は
`Gg.Ggnet.WsClient` の `processFrames` と `handleFrame` である。TLS の枝（`GGNET_ENABLE_SSL`）は
置かない。

## 仕組み

loop thread の上で起きることを `Event` の列で表す。fd が読めるとき（`readHandler`）、書けるとき
（`doWrite`）、`send` が `runInLoop` に積んだ task が走るときの三つである。`::send` と `recv` の
戻り値は事象が持つ。

* `write_queue` には、まず `sendHandshake` の request が積まれ、その後に `send` の task が作った
  frame が積まれる。どの事象の列の後でも、socket が受け取った byte の後に `write_queue` を続けると、
  request の後に frame を順に並べたものになる（`run_wire`）。frame は RFC 6455 の、FIN を立てて
  mask した frame である（`sendTaskFrame_eq_encode`）。
* `onOpenCb` は高々一度しか呼ばれない。それより前に走った `send` の task は何も積まずに終わる
  （`run_open_once`）。
* `processBuffer` は `\r\n\r\n` が届くまで待つ。`read_buffer` のどこかに `101 Switching Protocols`
  があれば接続し、なければ `close()` する。応答の header がそれを含み、その後に 7 bit と 16 bit の
  長さ欄の frame が続くとする。そのときは、どう分けて読んでも、どの事象をはさんでも、`onOpen` は
  一度だけ呼ばれ、message は順に `onMessage` に渡る（`run_handshake_delivers`）。
* `101 Switching Protocols` を探す範囲は header ではなく `read_buffer` 全体である
  （`processBuffer_accept`、`processBuffer_reject`）。

## 鍵になる並び

`connected` が立つのは `processBuffer` の中だけで、`send` の task はそれを見てから frame を作る。
だから frame が `write_queue` に入るのは handshake の request の後で、`onOpen` より前に `send` した
message は書かれずに捨てられる。接続の後で `connected` が落ちるのは `close()` の中だけで、そこで
fd も閉じる。だから `onOpen` が二度呼ばれることはない。
-/

namespace Gg.Ggnet

open Gg.Ws

/-- `uint8_t mask_key[4] = {0x12, 0x34, 0x56, 0x78}`。 -/
def maskKey : MaskKey := ⟨0x12, 0x34, 0x56, 0x78⟩

/-- `send` の task が組み立てる `frame`。byte の並べ方は gg_ws の `sendFrame` と同じで、opcode は
text なら 1、binary なら 2、mask key は固定である。 -/
def sendTaskFrame (msg : Bytes) (isText : Bool) : Bytes :=
  sendFrameBytes (if isText then 0x1 else 0x2) msg maskKey

/-- **`send` の frame は、FIN を立て、固定の key で mask した RFC 6455 の frame である。** -/
theorem sendTaskFrame_eq_encode (msg : Bytes) (isText : Bool) (h : msg.length < 2 ^ 64) :
    sendTaskFrame msg isText =
      WireFrame.encode ⟨true, 0, if isText then 1 else 2, some maskKey, msg, h⟩ := by
  cases isText <;> exact sendFrameBytes_eq_encode (by decide) h maskKey

/-- `sendHandshake` が組み立てる request。`Sec-WebSocket-Key` は固定の値である。 -/
def handshakeText (host path : Bytes) : Bytes :=
  ascii "GET " ++ path ++ ascii " HTTP/1.1\r\n" ++ ascii "Host: " ++ host ++ ascii "\r\n" ++
    ascii "Upgrade: websocket\r\n" ++ ascii "Connection: Upgrade\r\n" ++
    ascii "Sec-WebSocket-Key: dGhlIHNhbXBsZSBub25jZQ==\r\n" ++ ascii "Sec-WebSocket-Version: 13\r\n" ++
    ascii "\r\n"

/-- `WsClient` のうち、接続してから loop thread の上で読み書きするもの。`ws` は受信の状態
（`Gg.Ggnet.WsClient`）で、`connected` もここにある。`fdOpen` は `sock.fd >= 0` で、fd が loop に
登録されていること。`wire` は socket が受け取った byte、`framed` は `sendRaw` に渡した frame の
message と種類、`opens` は `onOpenCb` を呼んだ回数で、この三つは記録である。 -/
structure Conn where
  ws : WsClient := { connected := false }
  host : Bytes := []
  path : Bytes := []
  writeQueue : Bytes := []
  fdOpen : Bool := true
  wire : Bytes := []
  framed : List (Bytes × Bool) := []
  opens : Nat := 0

/-- loop thread の上の事象。`sent` は `doWrite` の `::send` の戻り値。 -/
inductive Event where
  /-- EPOLLIN で `readHandler`。`res` は `recv` の結果。 -/
  | readable (sent : Int) (res : RecvResult)
  /-- EPOLLOUT で `doWrite`。 -/
  | writable (sent : Int)
  /-- `send(msg, is_text)` が `runInLoop` に積んだ task。 -/
  | task (msg : Bytes) (isText : Bool) (sent : Int)

/-- `recv` が返した byte 列。 -/
def Event.chunk : Event → Option Bytes
  | .readable _ (.data chunk) => some chunk.bytes
  | _ => none

/-- `recv` が 0 を返す（相手が閉じた）事象。 -/
def Event.peerClosed : Event → Bool
  | .readable _ .closed => true
  | _ => false

namespace Conn

/-- `sendHandshake()`。request を `write_queue` に積むだけで、書くのは `doWrite`。 -/
def sendHandshake (c : Conn) : Conn :=
  { c with writeQueue := c.writeQueue ++ handshakeText c.host c.path }

/-- `connect` が `sendHandshake` を終えたときの状態。socket はつながったとする。 -/
def init (url : Url) : Conn := sendHandshake { host := url.host, path := url.path }

/-- `connect(url_str)`。`parseUrl` の `std::stoi` の例外はそのまま出る。 -/
def connect (urlStr : Bytes) : Except StoiError Conn := (parseUrl urlStr).map init

/-- `doWrite()`。`::send` が正の数を返せば、その分を `write_queue` の先頭から socket へ移す。 -/
def doWrite (c : Conn) (sent : Int) : Conn :=
  if c.writeQueue = [] then c
  else if 0 < sent then
    { c with writeQueue := c.writeQueue.drop sent.toNat, wire := c.wire ++ c.writeQueue.take sent.toNat }
  else c

/-- `sendRaw(data, len)`。 -/
def sendRaw (c : Conn) (data : Bytes) (sent : Int) : Conn :=
  doWrite { c with writeQueue := c.writeQueue ++ data } sent

/-- `send` の task。`if (!connected) return;` の後で frame を作り、`sendRaw` に渡す。 -/
def sendTask (c : Conn) (msg : Bytes) (isText : Bool) (sent : Int) : Conn :=
  if c.ws.connected then
    sendRaw { c with framed := c.framed ++ [(msg, isText)] } (sendTaskFrame msg isText) sent
  else c

/-- `close()`。`connected` を落とし、`removeFd` と `sock.close()` で fd を閉じ、`onCloseCb` を呼ぶ。 -/
def close (c : Conn) : Conn := { c with ws := c.ws.close, fdOpen := false }

/-- `processFrames()` の後。その中の `handleFrame` が Close frame で `close()` を呼んでいれば
（`connected` が落ちていれば）、fd も閉じている。 -/
def afterFrames (c : Conn) (ws : WsClient) : Conn :=
  if c.ws.connected && !ws.connected then { c with ws, fdOpen := false } else { c with ws }

/-- handshake の応答を受け入れる。`connected = true; read_buffer.erase(0, header_end + 4);
if (onOpenCb) onOpenCb();` -/
def upgrade (c : Conn) (headerEnd : Nat) : Conn :=
  { c with
    ws := { c.ws with connected := true, readBuffer := c.ws.readBuffer.drop (headerEnd + 4) },
    opens := c.opens + 1 }

/-- `processBuffer()`。 -/
def processBuffer (c : Conn) : Conn :=
  if !c.ws.connected then
    match find c.ws.readBuffer (ascii "\r\n\r\n") 0 with
    | none => c
    | some headerEnd =>
      if (find c.ws.readBuffer (ascii "101 Switching Protocols") 0).isSome then
        let c' := c.upgrade headerEnd
        if c'.ws.readBuffer ≠ [] then c'.afterFrames (processFrames c'.ws) else c'
      else c.close
  else c.afterFrames (processFrames c.ws)

/-- `readHandler()`。先に `doWrite`、次に `recv`。0 なら `close()`、負なら何もしない。 -/
def readHandler (c : Conn) (sent : Int) (res : RecvResult) : Conn :=
  let c := c.doWrite sent
  match res with
  | .data chunk => processBuffer { c with ws := { c.ws with readBuffer := c.ws.readBuffer ++ chunk.bytes } }
  | .closed => c.close
  | .failed _ => c

/-- 一つの事象。fd の handler は、fd が閉じて `removeFd` された後は呼ばれない。 -/
def step (c : Conn) : Event → Conn
  | .readable sent res => if c.fdOpen then c.readHandler sent res else c
  | .writable sent => if c.fdOpen then c.doWrite sent else c
  | .task msg isText sent => c.sendTask msg isText sent

def run (c : Conn) (evs : List Event) : Conn := evs.foldl step c

theorem run_cons (c : Conn) (e : Event) (evs : List Event) : c.run (e :: evs) = (c.step e).run evs :=
  rfl

/-! ## 一歩ができること -/

/-- `doWrite` は `write_queue` と `wire` だけを変え、その連結は変えない。 -/
theorem doWrite_eq (c : Conn) (sent : Int) :
    ∃ q w, c.doWrite sent = { c with writeQueue := q, wire := w } ∧ w ++ q = c.wire ++ c.writeQueue := by
  unfold doWrite
  split_ifs
  · exact ⟨_, _, rfl, rfl⟩
  · exact ⟨_, _, rfl, by rw [List.append_assoc, List.take_append_drop]⟩
  · exact ⟨_, _, rfl, rfl⟩

theorem sendRaw_eq (c : Conn) (data : Bytes) (sent : Int) :
    ∃ q w, c.sendRaw data sent = { c with writeQueue := q, wire := w } ∧
      w ++ q = c.wire ++ c.writeQueue ++ data := by
  obtain ⟨q, w, h, hw⟩ := doWrite_eq { c with writeQueue := c.writeQueue ++ data } sent
  exact ⟨q, w, h, by rw [hw, List.append_assoc]⟩

/-- `send` の task は書く側（`framed`、`write_queue`、`wire`）だけを変える。 -/
theorem sendTask_eq (c : Conn) (msg : Bytes) (isText : Bool) (sent : Int) :
    ∃ f q w, c.sendTask msg isText sent = { c with framed := f, writeQueue := q, wire := w } := by
  unfold sendTask
  split_ifs
  · obtain ⟨q, w, h, -⟩ :=
      sendRaw_eq { c with framed := c.framed ++ [(msg, isText)] } (sendTaskFrame msg isText) sent
    exact ⟨_, q, w, h⟩
  · exact ⟨c.framed, c.writeQueue, c.wire, rfl⟩

/-- `processFrames` の後は、Close frame で接続が落ちていれば fd も閉じ、そうでなければ `ws` を置き
換えるだけ。 -/
theorem afterFrames_cases (c : Conn) (ws : WsClient) :
    (ws.connected = false ∧ c.afterFrames ws = { c with ws, fdOpen := false }) ∨
      ((c.ws.connected = true → ws.connected = true) ∧ c.afterFrames ws = { c with ws }) := by
  unfold afterFrames
  cases hc : c.ws.connected <;> cases hw : ws.connected <;> simp

section Buffer

variable {c : Conn}

theorem processBuffer_of_connected (h : c.ws.connected = true) :
    c.processBuffer = c.afterFrames (processFrames c.ws) := by
  rw [processBuffer, h]; rfl

/-- header の終わりがまだ届いていなければ待つ。 -/
theorem processBuffer_wait (h : c.ws.connected = false)
    (hf : find c.ws.readBuffer (ascii "\r\n\r\n") 0 = none) : c.processBuffer = c := by
  rw [processBuffer, h, hf]; rfl

/-- header が届き、`101 Switching Protocols` が `read_buffer` のどこにもなければ閉じる。 -/
theorem processBuffer_reject {k : Nat} (h : c.ws.connected = false)
    (hf : find c.ws.readBuffer (ascii "\r\n\r\n") 0 = some k)
    (h101 : find c.ws.readBuffer (ascii "101 Switching Protocols") 0 = none) :
    c.processBuffer = c.close := by
  rw [processBuffer, h, hf]; simp [h101]

/-- header が届き、`101 Switching Protocols` が `read_buffer` のどこかにあれば接続し、header の
後ろを frame として処理する。 -/
theorem processBuffer_accept {k : Nat} (h : c.ws.connected = false)
    (hf : find c.ws.readBuffer (ascii "\r\n\r\n") 0 = some k)
    (h101 : (find c.ws.readBuffer (ascii "101 Switching Protocols") 0).isSome) :
    c.processBuffer = if (c.upgrade k).ws.readBuffer ≠ [] then
      (c.upgrade k).afterFrames (processFrames (c.upgrade k).ws) else c.upgrade k := by
  rw [processBuffer, h, hf]; simp only [Bool.not_false, if_true, h101]

end Buffer

/-- **`processBuffer` ができること。** 何もしないか、fd を閉じて接続を落とすか、接続したままで
`ws` を置き換えるか。`onOpen` を呼ぶのは、接続していなかったときだけ。 -/
theorem processBuffer_cases (c : Conn) :
    c.processBuffer = c ∨
      (∃ ws, ws.connected = false ∧ (c.processBuffer = { c with ws, fdOpen := false } ∨
        (c.ws.connected = false ∧ c.processBuffer = { c with ws, fdOpen := false, opens := c.opens + 1 }))) ∨
      ∃ ws, ws.connected = true ∧ ((c.ws.connected = true ∧ c.processBuffer = { c with ws }) ∨
        (c.ws.connected = false ∧ c.processBuffer = { c with ws, opens := c.opens + 1 })) := by
  cases hc : c.ws.connected
  · cases hf : find c.ws.readBuffer (ascii "\r\n\r\n") 0 with
    | none => exact .inl (processBuffer_wait hc hf)
    | some k =>
      cases h101 : find c.ws.readBuffer (ascii "101 Switching Protocols") 0 with
      | none => exact .inr (.inl ⟨_, rfl, .inl (processBuffer_reject hc hf h101)⟩)
      | some j =>
        rw [processBuffer_accept hc hf (by rw [h101]; rfl)]
        split_ifs
        · rcases afterFrames_cases (c.upgrade k) (processFrames (c.upgrade k).ws) with ⟨hw, he⟩ | ⟨hw, he⟩
          · exact .inr (.inl ⟨_, hw, .inr ⟨rfl, he⟩⟩)
          · exact .inr (.inr ⟨_, hw rfl, .inr ⟨rfl, he⟩⟩)
        · exact .inr (.inr ⟨_, rfl, .inr ⟨rfl, rfl⟩⟩)
  · rw [processBuffer_of_connected hc]
    rcases afterFrames_cases c (processFrames c.ws) with ⟨hw, he⟩ | ⟨hw, he⟩
    · exact .inr (.inl ⟨_, hw, .inl he⟩)
    · exact .inr (.inr ⟨_, hw hc, .inl ⟨rfl, he⟩⟩)

/-! ## 書く側と `onOpen` -/

/-- `sendRaw` に渡した frame を順に並べたもの。 -/
def frames (c : Conn) : Bytes := (c.framed.map fun m => sendTaskFrame m.1 m.2).flatten

/-- 接続の不変条件。`req` は `sendHandshake` の request。 -/
structure Inv (req : Bytes) (c : Conn) : Prop where
  /-- socket が受け取った byte の後に `write_queue` を続けると、request の後に frame を並べたもの。 -/
  wire : c.wire ++ c.writeQueue = req ++ c.frames
  /-- 接続していれば、fd は開いていて、`onOpen` は一度呼ばれている。 -/
  opened : c.ws.connected = true → c.fdOpen = true ∧ c.opens = 1
  /-- `onOpen` の後、fd が開いている間は接続している。 -/
  stays : c.fdOpen = true → c.opens ≠ 0 → c.ws.connected = true
  once : c.opens ≤ 1
  /-- `onOpen` の前には frame を作らない。 -/
  quiet : c.opens = 0 → c.framed = []

theorem inv_init (url : Url) : Inv (handshakeText url.host url.path) (init url) where
  wire := by simp [init, sendHandshake, frames]
  opened h := nomatch h
  stays _ h := absurd rfl h
  once := Nat.zero_le _
  quiet _ := rfl

section Steps

variable {req : Bytes} {c : Conn}

theorem Inv.opens_zero (hi : Inv req c) (hfd : c.fdOpen = true) (hc : c.ws.connected = false) :
    c.opens = 0 :=
  Classical.byContradiction fun h => by rw [hi.stays hfd h] at hc; cases hc

theorem Inv.of_write (hi : Inv req c) {q w : Bytes} (hw : w ++ q = c.wire ++ c.writeQueue) :
    Inv req { c with writeQueue := q, wire := w } :=
  ⟨hw.trans hi.wire, hi.opened, hi.stays, hi.once, hi.quiet⟩

theorem Inv.doWrite (hi : Inv req c) (sent : Int) : Inv req (c.doWrite sent) := by
  obtain ⟨q, w, h, hw⟩ := doWrite_eq c sent
  rw [h]
  exact hi.of_write hw

theorem Inv.sendTask (hi : Inv req c) (msg : Bytes) (isText : Bool) (sent : Int) :
    Inv req (c.sendTask msg isText sent) := by
  unfold Conn.sendTask
  split_ifs with hc
  · have h1 := (hi.opened hc).2
    obtain ⟨q, w, h, hw⟩ :=
      sendRaw_eq { c with framed := c.framed ++ [(msg, isText)] } (sendTaskFrame msg isText) sent
    rw [h]
    refine ⟨?_, hi.opened, hi.stays, hi.once, fun h0 => absurd (h1.symm.trans h0) (by decide)⟩
    rw [hw]
    simp [frames, ← List.append_assoc, hi.wire]
  · exact hi

theorem Inv.close (hi : Inv req c) : Inv req c.close :=
  ⟨hi.wire, fun h => (nomatch h), fun h => (nomatch h), hi.once, hi.quiet⟩

theorem Inv.setBuffer (hi : Inv req c) (b : Bytes) : Inv req { c with ws := { c.ws with readBuffer := b } } :=
  ⟨hi.wire, hi.opened, hi.stays, hi.once, hi.quiet⟩

/-- `processBuffer` は不変条件を保つ。接続していなかったときに `onOpen` を呼ぶので、回数は 0 から
1 になる。 -/
theorem Inv.processBuffer (hi : Inv req c) (hfd : c.fdOpen = true) : Inv req c.processBuffer := by
  rcases processBuffer_cases c with h | ⟨ws, hws, h | ⟨hc, h⟩⟩ | ⟨ws, hws, ⟨hc, h⟩ | ⟨hc, h⟩⟩ <;> rw [h]
  · exact hi
  · exact ⟨hi.wire, fun h => absurd (hws.symm.trans h) (by decide), fun h => (nomatch h), hi.once, hi.quiet⟩
  · have h0 := hi.opens_zero hfd hc
    exact ⟨hi.wire, fun h => absurd (hws.symm.trans h) (by decide), fun h => (nomatch h),
      by simp [h0], fun h => by simp [h0] at h⟩
  · exact ⟨hi.wire, fun _ => hi.opened hc, fun _ _ => hws, hi.once, hi.quiet⟩
  · have h0 := hi.opens_zero hfd hc
    exact ⟨hi.wire, fun _ => ⟨hfd, by simp [h0]⟩, fun _ _ => hws, by simp [h0], fun h => by simp [h0] at h⟩

theorem Inv.step (hi : Inv req c) : ∀ e, Inv req (c.step e)
  | .readable sent res => by
    unfold Conn.step
    split_ifs with hfd
    · have hd := hi.doWrite sent
      obtain ⟨q, w, h, -⟩ := doWrite_eq c sent
      unfold readHandler
      cases res with
      | data chunk => exact (hd.setBuffer _).processBuffer (by rw [h]; exact hfd)
      | closed => exact hd.close
      | failed _ => exact hd
    · exact hi
  | .writable sent => by
    unfold Conn.step
    split_ifs
    · exact hi.doWrite sent
    · exact hi
  | .task msg isText sent => hi.sendTask msg isText sent

theorem Inv.run (hi : Inv req c) (evs : List Event) : Inv req (c.run evs) := by
  induction evs generalizing c with
  | nil => exact hi
  | cons e evs ih => exact ih (hi.step e)

end Steps

/-- **socket には、handshake の request と `send` の frame が、この順に、欠けも重なりもなく
書かれる。** 新しい接続から、どの事象の列の後でも（`::send` がどれだけ書いても、書けなくても）、
socket が受け取った byte の後に `write_queue` の残りを続けると、request の後に `sendRaw` に渡した
frame を順に並べたものになる。 -/
theorem run_wire (url : Url) (evs : List Event) :
    ((init url).run evs).wire ++ ((init url).run evs).writeQueue =
      handshakeText url.host url.path ++ ((init url).run evs).frames :=
  ((inv_init url).run evs).wire

/-- **`onOpen` は高々一度しか呼ばれず、その前に走った `send` の task は何も書かない。** 新しい接続
から、どの事象の列の後でも `onOpen` を呼んだ回数は 1 以下である。まだ呼んでいなければ frame は
一つも作られておらず、socket が受け取ったのは handshake の request の先頭だけである。 -/
theorem run_open_once (url : Url) (evs : List Event) :
    ((init url).run evs).opens ≤ 1 ∧ (((init url).run evs).opens = 0 →
      ((init url).run evs).framed = [] ∧ ((init url).run evs).wire <+: handshakeText url.host url.path) := by
  have hi := (inv_init url).run evs
  refine ⟨hi.once, fun h0 => ⟨hi.quiet h0, ?_⟩⟩
  have hw := hi.wire
  rw [frames, hi.quiet h0, List.map_nil, List.flatten_nil, List.append_nil] at hw
  exact ⟨_, hw⟩

/-! ## 受け取る側 -/

/-- `handleFrame` は `connected` を立てない。 -/
theorem handleFrame_connected {opcode : UInt8} {fin : Bool} {payload : Bytes} {c : WsClient}
    (h : (handleFrame opcode fin payload c).connected = true) : c.connected = true := by
  unfold handleFrame WsClient.close at h
  split_ifs at h <;> exact h

/-- `processFrames` も `connected` を立てない。 -/
theorem processFrames_connected : ∀ (n : Nat) (c : WsClient), c.readBuffer.length = n →
    (processFrames c).connected = true → c.connected = true := by
  intro n
  induction n using Nat.strong_induction_on with
  | _ n ih =>
  intro c hn h
  by_cases h2 : 2 ≤ c.readBuffer.length
  · cases hl : frameLengths c.readBuffer (c.readBuffer.getD 1 0) with
    | none => rwa [processFrames_of_none c h2 hl] at h
    | some hp =>
      obtain ⟨hd, p⟩ := hp
      by_cases hs : c.readBuffer.length < hd + p
      · rwa [processFrames_of_short c h2 hl hs] at h
      · rw [processFrames_of_some c h2 hl (by omega)] at h
        have h2h := frameLengths_two_le hl
        have hc := ih (n - (hd + p)) (by omega) _
          (by simp only [handleFrame_readBuffer, List.length_drop]; omega) h
        exact handleFrame_connected (c := { c with readBuffer := c.readBuffer.drop (hd + p) }) hc
  · rwa [processFrames_of_lt c (by omega)] at h

/-- Close frame を含まない message の列は、`connected` を変えない。 -/
theorem handleAll_connected {fs : List WireFrame} {ps : List Bytes} (h : Messages fs ps) :
    ∀ c : WsClient, (handleAll c fs).connected = c.connected := by
  induction h with
  | nil => intro c; rfl
  | cons hp _ ih =>
    intro c
    obtain ⟨fb, hfb⟩ := handleAll_carries hp c
    rw [handleAll_append, hfb, ih]

/-- frame の列 `frames` のどの先頭を `processFrames` しても接続は落ちない。 -/
def Clean (frames : Bytes) : Prop :=
  ∀ y t, y ++ t = frames → (processFrames { readBuffer := y }).connected = true

theorem clean_of_messages {fs : List WireFrame} {ps : List Bytes} (hm : Messages fs ps)
    (hs : ∀ f ∈ fs, Small f) : Clean (fs.map WireFrame.encode).flatten := by
  intro y t hyt
  have hall : processFrames { readBuffer := (fs.map WireFrame.encode).flatten } =
      { handleAll {} fs with readBuffer := [] } := by
    simpa using processFrames_frames stuck_nil fs {} hs
  have hF : (processFrames { readBuffer := y ++ t }).connected = true := by
    rw [hyt, hall]
    exact handleAll_connected hm {}
  have happ : processFrames { readBuffer := y ++ t } = processFrames { processFrames { readBuffer := y } with
      readBuffer := (processFrames { readBuffer := y }).readBuffer ++ t } :=
    processFrames_append t _ { readBuffer := y } rfl
  rw [happ] at hF
  exact processFrames_connected _ { processFrames { readBuffer := y } with
    readBuffer := (processFrames { readBuffer := y }).readBuffer ++ t } rfl hF

/-- 応答の先頭 `p` を読んだ後の受信の側。header の終わりがまだ届いていなければ待っている。
届いていれば接続していて、header の後ろを `processFrames` した状態にある。 -/
def Reading (header : Bytes) (c : Conn) (p : Bytes) : Prop :=
  c.fdOpen = true ∧
    ((p.length < header.length ∧ c.opens = 0 ∧ c.ws = { connected := false, readBuffer := p }) ∨
      ∃ y, p = header ++ y ∧ c.opens = 1 ∧ c.ws = processFrames { readBuffer := y })

section Handshake

variable {header frames : Bytes}

/-- header が `\r\n\r\n` で終わり、それより前にはないなら、header より短い読みかけにはない。 -/
theorem find_crlf_short (hend : find header (ascii "\r\n\r\n") 0 = some (header.length - 4))
    {p t : Bytes} (hp : p ++ t = header ++ frames) (hlt : p.length < header.length) :
    find p (ascii "\r\n\r\n") 0 = none := by
  cases hf : find p (ascii "\r\n\r\n") 0 with
  | none => rfl
  | some k =>
    have hk := find_append t hf
    rw [hp, find_append frames hend] at hk
    have h1 := find_le hf
    have h2 := find_le hend
    rw [show (ascii "\r\n\r\n").length = 4 from rfl] at h1 h2
    cases hk
    omega

theorem short_or_header {q t : Bytes} (h : q ++ t = header ++ frames) :
    q.length < header.length ∨ ∃ y, q = header ++ y := by
  rcases List.append_eq_append_iff.1 h with ⟨a, hh, -⟩ | ⟨y, hy, -⟩
  · by_cases ha : a = []
    · exact .inr ⟨[], by rw [hh, ha, List.append_nil, List.append_nil]⟩
    · left
      rw [hh, List.length_append]
      have := List.length_pos.2 ha
      omega
  · exact .inr ⟨y, hy⟩

theorem Reading.congr {c c' : Conn} {p : Bytes} (hr : Reading header c p) (hw : c'.ws = c.ws)
    (hf : c'.fdOpen = c.fdOpen) (ho : c'.opens = c.opens) : Reading header c' p := by
  rw [Reading, hw, hf, ho]; exact hr

/-- **一つの読み。** 応答の先頭 `p` を読んだ後に、続く `chunk` を `processBuffer` する。まだ header の
途中なら待ち、header が届き終われば接続して `onOpen` を一度呼び、残りを frame として処理する。 -/
theorem Reading.processBuffer (hend : find header (ascii "\r\n\r\n") 0 = some (header.length - 4))
    (h101 : (find header (ascii "101 Switching Protocols") 0).isSome) (hF : Clean frames)
    {c : Conn} {p : Bytes} (hr : Reading header c p) (chunk t : Bytes)
    (ht : p ++ chunk ++ t = header ++ frames) :
    Reading header ({ c with ws := { c.ws with readBuffer := c.ws.readBuffer ++ chunk } }).processBuffer
      (p ++ chunk) := by
  obtain ⟨hfd, ⟨hlt, h0, hws⟩ | ⟨y, rfl, h1, hws⟩⟩ := hr
  · rw [hws]
    rcases short_or_header ht with hshort | ⟨y, hy⟩
    · rw [processBuffer_wait rfl (find_crlf_short hend ht hshort)]
      exact ⟨hfd, .inl ⟨hshort, h0, rfl⟩⟩
    · have h4 := find_le hend
      rw [show (ascii "\r\n\r\n").length = 4 from rfl] at h4
      obtain ⟨j, hj⟩ := Option.isSome_iff_exists.1 h101
      have hyt : y ++ t = frames := by
        rw [hy, List.append_assoc] at ht
        exact List.append_cancel_left ht
      have hdrop : (header ++ y).drop (header.length - 4 + 4) = y := by
        rw [show header.length - 4 + 4 = header.length by omega, List.drop_left]
      rw [processBuffer_accept (k := header.length - 4) rfl (by rw [hy]; exact find_append y hend)
        (by rw [hy, find_append y hj]; rfl)]
      simp only [upgrade, hy, hdrop, h0]
      split_ifs with hne
      · rcases afterFrames_cases _ (processFrames { readBuffer := y }) with ⟨hw, -⟩ | ⟨-, he⟩
        · exact absurd (hF y t hyt) (by rw [hw]; decide)
        · rw [he]
          exact ⟨hfd, .inr ⟨y, rfl, rfl, rfl⟩⟩
      · have hy0 : y = [] := of_not_not hne
        subst hy0
        exact ⟨hfd, .inr ⟨[], rfl, rfl, (processFrames_of_lt { readBuffer := [] } (by decide)).symm⟩⟩
  · have hyt : (y ++ chunk) ++ t = frames := by
      rw [List.append_assoc, List.append_assoc] at ht
      rw [List.append_assoc]
      exact List.append_cancel_left ht
    have hcon : (processFrames { readBuffer := y ++ chunk }).connected = true := hF _ t hyt
    have happ : processFrames { readBuffer := y ++ chunk } = processFrames { processFrames { readBuffer := y } with
        readBuffer := (processFrames { readBuffer := y }).readBuffer ++ chunk } :=
      processFrames_append chunk _ { readBuffer := y } rfl
    rw [processBuffer_of_connected (by rw [hws]; exact hF y (chunk ++ t) (by simpa using hyt))]
    rcases afterFrames_cases _ (processFrames { c.ws with readBuffer := c.ws.readBuffer ++ chunk }) with
      ⟨hw, -⟩ | ⟨-, he⟩
    · rw [hws, ← happ] at hw
      exact absurd hcon (by rw [hw]; decide)
    · rw [he]
      refine ⟨hfd, .inr ⟨y ++ chunk, List.append_assoc _ _ _, h1, ?_⟩⟩
      rw [hws, ← happ]

/-- **読み以外の事象は受信の側を変えない。** fd が書けたとき、`send` の task、`recv` が失敗した読み。 -/
theorem Reading.step_other {c : Conn} {p : Bytes} (hr : Reading header c p) {e : Event}
    (hn : e.chunk = none) (hc : e.peerClosed = false) : Reading header (c.step e) p := by
  have hfd := hr.1
  cases e with
  | readable sent res =>
    cases res with
    | data chunk => cases hn
    | closed => cases hc
    | failed again =>
      obtain ⟨q, w, h, -⟩ := doWrite_eq c sent
      show Reading header (if c.fdOpen then c.readHandler sent (.failed again) else c) p
      rw [if_pos hfd]
      show Reading header (c.doWrite sent) p
      rw [h]
      exact hr.congr rfl rfl rfl
  | writable sent =>
    obtain ⟨q, w, h, -⟩ := doWrite_eq c sent
    rw [Conn.step, if_pos hfd, h]
    exact hr.congr rfl rfl rfl
  | task msg isText sent =>
    obtain ⟨f, q, w, h⟩ := sendTask_eq c msg isText sent
    rw [Conn.step, h]
    exact hr.congr rfl rfl rfl

/-- **どう分けて読んでも、どの事象をはさんでも、応答の読みは進む。** 応答の先頭 `p` を読んだ状態から、
相手が閉じない事象の列を走らせると、届いた分だけ先へ進んだ状態になる。 -/
theorem Reading.run (hend : find header (ascii "\r\n\r\n") 0 = some (header.length - 4))
    (h101 : (find header (ascii "101 Switching Protocols") 0).isSome) (hF : Clean frames) :
    ∀ (evs : List Event) {c : Conn} {p : Bytes}, Reading header c p → (∀ e ∈ evs, e.peerClosed = false) →
      ∀ t, p ++ (evs.filterMap Event.chunk).flatten ++ t = header ++ frames →
        Reading header (c.run evs) (p ++ (evs.filterMap Event.chunk).flatten)
  | [], c, p, hr, _, _, _ => by simpa using hr
  | e :: evs, c, p, hr, hc, t, ht => by
    have hce := hc e (List.mem_cons_self _ _)
    have hcs := fun e' (he : e' ∈ evs) => hc e' (List.mem_cons_of_mem _ he)
    rw [run_cons]
    cases hn : e.chunk with
    | none =>
      rw [List.filterMap_cons_none hn] at ht ⊢
      exact Reading.run hend h101 hF evs (hr.step_other hn hce) hcs t ht
    | some chunk =>
      rw [List.filterMap_cons_some hn, List.flatten_cons, ← List.append_assoc] at ht ⊢
      obtain ⟨sent, ch, rfl, rfl⟩ : ∃ sent ch, e = .readable sent (.data ch) ∧ ch.bytes = chunk := by
        cases e with
        | readable sent res => cases res <;> cases hn; exact ⟨sent, _, rfl, rfl⟩
        | writable _ | task _ _ _ => cases hn
      obtain ⟨q, w, h, -⟩ := doWrite_eq c sent
      have hd : Reading header (c.step (.readable sent (.data ch))) (p ++ ch.bytes) := by
        rw [Conn.step, if_pos hr.1]
        show Reading header (Conn.processBuffer { c.doWrite sent with
          ws := { (c.doWrite sent).ws with readBuffer := (c.doWrite sent).ws.readBuffer ++ ch.bytes } }) (p ++ ch.bytes)
        rw [h]
        exact (show Reading header { c with writeQueue := q, wire := w } p from
          hr.congr rfl rfl rfl).processBuffer hend h101 hF
          ch.bytes ((evs.filterMap Event.chunk).flatten ++ t) (by simpa using ht)
      exact Reading.run hend h101 hF evs hd hcs t ht

end Handshake

/-- **handshake の応答と frame の列は、どう分けて読んでも、どの事象をはさんでも、同じに受け取られる。**
応答の header が `\r\n\r\n` で終わってそれより前にはなく、`101 Switching Protocols` を含み、
その後に 7 bit と 16 bit の長さ欄の frame が message の列を運ぶとする。新しい接続で、相手が閉じない
事象の列の読みがちょうどそれを届けたなら、`onOpen` はちょうど一度呼ばれ、message は一度ずつ順に
`onMessage` に渡り、接続したままで、fd は開いている。 -/
theorem run_handshake_delivers {header : Bytes}
    (hend : find header (ascii "\r\n\r\n") 0 = some (header.length - 4))
    (h101 : (find header (ascii "101 Switching Protocols") 0).isSome)
    {fs : List WireFrame} {msgs : List Bytes} (hm : Messages fs msgs) (hs : ∀ f ∈ fs, Small f)
    (url : Url) (evs : List Event) (hc : ∀ e ∈ evs, e.peerClosed = false)
    (hr : (evs.filterMap Event.chunk).flatten = header ++ (fs.map WireFrame.encode).flatten) :
    ((init url).run evs).opens = 1 ∧ ((init url).run evs).ws.delivered = msgs ∧
      ((init url).run evs).ws.connected = true ∧ ((init url).run evs).fdOpen = true := by
  have h4 := find_le hend
  rw [show (ascii "\r\n\r\n").length = 4 from rfl] at h4
  have h0 : Reading header (init url) [] := ⟨rfl, .inl ⟨by simp; omega, rfl, rfl⟩⟩
  obtain ⟨hfd, ⟨hlt, -⟩ | ⟨y, hy, h1, hws⟩⟩ :=
    h0.run hend h101 (clean_of_messages hm hs) evs hc [] (by simpa using hr)
  · rw [List.nil_append, hr, List.length_append] at hlt
    omega
  · rw [List.nil_append, hr] at hy
    have hy' := List.append_cancel_left hy
    have hall : processFrames { readBuffer := (fs.map WireFrame.encode).flatten } =
        { handleAll {} fs with readBuffer := [] } := by
      simpa using processFrames_frames stuck_nil fs {} hs
    rw [← hy', hall] at hws
    rw [hws]
    exact ⟨h1, by simpa using handleAll_messages hm {}, handleAll_connected hm {}, hfd⟩


/-- `101` の応答を状態行の途中で分け、frame の途中でも分けて読む。間に `send` の task が走る。 -/
theorem run_handshake_delivers_split :
    ((init ⟨ascii "ws", ascii "h", 80, ascii "/"⟩).run [.readable 0 (.data ⟨ascii "HTTP/1.1 101 Swi", by decide⟩),
        .task (ascii "x") true 5, .readable 3 (.data ⟨ascii "tching Protocols\r\n\r\n" ++ [0x81, 0x02, 0x68], by decide⟩),
        .readable 0 (.data ⟨[0x69], by decide⟩)]).opens = 1 ∧
    ((init ⟨ascii "ws", ascii "h", 80, ascii "/"⟩).run [.readable 0 (.data ⟨ascii "HTTP/1.1 101 Swi", by decide⟩),
        .task (ascii "x") true 5, .readable 3 (.data ⟨ascii "tching Protocols\r\n\r\n" ++ [0x81, 0x02, 0x68], by decide⟩),
        .readable 0 (.data ⟨[0x69], by decide⟩)]).ws.delivered = [[0x68, 0x69]] ∧
    ((init ⟨ascii "ws", ascii "h", 80, ascii "/"⟩).run [.readable 0 (.data ⟨ascii "HTTP/1.1 101 Swi", by decide⟩),
        .task (ascii "x") true 5, .readable 3 (.data ⟨ascii "tching Protocols\r\n\r\n" ++ [0x81, 0x02, 0x68], by decide⟩),
        .readable 0 (.data ⟨[0x69], by decide⟩)]).ws.connected = true ∧
    ((init ⟨ascii "ws", ascii "h", 80, ascii "/"⟩).run [.readable 0 (.data ⟨ascii "HTTP/1.1 101 Swi", by decide⟩),
        .task (ascii "x") true 5, .readable 3 (.data ⟨ascii "tching Protocols\r\n\r\n" ++ [0x81, 0x02, 0x68], by decide⟩),
        .readable 0 (.data ⟨[0x69], by decide⟩)]).fdOpen = true :=
  @run_handshake_delivers (ascii "HTTP/1.1 101 Switching Protocols\r\n\r\n") (by decide) (by decide)
    [⟨true, 0, 1, none, [0x68, 0x69], by decide⟩] [[0x68, 0x69]]
    (@Messages.cons [_] [] _ _ (.single rfl (.inl rfl)) .nil) (by unfold Small; decide) _ _ (by decide) (by decide)

end Conn

end Gg.Ggnet
