import Gg.Ws.Frame

/-!
# session の I/O thread

`WebSocket::Impl` の状態のうち I/O thread が読み書きするものと、`readFrame` の振り分け、
各 handler、`handleDisconnect`、`ioLoop`（`part_004` 551–839 行）。

## 外から見えるもの

callback の呼び出しと、`sendFrame` に渡した frame と、再接続前の待ちを `Event` として順に記録する
（`trace`）。登録されていない callback は呼ばれないだけなので、記録するのは呼び出し点である。

## 外から与えるもの

* `isJson` — `Json::parse` が値を返すか。`handleMessage` はそのときだけ `onMessage` を呼ぶ。
* 受信側の transport（`Recv`）と、`waitForData` の答え（`readable`）。
* I/O thread からの再接続の結果（`ConnectOutcome`）。`handleDisconnect` は高々一度しか試さない。

## 再接続の成功は `std::terminate` になる

`handleDisconnect` は I/O thread の上で `connect()` を呼ぶ。成功すると `connect()` は
`ioThread = std::thread(...)` を実行するが、その `ioThread` は今走っている I/O thread 自身で、
まだ joinable である。joinable な `std::thread` への代入は `std::terminate()` を呼ぶ。
`aborted` はこれを記録する。
-/

namespace Gg.Ws

/-- callback の呼び出しと、I/O thread の外から見える動き。 -/
inductive Event where
  /-- `onConnect()`。 -/
  | connect
  /-- `onDisconnect(code)`。 -/
  | disconnect (code : Int)
  /-- `onError(code, msg)`。 -/
  | error (code : Int) (msg : String)
  /-- `onRawMessage(data)`。 -/
  | rawMessage (data : Bytes)
  /-- `onMessage(json)`。`Json::parse(data)` が値を返したとき。 -/
  | message (data : Bytes)
  /-- `onPing(payload)`。 -/
  | ping (payload : Bytes)
  /-- `onPong(payload)`。 -/
  | pong (payload : Bytes)
  /-- `sendFrame(opcode, payload)` が frame を組み立てて書いた。 -/
  | frame (opcode : UInt8) (payload : Bytes)
  /-- `std::this_thread::sleep_for(std::chrono::seconds(1) * n)`。 -/
  | backoff (seconds : Int)
  deriving DecidableEq, Repr

/-- I/O thread が触る `WebSocket::Impl` の状態。 -/
structure Session where
  config : WebSocketConfig
  connected : Bool
  running : Bool
  reconnectAttempts : Int
  /-- `internal::LockFreeQueue<std::string> sendQueue`。FIFO として読む（`Gg/Ws/Queue.lean`）。 -/
  sendQueue : List Bytes
  /-- `HeartbeatManager::waitingPong_`。 -/
  waitingPong : Bool
  /-- `std::terminate()` が呼ばれた。 -/
  aborted : Bool
  trace : List Event
  deriving DecidableEq, Repr

/-- I/O thread の中の `connect()` の結果。失敗はどれも一つの `onError` で終わる。 -/
inductive ConnectOutcome where
  | ok
  | failed (code : Int) (msg : String)
  deriving DecidableEq, Repr

namespace Session

/-- `connect()` の前の状態。`connected` も `running` も立っていない。 -/
def initial (config : WebSocketConfig) : Session :=
  { config, connected := false, running := false, reconnectAttempts := 0, sendQueue := [],
    waitingPong := false, aborted := false, trace := [] }

/-- `connect()` が成功した直後の状態。`onConnect` まで済んでいる。 -/
def opened (config : WebSocketConfig) : Session :=
  { config, connected := true, running := true, reconnectAttempts := 0, sendQueue := [],
    waitingPong := false, aborted := false, trace := [.connect] }

def emit (s : Session) (e : Event) : Session := { s with trace := s.trace ++ [e] }

/-! ## callback と送信 -/

def triggerError (s : Session) (code : Int) (msg : String) : Session := s.emit (.error code msg)

def triggerConnect (s : Session) : Session := s.emit .connect

def triggerDisconnect (s : Session) (code : Int) : Session := s.emit (.disconnect code)

/-- `sendFrame`。`sendMutex` の下で frame を組み立てて書く。 -/
def sendFrame (s : Session) (opcode : UInt8) (payload : Bytes) : Session :=
  s.emit (.frame opcode payload)

/-- `send` / `sendTextMessage`。接続していなければ何もしない。 -/
def send (s : Session) (message : Bytes) : Session :=
  if s.connected then s.sendFrame Opcode.text message else s

def sendPongFrame (s : Session) (payload : Bytes) : Session :=
  if s.connected then s.sendFrame Opcode.pong payload else s

/-- `while (auto msg = sendQueue.pop()) send(*msg);` -/
def drainSendQueue (s : Session) : Session :=
  s.sendQueue.foldl send { s with sendQueue := [] }

/-! ## handler -/

variable (isJson : Bytes → Bool)

def handleMessage (s : Session) (data : Bytes) : Session :=
  let s := s.emit (.rawMessage data)
  if isJson data then s.emit (.message data) else s

def handlePing (s : Session) (payload : Bytes) : Session :=
  let s := if s.config.ping.autoPong then s.sendPongFrame payload else s
  s.emit (.ping payload)

/-- `heartbeat->onPongReceived()` の後に `onPong`。 -/
def handlePong (s : Session) (payload : Bytes) : Session :=
  ({ s with waitingPong := false } : Session).emit (.pong payload)

/-- 2 byte の big-endian の status。短ければ `NoStatusReceived`。 -/
def closeStatus (payload : Bytes) : Int :=
  if payload.length ≥ 2 then ((payload.getD 0 0).toNat <<< 8 ||| (payload.getD 1 0).toNat : Nat)
  else CloseCode.noStatusReceived

/-- `handleClose`。status を取り出すが使わず、`connected` と `running` を落とすだけである。 -/
def handleClose (s : Session) (payload : Bytes) : Session :=
  let _code := closeStatus payload
  { s with connected := false, running := false }

/-- `readFrame` の `switch (opcode)`。`Close` のときだけ `false` を返す。FIN は見ない。 -/
def dispatch (s : Session) (opcode : UInt8) (payload : Bytes) : Session × Bool :=
  if opcode = Opcode.text ∨ opcode = Opcode.binary then (handleMessage isJson s payload, true)
  else if opcode = Opcode.close then (handleClose s payload, false)
  else if opcode = Opcode.ping then (handlePing s payload, true)
  else if opcode = Opcode.pong then (handlePong s payload, true)
  else (s, true)

/-! ## 読みと切断 -/

variable {σ : Type} (r : Recv σ)

/-- `readFrame`。 -/
def readFrame (s : Session) (t : σ) : (Session × Bool) × σ :=
  match decodeFrame r s.config.maxMessageSize t with
  | (.recvFailed, t) => ((s, false), t)
  | (.tooLarge, t) => ((s.triggerError ErrorCode.messageTooLarge "Mensagem muito grande", false), t)
  | (.frame _ opcode payload, t) => (dispatch isJson s opcode payload, t)

/-- 再接続をあきらめる。`running = false` の後に `onDisconnect(AbnormalClosure)`。 -/
def giveUp (s : Session) : Session :=
  ({ s with running := false } : Session).triggerDisconnect CloseCode.abnormalClosure

/--
`handleDisconnect`。試せるなら一度だけ再接続する。成功すれば `connect()` が `connected` と
`running` を立て、joinable な `ioThread` に代入して `std::terminate()` に至る。
-/
def handleDisconnect (s : Session) (reconnect : ConnectOutcome) : Session :=
  let s := { s with connected := false }
  if s.config.autoReconnect ∧ s.reconnectAttempts < s.config.maxReconnectAttempts then
    let s := { s with reconnectAttempts := s.reconnectAttempts + 1 }
    let s := s.emit (.backoff s.reconnectAttempts)
    match reconnect with
    | .ok => { s with connected := true, running := true, reconnectAttempts := 0, aborted := true }
    | .failed code msg => giveUp (s.triggerError code msg)
  else giveUp s

/--
`ioLoop` を `fuel` 回まで回す。`waitForData(100)` が何も読めなければ次の回へ、
`readFrame` が `false` なら、まだ接続中のときだけ `handleDisconnect` を呼んで抜ける。
-/
def ioLoop (readable : σ → Bool) (reconnect : ConnectOutcome) :
    Nat → Session → σ → Session × σ
  | 0, s, t => (s, t)
  | fuel + 1, s, t =>
    if s.aborted ∨ !s.running then (s, t) else
    let s := s.drainSendQueue
    if !readable t then ioLoop readable reconnect fuel s t else
    match readFrame isJson r s t with
    | ((s, true), t) => ioLoop readable reconnect fuel s t
    | ((s, false), t) => (if s.connected then handleDisconnect s reconnect else s, t)

end Session

end Gg.Ws
