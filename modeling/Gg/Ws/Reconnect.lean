import Gg.Ws.Disconnect

/-!
# 再接続と thread の規律

I/O thread の `handleDisconnect()`（`part_004` 823–839 行）は、再接続を試すとき
`cleanup()`、`initSocket()`、`performHandshake()` を `sendMutex` なしに呼び、成功すれば
`connect()` が動いている I/O thread の中から `ioThread` に代入する。
-/

namespace Gg.Ws

open Gg.Internal

namespace Sys

/-- server は frame の最初の 1 byte を送って接続を切る。 -/
def midFrameDrop : List Bytes := [[0x81]]

/--
I/O thread だけが進む。frame の途中で読みが切れ、`handleDisconnect()` が再接続を選び、
`connect()` が handshake を済ませて `ioThread` に代入する。
-/
def reconnectRun (request : Bytes) : List (Thread × Env) :=
  [(.io, .step), (.io, .step), (.io, .step), (.io, .step), (.io, .step), (.io, .step), (.io, .step),
    (.io, .ok), (.io, .ok), (.io, .accept request.length), (.io, .ok), (.io, .step), (.io, .step)]

/--
**`std::mutex` と `std::thread` の規律は守られない。** `setPingMode(Disabled)` は `mutex_` を持ったまま
`stop()` に入り、同じ `mutex_` をもう一度 lock する。timer thread の上の `stop()`（pong の期限切れの
`onError` から呼んだ `disconnect()`）は、自分自身を `join` する。接続の後のどの実行でも、再接続が
`connect()` の `ioThread = std::thread(...)` に着いたとき `ioThread` は joinable であり、代入は
`std::terminate()` になる。server が frame の途中で接続を切れば、I/O thread はそこに着く。
-/
theorem thread_discipline_broken :
    (∀ (hb : Heartbeat) (onTimer : Bool), hb.setMode [] .disabled onTimer = .error (.relock .heartbeat)) ∧
    (∀ hb : Heartbeat, hb.running = true → hb.timerJoinable = true →
      hb.stop [.callback] true = .error .selfJoin) ∧
    (∀ (isJson : Bytes → Bool) (config : WebSocketConfig) (inbound : List Bytes) (request : Bytes)
      (key : MaskKey) (code : Int) (message : Bytes) (sched : List (Thread × Env)) (s : Sys),
      (opened config inbound request key code message).run isJson sched = some s →
        s.io = .assign → s.ioJoinable = true) ∧
    ∃ s, (opened {} midFrameDrop [0x47] MaskKey.zero CloseCode.normal []).run (fun _ => false)
      (reconnectRun [0x47]) = some s ∧ s.io = .assign ∧ s.sess.aborted = true :=
  ⟨Heartbeat.setMode_disabled_relocks, Heartbeat.stop_on_timer_selfJoin,
    fun isJson _ _ _ _ _ _ sched _ h ha => (inv_run isJson sched h).ioJoinable (by rw [ha]; exact nofun),
    _, rfl, rfl, rfl⟩

/--
`send` を呼んだ thread が frame の 1 byte を書いた後、I/O thread が接続の切れを見つけて再接続し、
新しい socket に handshake を書く前に、`send` の thread が frame の残りを書く。
-/
def splitFrameRun (rest : Nat) (request : Bytes) : List (Thread × Env) :=
  [(.sender, .step), (.sender, .step), (.sender, .accept 1),
    (.io, .step), (.io, .step), (.io, .step), (.io, .step), (.io, .step), (.io, .step), (.io, .step),
    (.io, .ok), (.io, .ok), (.sender, .accept rest), (.io, .accept request.length)]

/-- 接続 `c` に書かれた byte。 -/
def bytesOn (c : Nat) (wire : List (Thread × Nat × Bytes)) : Bytes :=
  (wire.filter (·.2.1 == c)).flatMap (·.2.2)

/--
**frame は接続をまたぎ、handshake より先に書かれる。** `cleanup()`、`initSocket()` と
`performHandshake()` は `sendMutex` を取らない。`send("a")` の frame の最初の 1 byte が
前の接続に書かれた後、再接続が新しい socket を作ると、frame の残りはその新しい接続に、
handshake の request より前に書かれる。
-/
theorem frame_split_across_reconnect :
    ∃ s, (opened {} midFrameDrop [0x47] MaskKey.zero CloseCode.normal [0x61]).run (fun _ => false)
        (splitFrameRun 6 [0x47]) = some s ∧
      s.wire = [(.sender, 0, (sendFrameBytes Opcode.text [0x61] MaskKey.zero).take 1),
        (.sender, 1, (sendFrameBytes Opcode.text [0x61] MaskKey.zero).drop 1), (.io, 1, [0x47])] ∧
      bytesOn 1 s.wire = (sendFrameBytes Opcode.text [0x61] MaskKey.zero).drop 1 ++ [0x47] ∧
      ¬ [0x47] <+: bytesOn 1 s.wire :=
  ⟨_, rfl, rfl, rfl, by decide⟩

end Sys

end Gg.Ws
