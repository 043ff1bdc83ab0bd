import Gg.Ws.Types

/-!
# `HeartbeatManager` と lock の規律

`gg::internal::HeartbeatManager`（`message_queue.hpp` 112–285 行）のうち、`mutex_`、`running_`、
`waitingPong_`、`timerThread_` を触る部分。

## lock の取り方を追う

各 method は、呼んだ thread がすでに持っている `std::mutex` の列 `held` を受け取り、
`std::lock_guard` のたびにそれを調べる。持っている mutex をもう一度 lock することは
`std::mutex` では未定義の動作で、実際には止まる。自分自身の `join` と、joinable な
`std::thread` への代入も違反として返す（`Fault`）。

`stop()` は二つに分ける。`running_` を落とすまで（`stopBegin`）と、timer thread の終わりを
待つ `join`（`stopJoin`）である。`Gg/Ws/Threads.lean` はその間に他の thread の一歩を挟む。
-/

namespace Gg.Internal

open Gg.Ws

/-- session が使う `std::mutex`。 -/
inductive Mutex where
  /-- `Impl::callbackMutex`。 -/
  | callback
  /-- `Impl::sendMutex`。 -/
  | send
  /-- `HeartbeatManager::mutex_`。 -/
  | heartbeat
  deriving DecidableEq, Repr

/-- lock と thread の規律の違反。 -/
inductive Fault where
  /-- 持っている `std::mutex` をもう一度 lock した。 -/
  | relock (m : Mutex)
  /-- 自分自身を `join` した。 -/
  | selfJoin
  /-- joinable な `std::thread` に代入した。`std::terminate()` になる。 -/
  | assignJoinable
  deriving DecidableEq, Repr

/-- `std::lock_guard<std::mutex> lock(m)`。 -/
def lockGuard (held : List Mutex) (m : Mutex) : Except Fault (List Mutex) :=
  if m ∈ held then .error (.relock m) else .ok (m :: held)

/-- `HeartbeatManager` の状態。`lastPingSent_` と `lastPongReceived_` は時刻なので持たない。 -/
structure Heartbeat where
  config : PingConfig
  /-- `running_`。 -/
  running : Bool
  /-- `waitingPong_`。 -/
  waitingPong : Bool
  /-- `timerThread_.joinable()`。 -/
  timerJoinable : Bool

namespace Heartbeat

/-- `HeartbeatManager(config)`。 -/
def create (config : PingConfig) : Heartbeat := ⟨config, false, false, false⟩

/-- `start(...)`。すでに動いているか `Disabled` なら何もしない。 -/
def start (hb : Heartbeat) (held : List Mutex) : Except Fault Heartbeat := do
  let _ ← lockGuard held .heartbeat
  if hb.running then return hb
  if hb.config.mode = .disabled then return hb
  if hb.timerJoinable then throw .assignJoinable
  return { hb with running := true, waitingPong := false, timerJoinable := true }

/-- `stop()` の前半。lock を取り、動いていれば `running_` を落とす。`true` なら後半へ進む。 -/
def stopBegin (hb : Heartbeat) (held : List Mutex) : Except Fault (Heartbeat × Bool) := do
  let _ ← lockGuard held .heartbeat
  if !hb.running then return (hb, false)
  return ({ hb with running := false }, true)

/-- 何も持たない thread の `stop()` の前半は、`running_` を落とし、それが立っていたかを返す。 -/
@[simp] theorem stopBegin_nil (hb : Heartbeat) :
    hb.stopBegin [] = .ok ({ hb with running := false }, hb.running) := by
  cases hb with
  | mk config running waitingPong timerJoinable => cases running <;> rfl

/-- `stop()` の後半。`notify_all` の後、joinable なら timer thread を `join` する。 -/
def stopJoin (hb : Heartbeat) (onTimer : Bool) : Except Fault Heartbeat :=
  if hb.timerJoinable then
    if onTimer then .error .selfJoin else .ok { hb with timerJoinable := false }
  else .ok hb

/-- timer thread の外からの `join` の後は、`timerThread_` は joinable でない。 -/
@[simp] theorem stopJoin_false (hb : Heartbeat) :
    hb.stopJoin false = .ok { hb with timerJoinable := false } := by
  cases hb with
  | mk config running waitingPong timerJoinable => cases timerJoinable <;> rfl

/-- `stop()`。`onTimer` は呼んだのが timer thread 自身か。 -/
def stop (hb : Heartbeat) (held : List Mutex) (onTimer : Bool) : Except Fault Heartbeat := do
  let (hb, go) ← hb.stopBegin held
  if go then hb.stopJoin onTimer else return hb

/-- `onPongReceived()`。lock を取らない。 -/
def onPongReceived (hb : Heartbeat) : Heartbeat := { hb with waitingPong := false }

/-- `setInterval(interval)`。 -/
def setInterval (hb : Heartbeat) (held : List Mutex) (interval : Nat) : Except Fault Heartbeat := do
  let _ ← lockGuard held .heartbeat
  return { hb with config := { hb.config with interval } }

/-- `setTimeout(timeout)`。 -/
def setTimeout (hb : Heartbeat) (held : List Mutex) (timeout : Nat) : Except Fault Heartbeat := do
  let _ ← lockGuard held .heartbeat
  return { hb with config := { hb.config with timeout } }

/-- `setMode(mode)`。`mutex_` を持ったまま、`Disabled` なら `stop()` を呼ぶ。 -/
def setMode (hb : Heartbeat) (held : List Mutex) (mode : PingMode) (onTimer : Bool) :
    Except Fault Heartbeat := do
  let held ← lockGuard held .heartbeat
  let hb := { hb with config := { hb.config with mode } }
  if mode = .disabled then hb.stop held onTimer else return hb

/-! ## lock の規律 -/

/-- `setMode(Disabled)` は `mutex_` を持ったまま `stop()` に入り、`stop()` がそれをもう一度 lock する。 -/
theorem setMode_disabled_relocks (hb : Heartbeat) (onTimer : Bool) :
    hb.setMode [] .disabled onTimer = .error (.relock .heartbeat) := by
  simp [setMode, stop, stopBegin, lockGuard]
  rfl

/--
timer thread の上で `stop()` を呼ぶと（`onTimeout` が呼ぶ `onError` の中の `disconnect()`）、
動いている timer は自分自身を `join` する。
-/
theorem stop_on_timer_selfJoin (hb : Heartbeat) (hr : hb.running = true)
    (hj : hb.timerJoinable = true) : hb.stop [.callback] true = .error .selfJoin := by
  simp [stop, stopBegin, stopJoin, lockGuard, hr, hj]
  rfl

end Heartbeat

end Gg.Internal
