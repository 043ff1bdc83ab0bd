import Gg.Internal.Heartbeat

/-!
# pong の見張り

`HeartbeatManager::timerLoop`（`message_queue.hpp` 236–284 行）と `onPongReceived`（178–181 行）に
時刻を入れたもの。時計は `cv_.wait_for(interval)` の間だけ `interval` 進む。

## 仕組み

timer thread は一周ごとに `interval` 待ち、`waitingPong_` が立っていて前の ping からの経過が
`timeout` を超えていれば `onTimeout` を呼んで `waitingPong_` を落とす。そうでなければ ping を送り、
送れたら `lastPingSent_` と `waitingPong_` を書く。

* 経過を測るのは「前の ping から」で、測った周にまた ping を送って `lastPingSent_` を更新する。
  だから `timeout ≥ interval` なら経過はいつも `interval` で、pong が来なくても `onTimeout` は
  呼ばれない（`pong_watchdog_incomplete`）。
* ping を送ってから `waitingPong_ = true` を書くまでの間に `onPongReceived` が走ると、その pong は
  消される。次の周は pong を待っていることになり、`timeout < interval` なら `onTimeout` を呼ぶ
  （`pong_watchdog_spurious`）。

## 一周と一歩

`cycle` は他の thread が動かないときの一周を一つの関数にしたもの、`Watch.timerStep` は同じ周を
共有変数の読み書きごとに分けたものである。二つは同じ状態に着く（`timer_steps_cycle`）。
-/

namespace Gg.Internal

open Gg.Ws

/-- 見張りの出来事。どれもその時刻を持つ。 -/
inductive WatchEvent where
  /-- `sendPing_()` / `sendTextPing_()` が ping を書いた。 -/
  | ping (t : Nat)
  /-- I/O thread の `handlePong` が `onPongReceived()` を呼んだ。 -/
  | pong (t : Nat)
  /-- `onTimeout_()`。 -/
  | timeout (t : Nat)
  deriving DecidableEq, Repr

/-- timer thread の場所。 -/
inductive WatchPc where
  /-- `while (running_)`。 -/
  | loop
  /-- `cv_.wait_for(waitLock, interval, ...)` と、その後の `if (!running_) break;`。 -/
  | wait
  /-- `if (waitingPong_.load())`。 -/
  | load
  /-- `if (now() - lastPingSent_ > timeout)`。 -/
  | elapsed
  /-- `onTimeout_()`。 -/
  | timeout
  /-- `waitingPong_.store(false)`。 -/
  | clear
  /-- `sent = sendPing_()` / `sendTextPing_(...)`。 -/
  | send
  /-- `lastPingSent_ = now()`。 -/
  | storeLast
  /-- `waitingPong_.store(true)`。 -/
  | storeWaiting
  /-- loop を抜けた。 -/
  | done
  deriving DecidableEq, Repr

/-- `HeartbeatManager` の時刻つきの状態と、timer thread の場所。 -/
structure Watch where
  /-- 周の始めに `mutex_` の下で読む `config_`。 -/
  config : PingConfig
  /-- `steady_clock::now()`。 -/
  now : Nat
  running : Bool
  waitingPong : Bool
  lastPingSent : Nat
  pc : WatchPc
  log : List WatchEvent
  deriving DecidableEq, Repr

/-- 一歩を進める thread。`timer ok` の `ok` は、その一歩が ping の送信なら送信の戻り値。 -/
inductive Act where
  | timer (ok : Bool)
  /-- I/O thread の `onPongReceived()`。 -/
  | pong
  deriving DecidableEq, Repr

namespace Watch

/-- `start(...)` の後。`waitingPong_` は落ち、`lastPingSent_` は初期値（時計の原点）のまま。 -/
def start (config : PingConfig) (t₀ : Nat) : Watch :=
  ⟨config, t₀, true, false, 0, .loop, []⟩

/-- ping を送る mode か。`Disabled` なら何も送らない。 -/
def sends (config : PingConfig) : Bool := config.mode = .opcode || config.mode = .textMessage

/-- timer thread の一歩。 -/
def timerStep (w : Watch) (ok : Bool) : Watch :=
  match w.pc with
  | .loop => { w with pc := if w.running then .wait else .done }
  | .wait =>
    { w with now := w.now + w.config.interval, pc := if w.running then .load else .done }
  | .load => { w with pc := if w.waitingPong then .elapsed else .send }
  | .elapsed =>
    { w with pc := if w.now - w.lastPingSent > w.config.timeout then .timeout else .send }
  | .timeout => { w with log := w.log ++ [.timeout w.now], pc := .clear }
  | .clear => { w with waitingPong := false, pc := .loop }
  | .send =>
    if sends w.config && ok then { w with log := w.log ++ [.ping w.now], pc := .storeLast }
    else { w with pc := .loop }
  | .storeLast => { w with lastPingSent := w.now, pc := .storeWaiting }
  | .storeWaiting => { w with waitingPong := true, pc := .loop }
  | .done => w

/-- `onPongReceived()`。`waitingPong_` を落とす。 -/
def pongStep (w : Watch) : Watch := { w with waitingPong := false, log := w.log ++ [.pong w.now] }

def step (w : Watch) : Act → Watch
  | .timer ok => w.timerStep ok
  | .pong => w.pongStep

def run (w : Watch) (as : List Act) : Watch := as.foldl step w

@[simp] theorem run_nil (w : Watch) : w.run [] = w := rfl

@[simp] theorem run_cons (w : Watch) (a : Act) (as : List Act) :
    w.run (a :: as) = (w.step a).run as := rfl

/-- `timerLoop` の一周。他の thread は動かず、送信は成功する。 -/
def cycle (w : Watch) : Watch :=
  let w := { w with now := w.now + w.config.interval }
  if w.waitingPong ∧ w.now - w.lastPingSent > w.config.timeout then
    { w with log := w.log ++ [.timeout w.now], waitingPong := false }
  else if sends w.config then
    { w with log := w.log ++ [.ping w.now], lastPingSent := w.now, waitingPong := true }
  else w

@[simp] theorem cycle_config (w : Watch) : w.cycle.config = w.config := by
  simp only [cycle]
  split_ifs <;> rfl

/-- 一周の、共有変数の読み書きの数。待っているか・経過が `timeout` を超えたか・送る mode か、で決まる。 -/
def cycleLength (w : Watch) : Nat :=
  if w.waitingPong then
    if w.now + w.config.interval - w.lastPingSent > w.config.timeout then 6
    else if sends w.config then 7 else 5
  else if sends w.config then 6 else 4

/-- 一周を一歩ずつ進めても、`cycle` と同じ状態に着く。 -/
theorem timer_steps_cycle {w : Watch} (hpc : w.pc = .loop) (hr : w.running = true) :
    w.run (List.replicate w.cycleLength (.timer true)) = w.cycle := by
  obtain ⟨config, now, running, waiting, last, pc, log⟩ := w
  simp only at hpc hr
  subst hpc hr
  simp only [cycleLength, cycle]
  cases waiting <;> by_cases hT : now + config.interval - last > config.timeout <;>
    cases hs : sends config <;>
    simp only [List.replicate, run_cons, run_nil, step, timerStep, *, reduceIte,
      Bool.and_true, Bool.false_and, Bool.false_eq_true, true_and, false_and]

end Watch

/-! ## pong が来ないとき -/

namespace Watch

/-- 一周ごとに保たれること。待っているなら前の ping はこの周の時刻に送ったもので、`onTimeout` は
まだ呼ばれていない。 -/
def Quiet (w : Watch) : Prop :=
  (w.waitingPong = true → w.lastPingSent = w.now) ∧ ∀ t, .timeout t ∉ w.log

/-- `timeout ≥ interval` なら、一周は `Quiet` を保つ。経過はいつも `interval` だからである。 -/
theorem cycle_quiet {w : Watch} (hs : sends w.config = true)
    (hT : w.config.interval ≤ w.config.timeout) (hq : w.Quiet) : w.cycle.Quiet := by
  obtain ⟨hlast, hno⟩ := hq
  have hnot : ¬(w.waitingPong = true ∧ w.now + w.config.interval - w.lastPingSent > w.config.timeout) := by
    rintro ⟨hw, hgt⟩
    rw [hlast hw] at hgt
    omega
  unfold cycle
  simp only [if_neg hnot, hs, if_true]
  refine ⟨fun _ => rfl, fun t ht => ?_⟩
  simp only [List.mem_append, List.mem_singleton, reduceCtorEq, or_false] at ht
  exact hno t ht

/-- `start` から何周しても `Quiet` である。 -/
theorem iterate_cycle_quiet {config : PingConfig} (hs : sends config = true)
    (hT : config.interval ≤ config.timeout) (t₀ n : Nat) : (cycle^[n] (start config t₀)).Quiet := by
  have hc : ∀ n, (cycle^[n] (start config t₀)).config = config := by
    intro n
    induction n with
    | zero => rfl
    | succ n ih => rw [Function.iterate_succ_apply', cycle_config, ih]
  induction n with
  | zero => exact ⟨nofun, nofun⟩
  | succ n ih =>
    rw [Function.iterate_succ_apply']
    exact cycle_quiet (by rw [hc]; exact hs) (by rw [hc]; exact hT) ih

/--
**pong が来なくても、`timeout ≥ interval` なら `onTimeout` は呼ばれない。** mode が `Opcode` か
`TextMessage` で送信がいつも成功し、pong が一つも来ないとき、`timeout ≥ interval` なら何周しても
`onTimeout` は呼ばれない。毎周、経過は `interval` で、その周にまた ping を送るからである。
`timeout < interval` なら 2 周目に呼ばれる。
-/
theorem pong_watchdog_incomplete {config : PingConfig} (hs : sends config = true) (t₀ : Nat) :
    (config.interval ≤ config.timeout →
      ∀ n t, .timeout t ∉ (cycle^[n] (start config t₀)).log) ∧
    (config.timeout < config.interval →
      (cycle^[2] (start config t₀)).log =
        [.ping (t₀ + config.interval), .timeout (t₀ + config.interval + config.interval)]) := by
  refine ⟨fun hT n => (iterate_cycle_quiet hs hT t₀ n).2, fun hlt => ?_⟩
  -- 1 周目に ping を送り、2 周目の経過はちょうど `interval`
  simp [cycle, start, hs, hlt]

/-- 仕様の場面 S2。`interval = 1000`、`timeout = 5000` では、何周しても `onTimeout` は呼ばれない。 -/
theorem pong_watchdog_incomplete_s2 :
    sends { interval := 1000, timeout := 5000 } = true ∧
    ((1000 ≤ 5000 → ∀ n t, .timeout t ∉ (cycle^[n] (start { interval := 1000, timeout := 5000 } 0)).log) ∧
    (5000 < 1000 → (cycle^[2] (start { interval := 1000, timeout := 5000 } 0)).log =
        [.ping (0 + 1000), .timeout (0 + 1000 + 1000)])) :=
  ⟨rfl, @pong_watchdog_incomplete { interval := 1000, timeout := 5000 } rfl 0⟩

/-! ## ping を書いてから `waitingPong_` を立てるまでに pong が来るとき -/

/-- 送った ping はどれも、送ってから `timeout` 以内に pong で答えられている。 -/
def AllAnswered (timeout : Nat) (log : List WatchEvent) : Prop :=
  ∀ (i : Nat) (t : Nat), log[i]? = some (WatchEvent.ping t) →
    ∃ (j : Nat) (t' : Nat), i < j ∧ log[j]? = some (WatchEvent.pong t') ∧ t' ≤ t + timeout

/-- timer thread が ping を書いた直後、`lastPingSent_` と `waitingPong_` を書く前に
`onPongReceived()` が走り、その後 timer thread だけが次の周を進む。 -/
def raceRun : List Act :=
  List.replicate 4 (.timer true) ++ .pong :: List.replicate 8 (.timer true)

/--
**pong が間に合っても `onTimeout` が呼ばれる。** `raceRun` では pong が ping と同じ時刻に届くが、
その後 timer thread が `waitingPong_ = true` を書くので、次の周は pong を待っていることになる。
`timeout < interval` なら、ping はどれも答えられているのに `onTimeout` が呼ばれる。
-/
theorem pong_watchdog_spurious {config : PingConfig} (hs : sends config = true)
    (hlt : config.timeout < config.interval) (t₀ : Nat) :
    ((start config t₀).run raceRun).log =
        [.ping (t₀ + config.interval), .pong (t₀ + config.interval),
          .timeout (t₀ + config.interval + config.interval)] ∧
      AllAnswered config.timeout ((start config t₀).run raceRun).log := by
  have hgt : t₀ + config.interval + config.interval - (t₀ + config.interval) > config.timeout := by
    omega
  have hlog : ((start config t₀).run raceRun).log =
      [.ping (t₀ + config.interval), .pong (t₀ + config.interval),
        .timeout (t₀ + config.interval + config.interval)] := by
    simp only [raceRun, start, List.replicate, List.cons_append, List.nil_append, run_cons,
      run_nil, step, timerStep, pongStep, hs, hgt, reduceIte, Bool.and_true, Bool.false_eq_true]
  refine ⟨hlog, ?_⟩
  rw [hlog, AllAnswered]
  -- 答えるべき ping は先頭の一つだけ
  rintro (_ | _ | _ | i) t h <;> simp at h
  exact ⟨1, _, Nat.one_pos, rfl, by omega⟩

/-- `interval = 5000`、`timeout = 1000` の場合。 -/
theorem pong_watchdog_spurious_fast :
    sends { interval := 5000, timeout := 1000 } = true ∧ 1000 < 5000 ∧
    (((start { interval := 5000, timeout := 1000 } 0).run raceRun).log =
        [.ping (0 + 5000), .pong (0 + 5000), .timeout (0 + 5000 + 5000)] ∧
      AllAnswered 1000 ((start { interval := 5000, timeout := 1000 } 0).run raceRun).log) :=
  ⟨rfl, by decide, @pong_watchdog_spurious { interval := 5000, timeout := 1000 } rfl (by decide) 0⟩

end Watch

end Gg.Internal
