import Gg.Ws.Threads

/-!
# `disconnect` が戻った後

`Gg/Ws/Threads.lean` の実行の上で、`disconnect(code)`（`part_004` 350–379 行）を呼んだ thread が
戻ったときに何が成り立つかを示す。

`Stage` は `disconnect` の各行の後に成り立つことで、Hoare 流の注釈にあたる。他の thread の一歩は
それを壊さない（`Stage.transfer`）。再接続の `connect()` は `connected` と `running` を立て直すが、
そのすぐ後の `ioThread` への代入で `std::terminate()` になり、`disconnect` は戻らない。
-/

namespace Gg.Ws

open Gg.Internal

/-- 持っている `wasConnected`。まだ読んでいないか、もう戻ったなら `false`。 -/
def UserPc.was : UserPc → Bool
  | .clearRunning w | .stopBegin w | .stopJoin w | .close w | .join w | .cleanup w | .notify w => w
  | .closing _ => true
  | .exchange | .returned => false

namespace Sys

variable (isJson : Bytes → Bool)

/-! ## `disconnect` の各行の後に成り立つこと -/

/-- `connected` は落ちている。立っていれば、I/O thread は再接続の中で `ioThread` への代入の前にいる。 -/
def ConnectedDown (s : Sys) : Prop := s.sess.connected = true → s.io = .assign

/-- `running` も同じ。 -/
def RunningDown (s : Sys) : Prop := s.sess.running = true → s.io = .assign

/-- heartbeat が止まり、timer thread は `join` された。 -/
def TimerJoined (s : Sys) : Prop := s.hb.running = false ∧ s.hb.timerJoinable = false

/-- I/O thread は終わり、`join` された。 -/
def IoJoined (s : Sys) : Prop := s.io = .done ∧ s.ioJoinable = false

/-- `disconnect(code)` の各行の後に成り立つこと。`u` は user thread の場所。 -/
def Stage (s : Sys) : UserPc → Prop
  | .exchange => s.hb.running = s.hb.timerJoinable
  | .clearRunning _ => s.hb.running = s.hb.timerJoinable ∧ s.ConnectedDown
  | .stopBegin _ => s.hb.running = s.hb.timerJoinable ∧ s.ConnectedDown ∧ s.RunningDown
  | .stopJoin _ => s.hb.running = false ∧ s.ConnectedDown ∧ s.RunningDown
  | .close _ | .closing _ | .join _ => s.TimerJoined ∧ s.ConnectedDown ∧ s.RunningDown
  | .cleanup _ => s.TimerJoined ∧ s.ConnectedDown ∧ s.RunningDown ∧ s.IoJoined
  | .notify _ | .returned =>
    s.TimerJoined ∧ s.ConnectedDown ∧ s.RunningDown ∧ s.IoJoined ∧ s.sock = .none

/-- 他の thread の一歩が `Stage` を保つための条件。 -/
theorem Stage.transfer {s s' : Sys} (hhb : s'.hb = s.hb) (hc : s.ConnectedDown → s'.ConnectedDown)
    (hr : s.RunningDown → s'.RunningDown) (hj : s.IoJoined → s'.IoJoined ∧ s'.sock = s.sock) :
    ∀ {u}, s.Stage u → s'.Stage u := by
  intro u hst
  cases u <;> simp only [Stage, TimerJoined, hhb] at hst ⊢
  case exchange => exact hst
  case clearRunning => exact ⟨hst.1, hc hst.2⟩
  case stopBegin | stopJoin => exact ⟨hst.1, hc hst.2.1, hr hst.2.2⟩
  case close | closing | join => exact ⟨hst.1, hc hst.2.1, hr hst.2.2⟩
  case cleanup => exact ⟨hst.1, hc hst.2.1, hr hst.2.2.1, (hj hst.2.2.2).1⟩
  case notify | returned =>
    obtain ⟨ht, hcd, hrd, hij, hsock⟩ := hst
    exact ⟨ht, hc hcd, hr hrd, (hj hij).1, (hj hij).2 ▸ hsock⟩

/--
接続の後のどの状態でも成り立つこと。I/O thread と timer thread は、終わるまで joinable である。
`std::terminate()` は `ioThread` への代入でしか起きない。
-/
structure Inv (s : Sys) : Prop where
  ioJoinable : s.io ≠ .done → s.ioJoinable = true
  timerJoinable : s.timer ≠ .done → s.hb.timerJoinable = true
  aborted : s.sess.aborted = true → s.io = .assign
  stage : s.Stage s.user

theorem inv_opened (config : WebSocketConfig) (inbound : List Bytes) (request : Bytes) (key : MaskKey)
    (code : Int) (message : Bytes) : Inv (opened config inbound request key code message) := by
  constructor <;> cases h : config.ping.mode <;> simp [opened, Stage, Session.opened, h]

theorem inv_ioStep {s s' : Sys} {e : Env} (hi : Inv s) (h : s.ioStep isJson e = some s') :
    Inv s' := by
  obtain ⟨hnd, hassign, hc, hr, ha⟩ := ioStep_flags isJson h
  have hf := ioStep_frame isJson h
  have hu : s'.user = s.user := by rw [hf]
  have ht : s'.timer = s.timer := by rw [hf]
  have hhb : s'.hb = s.hb := by rw [hf]
  have hj : s'.ioJoinable = s.ioJoinable := by rw [hf]
  refine ⟨fun _ => hj ▸ hi.ioJoinable hnd, ht ▸ hhb ▸ hi.timerJoinable,
    fun h' => (ha h').elim (fun h' => hassign (hi.aborted h')) id, hu ▸ ?_⟩
  exact Stage.transfer hhb (fun hd h' => (hc h').elim (fun h' => hassign (hd h')) id)
    (fun hd h' => (hr h').elim (fun h' => hassign (hd h')) id) (fun hij => absurd hij.1 hnd) hi.stage

theorem inv_timerStep {s s' : Sys} {e : Env} (hi : Inv s) (h : s.timerStep e = some s') : Inv s' := by
  obtain ⟨hnd, hf⟩ := timerStep_frame h
  rw [hf]
  exact ⟨hi.1, fun _ => hi.timerJoinable hnd, hi.3, Stage.transfer rfl id id (⟨·, rfl⟩) hi.stage⟩

theorem inv_senderStep {s s' : Sys} {e : Env} (hi : Inv s) (h : s.senderStep e = some s') :
    Inv s' := by
  rw [senderStep_frame h]
  exact ⟨hi.1, hi.2, hi.3, Stage.transfer rfl id id (⟨·, rfl⟩) hi.stage⟩

theorem inv_userStep {s s' : Sys} {e : Env} (hi : Inv s) (h : s.userStep e = some s') : Inv s' := by
  obtain ⟨hj, ht, ha, hst⟩ := hi
  unfold userStep at h
  cases hu : s.user <;>
    simp only [hu, Stage, Heartbeat.stopBegin_nil, Heartbeat.stopJoin_false] at h hst
  case closing sp =>
    split at h <;> cases h
    all_goals (rename_i hs; rw [sendStep_frame hs]; exact ⟨hj, ht, ha, hst⟩)
  all_goals (cases e <;> simp only [reduceCtorEq] at h <;> (repeat' split at h) <;> cases h)
  case exchange.step.refl => exact ⟨hj, ht, ha, hst, nofun⟩
  case clearRunning.step.refl => exact ⟨hj, ht, ha, hst.1, hst.2, nofun⟩
  case stopBegin.step.isTrue.refl => exact ⟨hj, ht, ha, rfl, hst.2⟩
  case stopBegin.step.isFalse.refl hoff =>
    exact ⟨hj, ht, ha, ⟨rfl, hst.1 ▸ Bool.eq_false_iff.mpr hoff⟩, hst.2⟩
  case stopJoin.step.isFalse.refl hwait =>
    exact ⟨hj, fun hne => absurd ⟨ht hne, hne⟩ hwait, ha, ⟨hst.1, rfl⟩, hst.2⟩
  case join.step.isTrue.isTrue.refl hdone =>
    exact ⟨fun hne => absurd hdone hne, ht, ha, hst.1, hst.2.1, hst.2.2, hdone, rfl⟩
  case join.step.isFalse.refl hnj =>
    exact ⟨hj, ht, ha, hst.1, hst.2.1, hst.2.2, of_not_not fun hne => hnj (hj hne),
      Bool.eq_false_iff.mpr hnj⟩
  case cleanup.step.refl => exact ⟨hj, ht, ha, hst.1, hst.2.1, hst.2.2.1, hst.2.2.2, rfl⟩
  all_goals exact ⟨hj, ht, ha, hst⟩

theorem inv_step {s s' : Sys} {l : Thread × Env} (hi : Inv s) (h : s.step isJson l = some s') :
    Inv s' := by
  obtain ⟨th, e⟩ := l
  obtain ⟨-, h⟩ := step_some isJson h
  cases th
  exacts [inv_userStep hi h, inv_ioStep isJson hi h, inv_timerStep hi h, inv_senderStep hi h]

/-- 接続の後のどの実行でも `Inv` が成り立つ。 -/
theorem inv_run {config : WebSocketConfig} {inbound : List Bytes} {request : Bytes} {key : MaskKey}
    {code : Int} {message : Bytes} {s : Sys} (sched : List (Thread × Env))
    (h : (opened config inbound request key code message).run isJson sched = some s) : Inv s :=
  run_invariant isJson Inv (inv_step isJson) sched (inv_opened ..) h

/-! ## `disconnect` が戻った後 -/

/-- どの thread も何も起こせない状態。user thread は `wasConnected` を持たない。 -/
structure Quiet (s : Sys) : Prop where
  connected : s.sess.connected = false
  running : s.sess.running = false
  ioJoined : s.IoJoined
  timer : s.timer = .done
  timerJoined : s.TimerJoined
  sock : s.sock = .none
  was : s.user.was = false

/-- `disconnect` から戻った user thread は、どの thread も何も起こせない状態を残す。 -/
theorem quiet_of_returned {s : Sys} (hi : Inv s) (hu : s.user = .returned) : Quiet s := by
  have hst := hi.stage
  rw [hu] at hst
  obtain ⟨htj, hcd, hrd, hij, hsock⟩ := hst
  have hna : s.io ≠ .assign := by rw [hij.1]; exact nofun
  exact ⟨Bool.eq_false_iff.mpr (mt hcd hna), Bool.eq_false_iff.mpr (mt hrd hna), hij,
    of_not_not fun hne => absurd (hi.timerJoinable hne) (by rw [htj.2]; exact nofun), htj, hsock,
    by rw [hu]; rfl⟩

theorem quiet_step {s s' : Sys} {l : Thread × Env} (hq : Quiet s) (h : s.step isJson l = some s') :
    Quiet s' ∧ s'.sess.trace = s.sess.trace ∧ s'.wire = s.wire := by
  obtain ⟨th, e⟩ := l
  obtain ⟨-, h⟩ := step_some isJson h
  cases th
  case io => exact absurd hq.ioJoined.1 (ioStep_flags isJson h).1
  case timer => exact absurd hq.timer (timerStep_frame h).1
  case sender =>
    have hw := (senderStep_wire h).resolve_right fun ⟨c, hc, _⟩ => by rw [hq.sock] at hc; cases hc
    rw [senderStep_frame h] at hw ⊢
    exact ⟨⟨hq.1, hq.2, hq.3, hq.4, hq.5, hq.6, hq.7⟩, rfl, hw⟩
  case user =>
    obtain ⟨hc, hr, hij, ht, htj, hsock, hwas⟩ := hq
    change s.userStep e = some s' at h
    unfold userStep at h
    cases hu : s.user <;> simp only [hu, Heartbeat.stopBegin_nil, Heartbeat.stopJoin_false, hc, htj.1,
      htj.2, hij.2, Bool.false_eq_true, false_and, if_false, not_false_eq_true, if_true] at h
    case closing => simp [hu, UserPc.was] at hwas
    case returned => cases h
    all_goals (try (simp only [hu, UserPc.was] at hwas; subst hwas))
    all_goals (cases e <;> simp only [reduceCtorEq] at h; cases h)
    all_goals (refine ⟨⟨?_, ?_, ?_, ?_, ?_, ?_, rfl⟩, rfl, rfl⟩ <;>
      first | rfl | assumption | exact ⟨hij.1, rfl⟩ | exact ⟨rfl, rfl⟩)

theorem quiet_run {s s' : Sys} (hq : Quiet s) (sched : List (Thread × Env))
    (h : s.run isJson sched = some s') :
    Quiet s' ∧ s'.sess.trace = s.sess.trace ∧ s'.wire = s.wire :=
  run_invariant isJson (fun t => Quiet t ∧ t.sess.trace = s.sess.trace ∧ t.wire = s.wire)
    (fun ⟨hq, ht, hw⟩ h => (quiet_step isJson hq h).imp_right fun ⟨ht', hw'⟩ => ⟨ht'.trans ht, hw'.trans hw⟩)
    sched ⟨hq, rfl, rfl⟩ h

/--
**`disconnect` が戻った後は、何も起きない。** 接続の後、I/O thread（再接続を含む）、timer thread、
`send` を呼んだ thread とどう重なっても、`disconnect(code)` が戻ったときには `connected` も
`running` も落ち、I/O thread と timer thread は終わって `join` されている。その後どう進めても
callback は呼ばれず、何も書かれない。もう一度 `disconnect` を呼んでも同じである。
-/
theorem disconnect_returns_quiet (config : WebSocketConfig) (inbound : List Bytes) (request : Bytes)
    (key : MaskKey) (code : Int) (message : Bytes) (sched : List (Thread × Env)) {s : Sys}
    (h : (opened config inbound request key code message).run isJson sched = some s)
    (hu : s.user = .returned) :
    s.sess.connected = false ∧ s.sess.running = false ∧ s.io = .done ∧ s.ioJoinable = false ∧
      s.timer = .done ∧ s.hb.timerJoinable = false ∧
      (∀ sched' s', s.run isJson sched' = some s' → s'.sess.trace = s.sess.trace ∧ s'.wire = s.wire) ∧
      (∀ code' sched' s', { s with user := .exchange, code := code' }.run isJson sched' = some s' →
        s'.sess.trace = s.sess.trace ∧ s'.wire = s.wire) := by
  have hq := quiet_of_returned (inv_run isJson sched h) hu
  exact ⟨hq.connected, hq.running, hq.ioJoined.1, hq.ioJoined.2, hq.timer, hq.timerJoined.2,
    fun sched' _ h' => (quiet_run isJson hq sched' h').2,
    fun code' sched' _ h' => (quiet_run isJson (show Quiet { s with user := .exchange, code := code' }
      from ⟨hq.1, hq.2, hq.3, hq.4, hq.5, hq.6, rfl⟩) sched' h').2⟩

/--
heartbeat を止めて timer thread を待ち、`Close` を一度に書き、I/O thread が loop を抜けるのを
待って戻る実行。
-/
def closeRun : List (Thread × Env) :=
  [(.user, .step), (.user, .step), (.user, .step), (.timer, .step), (.user, .step), (.user, .step),
    (.user, .step), (.user, .accept 8), (.io, .step), (.user, .step), (.user, .step), (.user, .step)]

theorem disconnect_returns_quiet_closeRun :
    ∃ s, (opened {} [] [] MaskKey.zero CloseCode.normal []).run (fun _ => false) closeRun = some s ∧
      s.user = .returned ∧
      s.sess.connected = false ∧ s.sess.running = false ∧ s.io = .done ∧ s.ioJoinable = false ∧
      s.timer = .done ∧ s.hb.timerJoinable = false ∧
      (∀ sched' s', s.run (fun _ => false) sched' = some s' →
        s'.sess.trace = s.sess.trace ∧ s'.wire = s.wire) ∧
      (∀ code' sched' s', { s with user := .exchange, code := code' }.run (fun _ => false) sched'
        = some s' → s'.sess.trace = s.sess.trace ∧ s'.wire = s.wire) :=
  ⟨_, rfl, rfl, disconnect_returns_quiet (fun _ => false) {} [] [] MaskKey.zero CloseCode.normal []
    closeRun rfl rfl⟩

end Sys

end Gg.Ws
