import Gg.Ws.Threads

/-!
# I/O thread だけが進むとき

`Session.ioLoop` は I/O thread を一つの関数として書いたもので、`Sys.ioStep` は同じ thread を
共有するものに触る一歩ずつに分けたものである。他の thread が動かなければ、二つは同じ
session と読み残しに着く（`ioLoop_realized`）。`Session` の上で示した読みと切断の性質は、
I/O thread の一歩ずつの実行についても成り立つ。

`Session.ioLoop` では再接続の結果 `rc` を引数にとるが、`Sys` ではそれを `initSocket()` から先の
OS 呼び出しの結果の並びが決める。`Realizes` がその対応である。
-/

namespace Gg.Ws

open Session

namespace Sys

variable (isJson : Bytes → Bool)

/-- I/O thread だけが、`es` の選びで進む。 -/
def ioRun (s : Sys) (es : List Env) : Option Sys := s.run isJson (es.map (Thread.io, ·))

/-- 一歩進めてから残りを走らせる。 -/
theorem ioRun_step {s s₁ : Sys} {e : Env} {es : List Env} {P : Sys → Prop}
    (h : s.ioStep isJson e = some s₁) (ha : s.sess.aborted = false)
    (hrest : ∃ s', s₁.ioRun isJson es = some s' ∧ P s') :
    ∃ s', s.ioRun isJson (e :: es) = some s' ∧ P s' := by
  simpa [ioRun, run, step, threadStep, ha, h] using hrest

/-- `connect()` の結果 `rc` を、`initSocket()` から先の OS 呼び出しの結果の並び `es` が生む。 -/
inductive Realizes (request : Bytes) : ConnectOutcome → List Env → Prop
  | ok (h : 0 < request.length) :
    Realizes request .ok [.ok, .ok, .accept request.length, .ok, .step, .step]
  | socketFailed :
    Realizes request (.failed ErrorCode.connectionFailed "Falha ao criar socket") [.fail, .step, .step]
  | connectFailed :
    Realizes request (.failed ErrorCode.connectionFailed "Conexão falhou") [.ok, .fail, .step, .step]
  | sendFailed :
    Realizes request (.failed ErrorCode.handshakeFailed "Falha ao enviar handshake")
      [.ok, .ok, .fail, .step, .step]
  | noResponse (h : 0 < request.length) :
    Realizes request (.failed ErrorCode.handshakeFailed "Sem resposta do servidor")
      [.ok, .ok, .accept request.length, .fail, .step, .step]
  | rejected (h : 0 < request.length) :
    Realizes request (.failed ErrorCode.handshakeFailed "Handshake rejeitado pelo servidor")
      [.ok, .ok, .accept request.length, .reject, .step, .step]

/-! ## 一歩ずつの式 -/

section
variable {s : Sys}

theorem ioStep_loop (h : s.io = .loop) (hr : s.sess.running = true) :
    s.ioStep isJson .step = some { s with sess := s.sess.drainSendQueue, io := .wait } := by
  unfold ioStep
  rw [h, hr]
  rfl

theorem ioStep_wait (h : s.io = .wait) :
    s.ioStep isJson .step = some { s with io := if chunkedReady s.inbound then .read else .loop } := by
  unfold ioStep
  rw [h]

theorem ioStep_read {s' : Session} {b : Bool} {t' : List Bytes} (h : s.io = .read)
    (hrf : Session.readFrame isJson chunked s.sess s.inbound = ((s', b), t')) :
    s.ioStep isJson .step =
      some { s with sess := s', inbound := t', io := if b then .loop else .afterRead } := by
  unfold ioStep
  rw [h]
  dsimp only
  rw [hrf]

theorem ioStep_afterRead (h : s.io = .afterRead) :
    s.ioStep isJson .step = some { s with io := if s.sess.connected then .handle else .done } := by
  unfold ioStep
  rw [h]

theorem ioStep_handle_reconnect (h : s.io = .handle)
    (hc : s.sess.config.autoReconnect ∧ s.sess.reconnectAttempts < s.sess.config.maxReconnectAttempts) :
    s.ioStep isJson .step =
      some { s with sess := { s.sess with connected := false
                                          reconnectAttempts := s.sess.reconnectAttempts + 1 },
                    io := .sleep } := by
  unfold ioStep
  rw [h]
  exact congrArg some (if_pos hc)

theorem ioStep_handle_giveUp (h : s.io = .handle)
    (hc : ¬(s.sess.config.autoReconnect ∧ s.sess.reconnectAttempts < s.sess.config.maxReconnectAttempts)) :
    s.ioStep isJson .step = some { s with sess := { s.sess with connected := false }, io := .giveUp } := by
  unfold ioStep
  rw [h]
  exact congrArg some (if_neg hc)

theorem ioStep_sleep (h : s.io = .sleep) :
    s.ioStep isJson .step =
      some { s with sess := s.sess.emit (.backoff s.sess.reconnectAttempts), io := .cleanup } := by
  unfold ioStep
  rw [h]

theorem ioStep_cleanup (h : s.io = .cleanup) :
    s.ioStep isJson .step = some { s with sock := .none, io := .initSock } := by
  unfold ioStep
  rw [h]

theorem ioStep_initSock_ok (h : s.io = .initSock) :
    s.ioStep isJson .ok =
      some { s with sock := .created s.nextConn, nextConn := s.nextConn + 1, io := .connectSock } := by
  unfold ioStep
  rw [h]

theorem ioStep_initSock_fail (h : s.io = .initSock) :
    s.ioStep isJson .fail = some { s with sess := s.sess.triggerError ErrorCode.connectionFailed
                                                    "Falha ao criar socket", io := .giveUp } := by
  unfold ioStep
  rw [h]

theorem ioStep_connectSock_ok {c : Nat} (h : s.io = .connectSock) (hs : s.sock = .created c) :
    s.ioStep isJson .ok = some { s with sock := .connected c, io := .hsWrite s.request } := by
  unfold ioStep
  rw [h]
  dsimp only
  rw [hs]

theorem ioStep_connectSock_fail (h : s.io = .connectSock) :
    s.ioStep isJson .fail = some (s.connectFailed ErrorCode.connectionFailed "Conexão falhou") := by
  unfold ioStep
  rw [h]

/-- `rawSend(req)` が残りを一度に書く。 -/
theorem ioStep_hsWrite_all {c : Nat} {rest : Bytes} (h : s.io = .hsWrite rest)
    (hs : s.sock = .connected c) (hk : 0 < rest.length) :
    s.ioStep isJson (.accept rest.length) =
      some { s with wire := s.wire ++ [(.io, c, rest)], io := .hsRead } := by
  unfold ioStep
  rw [h]
  dsimp only
  rw [hs]
  dsimp only
  rw [if_pos (And.intro hk (le_refl _)), List.take_length, if_pos rfl]

theorem ioStep_hsWrite_fail {rest : Bytes} (h : s.io = .hsWrite rest) :
    s.ioStep isJson .fail =
      some (s.connectFailed ErrorCode.handshakeFailed "Falha ao enviar handshake") := by
  unfold ioStep
  rw [h]

theorem ioStep_hsRead (h : s.io = .hsRead) :
    s.ioStep isJson .ok = some { s with io := .flags } ∧
    s.ioStep isJson .fail = some (s.connectFailed ErrorCode.handshakeFailed "Sem resposta do servidor") ∧
    s.ioStep isJson .reject =
      some (s.connectFailed ErrorCode.handshakeFailed "Handshake rejeitado pelo servidor") := by
  unfold ioStep
  rw [h]
  exact ⟨rfl, rfl, rfl⟩

theorem ioStep_setFlags (h : s.io = .flags) :
    s.ioStep isJson .step = some { s with sess := { s.sess with connected := true, running := true
                                                                reconnectAttempts := 0 },
                                          io := .assign } := by
  unfold ioStep
  rw [h]

/-- joinable な `ioThread` への代入は `std::terminate()` になる。 -/
theorem ioStep_assign (h : s.io = .assign) (hj : s.ioJoinable = true) :
    s.ioStep isJson .step = some { s with sess := { s.sess with aborted := true } } := by
  unfold ioStep
  rw [h, hj]
  rfl

theorem ioStep_giveUp (h : s.io = .giveUp) :
    s.ioStep isJson .step = some { s with sess := { s.sess with running := false }, io := .notify } := by
  unfold ioStep
  rw [h]

theorem ioStep_notify (h : s.io = .notify) :
    s.ioStep isJson .step =
      some { s with sess := s.sess.triggerDisconnect CloseCode.abnormalClosure, io := .done } := by
  unfold ioStep
  rw [h]

end

/-- `connect()` が成功すれば `connected` と `running` が立ち、`ioThread` への代入で止まる。 -/
theorem connect_refined_ok {s : Sys} (hio : s.io = .initSock) (ha : s.sess.aborted = false)
    (hj : s.ioJoinable = true) (hreq : 0 < s.request.length) :
    ∃ s', s.ioRun isJson [.ok, .ok, .accept s.request.length, .ok, .step, .step] = some s' ∧
      s'.sess = { s.sess with connected := true, running := true, reconnectAttempts := 0
                              aborted := true } ∧ s'.inbound = s.inbound := by
  refine ioRun_step isJson (ioStep_initSock_ok isJson hio) ha ?_
  refine ioRun_step isJson (ioStep_connectSock_ok isJson (by rfl) (by rfl)) ha ?_
  refine ioRun_step isJson (ioStep_hsWrite_all isJson (by rfl) (by rfl) hreq) ha ?_
  refine ioRun_step isJson (ioStep_hsRead isJson (by rfl)).1 ha ?_
  refine ioRun_step isJson (ioStep_setFlags isJson (by rfl)) ha ?_
  refine ioRun_step isJson (ioStep_assign isJson (by rfl) hj) ha ?_
  exact ⟨_, rfl, rfl, rfl⟩

/-- `connect()` が失敗すれば、`onError` の後に `running` を落とし `onDisconnect(AbnormalClosure)` を呼ぶ。 -/
theorem connect_refined_failed {s : Sys} {code : Int} {msg : String} {es : List Env}
    (hr : Realizes s.request (.failed code msg) es) (hio : s.io = .initSock)
    (ha : s.sess.aborted = false) :
    ∃ s', s.ioRun isJson es = some s' ∧ s'.sess = giveUp (s.sess.triggerError code msg) ∧
      s'.inbound = s.inbound := by
  have tail : ∀ {t : Sys}, t.io = .giveUp → t.sess.aborted = false →
      ∃ s', t.ioRun isJson [.step, .step] = some s' ∧
        s'.sess = ({ t.sess with running := false } : Session).triggerDisconnect
          CloseCode.abnormalClosure ∧ s'.inbound = t.inbound := fun hio ha => by
    refine ioRun_step isJson (ioStep_giveUp isJson hio) ha ?_
    refine ioRun_step isJson (ioStep_notify isJson (by rfl)) ha ?_
    exact ⟨_, rfl, rfl, rfl⟩
  cases hr with
  | socketFailed =>
    refine ioRun_step isJson (ioStep_initSock_fail isJson hio) ha ?_
    exact tail rfl ha
  | connectFailed =>
    refine ioRun_step isJson (ioStep_initSock_ok isJson hio) ha ?_
    refine ioRun_step isJson (ioStep_connectSock_fail isJson (by rfl)) ha ?_
    exact tail rfl ha
  | sendFailed =>
    refine ioRun_step isJson (ioStep_initSock_ok isJson hio) ha ?_
    refine ioRun_step isJson (ioStep_connectSock_ok isJson (by rfl) (by rfl)) ha ?_
    refine ioRun_step isJson (ioStep_hsWrite_fail isJson (by rfl)) ha ?_
    exact tail rfl ha
  | noResponse hreq =>
    refine ioRun_step isJson (ioStep_initSock_ok isJson hio) ha ?_
    refine ioRun_step isJson (ioStep_connectSock_ok isJson (by rfl) (by rfl)) ha ?_
    refine ioRun_step isJson (ioStep_hsWrite_all isJson (by rfl) (by rfl) hreq) ha ?_
    refine ioRun_step isJson (ioStep_hsRead isJson (by rfl)).2.1 ha ?_
    exact tail rfl ha
  | rejected hreq =>
    refine ioRun_step isJson (ioStep_initSock_ok isJson hio) ha ?_
    refine ioRun_step isJson (ioStep_connectSock_ok isJson (by rfl) (by rfl)) ha ?_
    refine ioRun_step isJson (ioStep_hsWrite_all isJson (by rfl) (by rfl) hreq) ha ?_
    refine ioRun_step isJson (ioStep_hsRead isJson (by rfl)).2.2 ha ?_
    exact tail rfl ha

theorem ioRun_mono {s : Sys} {es : List Env} {P Q : Sys → Prop}
    (h : ∃ s', s.ioRun isJson es = some s' ∧ P s') (hPQ : ∀ s', P s' → Q s') :
    ∃ s', s.ioRun isJson es = some s' ∧ Q s' :=
  let ⟨s', h₁, h₂⟩ := h
  ⟨s', h₁, hPQ s' h₂⟩

/-- `handleDisconnect()` の一歩ずつの実行は、`Session.handleDisconnect` と同じ session に着く。 -/
theorem handleDisconnect_refined {s : Sys} {rc : ConnectOutcome} {es : List Env}
    (hr : Realizes s.request rc es) (hio : s.io = .handle) (ha : s.sess.aborted = false)
    (hj : s.ioJoinable = true) :
    ∃ es' s', s.ioRun isJson es' = some s' ∧ s'.sess = s.sess.handleDisconnect rc ∧
      s'.inbound = s.inbound := by
  by_cases hc : s.sess.config.autoReconnect ∧
      s.sess.reconnectAttempts < s.sess.config.maxReconnectAttempts
  · refine ⟨.step :: .step :: .step :: es, ?_⟩
    refine ioRun_step isJson (ioStep_handle_reconnect isJson hio hc) ha ?_
    refine ioRun_step isJson (ioStep_sleep isJson (by rfl)) ha ?_
    refine ioRun_step isJson (ioStep_cleanup isJson (by rfl)) ha ?_
    cases rc with
    | ok =>
      cases hr with
      | ok hreq =>
        refine ioRun_mono isJson (connect_refined_ok isJson (by rfl) ha hj hreq) ?_
        rintro s' ⟨h₁, h₂⟩
        exact ⟨by rw [h₁, handleDisconnect, if_pos hc], h₂⟩
    | failed code msg =>
      refine ioRun_mono isJson (connect_refined_failed isJson hr (by rfl) ha) ?_
      rintro s' ⟨h₁, h₂⟩
      exact ⟨by rw [h₁, handleDisconnect, if_pos hc], h₂⟩
  · refine ⟨[.step, .step, .step], ?_⟩
    refine ioRun_step isJson (ioStep_handle_giveUp isJson hio hc) ha ?_
    refine ioRun_step isJson (ioStep_giveUp isJson (by rfl)) ha ?_
    refine ioRun_step isJson (ioStep_notify isJson (by rfl)) ha ?_
    exact ⟨_, rfl, by rw [handleDisconnect, if_neg hc]; rfl, rfl⟩

/-- loop の頭から、送信 queue を空け、`waitForData()` の後に `readFrame()` を一度呼ぶ。 -/
theorem ioRun_loop_read {s : Sys} {s₁ : Session} {b : Bool} {t₁ : List Bytes} {es : List Env}
    {P : Sys → Prop} (hio : s.io = .loop) (hrun : s.sess.running = true)
    (ha : s.sess.aborted = false) (hready : chunkedReady s.inbound = true)
    (hrf : readFrame isJson chunked s.sess.drainSendQueue s.inbound = ((s₁, b), t₁))
    (hrest : ∃ s', ({ s with sess := s₁, inbound := t₁, io := if b then .loop else .afterRead } :
      Sys).ioRun isJson es = some s' ∧ P s') :
    ∃ s', s.ioRun isJson (.step :: .step :: .step :: es) = some s' ∧ P s' := by
  have ha₀ : s.sess.drainSendQueue.aborted = false := by simpa using ha
  refine ioRun_step isJson (ioStep_loop isJson hio hrun) ha ?_
  refine ioRun_step isJson (ioStep_wait isJson (by rfl)) ha₀ ?_
  simp only [hready]
  exact ioRun_step isJson (ioStep_read isJson (by rfl) hrf) ha₀ hrest

/--
**I/O thread の一歩ずつの実行は `Session.ioLoop` を実現する。** loop の頭にいる I/O thread は、
他の thread が動かなければ、どの fuel でも `Session.ioLoop` と同じ session と読み残しに着く。
再接続の結果 `rc` は、`Realizes` が OS 呼び出しの結果の並びから選ぶ。
-/
theorem ioLoop_realized {rc : ConnectOutcome} {es : List Env} (n : Nat) :
    ∀ {s : Sys}, Realizes s.request rc es → s.io = .loop → s.ioJoinable = true →
      ∃ es' s', s.ioRun isJson es' = some s' ∧
        (s'.sess, s'.inbound) = ioLoop isJson chunked chunkedReady rc n s.sess s.inbound := by
  induction n with
  | zero => exact fun _ _ _ => ⟨[], _, rfl, rfl⟩
  | succ n ih =>
    intro s hr hio hj
    rw [ioLoop]
    split_ifs with hstop hidle
    · exact ⟨[], _, rfl, rfl⟩
    all_goals
      have ha : s.sess.aborted = false := by simp_all
      have hrun : s.sess.running = true := by simp_all
    · -- 読めるものがない
      simp only [Bool.not_eq_true'] at hidle
      obtain ⟨es', s', h₁, h₂⟩ :=
        @ih { s with sess := s.sess.drainSendQueue, io := .loop } hr rfl hj
      refine ⟨.step :: .step :: es', ioRun_step isJson (ioStep_loop isJson hio hrun) ha ?_⟩
      refine ioRun_step isJson (ioStep_wait isJson (by rfl)) (by simpa using ha) ?_
      simp only [hidle]
      exact ⟨s', h₁, h₂⟩
    · simp only [Bool.not_eq_true', Bool.not_eq_false] at hidle
      rcases hrf : readFrame isJson chunked s.sess.drainSendQueue s.inbound with ⟨⟨s₁, b⟩, t₁⟩
      simp only [hrf]
      cases b
      · -- 読みが切れた
        have ha₁ : s₁.aborted = false := by
          have := (readFrame_flags isJson chunked s.sess.drainSendQueue s.inbound).2.2.1
          rw [hrf] at this
          rwa [this, drainSendQueue_aborted]
        by_cases hc : s₁.connected = true
        · obtain ⟨es', s', h₁, h₂, h₃⟩ := @handleDisconnect_refined isJson
            { s with sess := s₁, inbound := t₁, io := .handle } rc es hr rfl ha₁ hj
          refine ⟨.step :: .step :: .step :: .step :: es',
            ioRun_loop_read isJson hio hrun ha hidle hrf ?_⟩
          refine ioRun_step isJson (ioStep_afterRead isJson (by rfl)) ha₁ ?_
          simp only [hc]
          exact ⟨s', h₁, by rw [h₂, h₃, if_pos trivial]⟩
        · refine ⟨[.step, .step, .step, .step], ioRun_loop_read isJson hio hrun ha hidle hrf ?_⟩
          refine ioRun_step isJson (ioStep_afterRead isJson (by rfl)) ha₁ ?_
          exact ⟨_, rfl, by simp only [if_neg hc]⟩
      · -- frame を一つ読んだ
        obtain ⟨es', s', h₁, h₂⟩ := @ih { s with sess := s₁, inbound := t₁, io := .loop } hr rfl hj
        exact ⟨_, ioRun_loop_read isJson hio hrun ha hidle hrf ⟨s', h₁, h₂⟩⟩

/-- 接続中に一 byte だけ届いて frame の header が読み切れず、`handleDisconnect` が一度目の再接続を
試み、それが通る。 -/
theorem ioLoop_realized_reconnect :
    (∃ es' s', (opened {} [[0x81]] [0x47] MaskKey.zero CloseCode.normal []).ioRun (fun _ => false) es' = some s' ∧
      (s'.sess, s'.inbound) = Session.ioLoop (fun _ => false) chunked chunkedReady .ok 1
        (opened {} [[0x81]] [0x47] MaskKey.zero CloseCode.normal []).sess
        (opened {} [[0x81]] [0x47] MaskKey.zero CloseCode.normal []).inbound) ∧
    (Session.ioLoop (fun _ => false) chunked chunkedReady .ok 1
        (opened {} [[0x81]] [0x47] MaskKey.zero CloseCode.normal []).sess
        (opened {} [[0x81]] [0x47] MaskKey.zero CloseCode.normal []).inbound).1.trace = [.connect, .backoff 1] :=
  ⟨ioLoop_realized (fun _ => false) 1 (s := opened {} [[0x81]] [0x47] MaskKey.zero CloseCode.normal [])
    (.ok (by decide)) rfl rfl, rfl⟩

end Sys

end Gg.Ws
