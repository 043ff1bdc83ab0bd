import Gg.Ws.Lifecycle
import Gg.Ws.Chunking
import Gg.Internal.Heartbeat

/-!
# thread の重なり

接続中の session で動く thread を、一歩ずつの並びとして書く。

* `io` — I/O thread。`ioLoop`、`readFrame`、`handleDisconnect` とそこからの `connect()`。
* `timer` — heartbeat の timer thread。`timerLoop`。
* `user` — `disconnect(code)` を呼んだ thread。
* `sender` — `send(message)` を呼んだ thread。

## 一歩の大きさ

共有するものに触る操作ごとに一歩とする。`readFrame` は一歩である。その中の読みは I/O thread
しか触らず、共有するものへの書き込みは callback の記録と `handleClose` が落とす
`connected`・`running` と `waitingPong_` だけだからである。`sendFrame` は `sendMutex` を取る
一歩と、`rawSend` の一回ごとの一歩に分ける。transport は一回に残りの任意の正の長さを受け付ける。
`HeartbeatManager::mutex_` は `config_` の読み書きの順を決めるだけで、ここではどの一歩も
`config_` を書かないので持たない。

## 外から与えるもの

server から届く byte 流は `chunked` の塊の列（`inbound`）として与える。OS 呼び出しの成否、
`rawSend` が受け付けた byte 数、pong の期限切れは、一歩ごとに `Env` として与える。

## 書き込みの記録

`wire` は、どの thread がどの接続に何を書いたかを順に記録する。I/O thread が `readFrame` の
中で送る frame（自動の pong）と `drainSendQueue` の frame は、`Session` と同じく callback の
記録の `.frame` として残る。

ここには一歩ごとにできること（`ioStep_frame`、`ioStep_flags` など）までを置き、実行の上の性質は
`Gg/Ws/Disconnect.lean` と `Gg/Ws/Reconnect.lean` に置く。
-/

namespace Gg.Ws

open Gg.Internal

/-- session の thread。 -/
inductive Thread where
  | user
  | io
  | timer
  | sender
  deriving DecidableEq, Repr

/-- `Impl::socket`。 -/
inductive Sock where
  /-- `SOCKET_ERROR_VALUE`。 -/
  | none
  /-- `initSocket()` が作り、まだつないでいない socket。 -/
  | created (conn : Nat)
  /-- `connectSocket()` がつないだ socket。 -/
  | connected (conn : Nat)
  deriving DecidableEq, Repr

/-- 一歩ごとに外から決まること。 -/
inductive Env where
  /-- 選びのない一歩。 -/
  | step
  /-- OS 呼び出しが成功した。 -/
  | ok
  /-- OS 呼び出しか書き込みが失敗した。 -/
  | fail
  /-- server が handshake を受け入れなかった。 -/
  | reject
  /-- `rawSend` の一回が `k` byte を受け付けた。 -/
  | accept (k : Nat)
  /-- 前の ping から `timeout` が過ぎていた。 -/
  | expired
  deriving DecidableEq, Repr

/-- `sendFrame` の中。 -/
inductive SendPc where
  /-- `std::lock_guard<std::mutex> lock(sendMutex)` を待つ。 -/
  | lock (frame : Bytes)
  /-- `rawSend` の loop。まだ書いていない byte。 -/
  | write (rest : Bytes)
  deriving DecidableEq, Repr

/-- I/O thread の場所。 -/
inductive IoPc where
  /-- `while (running)`。 -/
  | loop
  /-- `waitForData(100)`。 -/
  | wait
  /-- `readFrame(frameBuffer)`。 -/
  | read
  /-- `readFrame` が `false`。`if (connected) handleDisconnect();` -/
  | afterRead
  /-- `handleDisconnect()` の始め。`connected` を落として再接続を試すか決める。 -/
  | handle
  /-- `sleep_for(seconds(1) * reconnectAttempts)`。 -/
  | sleep
  /-- `cleanup()`。 -/
  | cleanup
  /-- `connect()` の `initSocket()`。 -/
  | initSock
  /-- `connectSocket()`。 -/
  | connectSock
  /-- `performHandshake()` の `rawSend(req)`。まだ書いていない byte。 -/
  | hsWrite (rest : Bytes)
  /-- `performHandshake()` の応答の読み。 -/
  | hsRead
  /-- `connected`、`running`、`reconnectAttempts` を書く。 -/
  | flags
  /-- `ioThread = std::thread(&Impl::ioLoop, this)`。 -/
  | assign
  /-- `running.store(false)`。 -/
  | giveUp
  /-- `triggerDisconnect(AbnormalClosure)`。 -/
  | notify
  /-- thread が終わった。 -/
  | done
  deriving DecidableEq, Repr

/-- timer thread の場所。 -/
inductive TimerPc where
  /-- `while (running_)`。 -/
  | loop
  /-- `cv_.wait_for(interval, ...)`。 -/
  | wait
  /-- 待ちの後の `running_` と `waitingPong_` の確認。 -/
  | check
  /-- `sendPing_()` / `sendTextPing_()` の `connected` の確認。 -/
  | ping
  /-- その `sendFrame`。 -/
  | pingSend (sp : SendPc)
  | done
  deriving DecidableEq, Repr

/-- `disconnect(code)` を呼んだ thread の場所。`was` は `wasConnected`。 -/
inductive UserPc where
  /-- `connected.exchange(false)`。 -/
  | exchange
  /-- `running.store(false)`。 -/
  | clearRunning (was : Bool)
  /-- `heartbeat->stop()` の前半。 -/
  | stopBegin (was : Bool)
  /-- `heartbeat->stop()` の `join`。 -/
  | stopJoin (was : Bool)
  /-- `if (wasConnected) sendCloseFrame(code);` -/
  | close (was : Bool)
  /-- `sendCloseFrame` の `sendFrame`。 -/
  | closing (sp : SendPc)
  /-- `if (ioThread.joinable()) ioThread.join();` -/
  | join (was : Bool)
  /-- `cleanup()`。 -/
  | cleanup (was : Bool)
  /-- `if (wasConnected) triggerDisconnect(code);` -/
  | notify (was : Bool)
  /-- `disconnect` から戻った。 -/
  | returned
  deriving DecidableEq, Repr

/-- `send(message)` を呼んだ thread の場所。 -/
inductive SenderPc where
  /-- `if (!connected) return false;` -/
  | check (message : Bytes)
  | sending (sp : SendPc)
  /-- 戻った。`sendFrame` の戻り値。 -/
  | done (ok : Bool)
  deriving DecidableEq, Repr

/-- 接続中の session と、その thread。 -/
structure Sys where
  /-- `connected`、`running`、`reconnectAttempts`、`waitingPong_`、callback の記録。 -/
  sess : Session
  /-- まだ読んでいない server からの byte。 -/
  inbound : List Bytes
  /-- `performHandshake` の request。 -/
  request : Bytes
  /-- frame の mask key。`std::random_device` から来る。 -/
  key : MaskKey
  /-- `disconnect` に渡した code。 -/
  code : Int
  sock : Sock
  /-- 次につなぐ接続の番号。 -/
  nextConn : Nat
  /-- 書いた thread、接続、byte。 -/
  wire : List (Thread × Nat × Bytes)
  /-- `sendMutex` を持つ thread。 -/
  sendHolder : Option Thread
  hb : Heartbeat
  /-- `ioThread.joinable()`。 -/
  ioJoinable : Bool
  io : IoPc
  timer : TimerPc
  user : UserPc
  sender : SenderPc

namespace Sys

variable (isJson : Bytes → Bool)

/-- `sendFrame(opcode, payload)` が組み立てる frame。 -/
def frame (s : Sys) (opcode : UInt8) (payload : Bytes) : Bytes := sendFrameBytes opcode payload s.key

/-- 一つの thread が `sendFrame` の中で進む。`.inl` は続き、`.inr ok` は戻り値。 -/
def sendStep (s : Sys) (th : Thread) : SendPc → Env → Option (Sys × (SendPc ⊕ Bool))
  | .lock f, .step =>
    if s.sendHolder = none then some ({ s with sendHolder := some th }, .inl (.write f)) else none
  | .write rest, .accept k =>
    match s.sock with
    | .connected c =>
      if 0 < k ∧ k ≤ rest.length then
        let s := { s with wire := s.wire ++ [(th, c, rest.take k)] }
        if k = rest.length then some ({ s with sendHolder := none }, .inr true)
        else some (s, .inl (.write (rest.drop k)))
      else none
    | _ => some ({ s with sendHolder := none }, .inr false)
  | .write _, .fail => some ({ s with sendHolder := none }, .inr false)
  | _, _ => none

/-- `connect()` が失敗で終わる。`triggerError` の後、`cleanup()` して `false` を返す。 -/
def connectFailed (s : Sys) (code : Int) (msg : String) : Sys :=
  { s with sess := s.sess.triggerError code msg, sock := .none, io := .giveUp }

/-- I/O thread の一歩。 -/
def ioStep (s : Sys) : Env → Option Sys
  | e =>
    match s.io, e with
    | .loop, .step =>
      some (if s.sess.running then { s with sess := s.sess.drainSendQueue, io := .wait }
        else { s with io := .done })
    | .wait, .step => some { s with io := if chunkedReady s.inbound then .read else .loop }
    | .read, .step =>
      let r := Session.readFrame isJson chunked s.sess s.inbound
      some { s with sess := r.1.1, inbound := r.2, io := if r.1.2 then .loop else .afterRead }
    | .afterRead, .step => some { s with io := if s.sess.connected then .handle else .done }
    | .handle, .step =>
      let sess := { s.sess with connected := false }
      some (if sess.config.autoReconnect ∧ sess.reconnectAttempts < sess.config.maxReconnectAttempts
        then { s with sess := { sess with reconnectAttempts := sess.reconnectAttempts + 1 },
                      io := .sleep }
        else { s with sess, io := .giveUp })
    | .sleep, .step =>
      some { s with sess := s.sess.emit (.backoff s.sess.reconnectAttempts), io := .cleanup }
    | .cleanup, .step => some { s with sock := .none, io := .initSock }
    | .initSock, .ok =>
      some { s with sock := .created s.nextConn, nextConn := s.nextConn + 1, io := .connectSock }
    | .initSock, .fail =>
      some { s with sess := s.sess.triggerError ErrorCode.connectionFailed "Falha ao criar socket",
                    io := .giveUp }
    | .connectSock, .ok =>
      match s.sock with
      | .created c => some { s with sock := .connected c, io := .hsWrite s.request }
      | _ => none
    | .connectSock, .fail => some (s.connectFailed ErrorCode.connectionFailed "Conexão falhou")
    | .hsWrite rest, .accept k =>
      match s.sock with
      | .connected c =>
        if 0 < k ∧ k ≤ rest.length then
          some { s with wire := s.wire ++ [(.io, c, rest.take k)],
                        io := if k = rest.length then .hsRead else .hsWrite (rest.drop k) }
        else none
      | _ => some (s.connectFailed ErrorCode.handshakeFailed "Falha ao enviar handshake")
    | .hsWrite _, .fail => some (s.connectFailed ErrorCode.handshakeFailed "Falha ao enviar handshake")
    | .hsRead, .ok => some { s with io := .flags }
    | .hsRead, .fail => some (s.connectFailed ErrorCode.handshakeFailed "Sem resposta do servidor")
    | .hsRead, .reject =>
      some (s.connectFailed ErrorCode.handshakeFailed "Handshake rejeitado pelo servidor")
    | .flags, .step =>
      some { s with sess := { s.sess with connected := true, running := true, reconnectAttempts := 0 },
                    io := .assign }
    | .assign, .step => if s.ioJoinable then some { s with sess := { s.sess with aborted := true } } else none
    | .giveUp, .step => some { s with sess := { s.sess with running := false }, io := .notify }
    | .notify, .step =>
      some { s with sess := s.sess.triggerDisconnect CloseCode.abnormalClosure, io := .done }
    | _, _ => none

/-- timer の ping。`Opcode` なら ping frame、`TextMessage` なら `send(textMessage)`。 -/
def pingFrame (s : Sys) : Bytes :=
  if s.hb.config.mode = .textMessage then s.frame Opcode.text s.hb.config.textMessage
  else s.frame Opcode.ping []

/-- timer thread の一歩。 -/
def timerStep (s : Sys) : Env → Option Sys
  | e =>
    match s.timer, e with
    | .loop, .step => some { s with timer := if s.hb.running then .wait else .done }
    | .wait, .step => some { s with timer := .check }
    | .check, .step =>
      some { s with timer := if s.hb.running then .ping else .done }
    | .check, .expired =>
      if s.hb.running ∧ s.sess.waitingPong then
        some { s with sess := { s.sess.triggerError ErrorCode.pingTimeout "Pong timeout" with
                                  waitingPong := false },
                      timer := .loop }
      else none
    | .ping, .step =>
      some { s with timer := if s.sess.connected then .pingSend (.lock s.pingFrame) else .loop }
    | .pingSend sp, e =>
      match s.sendStep .timer sp e with
      | some (s', .inl sp') => some { s' with timer := .pingSend sp' }
      | some (s', .inr sent) =>
        some { s' with sess := { s'.sess with waitingPong := s'.sess.waitingPong || sent },
                       timer := .loop }
      | none => none
    | _, _ => none

/-- `disconnect(code)` を呼んだ thread の一歩。 -/
def userStep (s : Sys) : Env → Option Sys
  | e =>
    match s.user, e with
    | .exchange, .step =>
      some { s with sess := { s.sess with connected := false }, user := .clearRunning s.sess.connected }
    | .clearRunning w, .step => some { s with sess := { s.sess with running := false }, user := .stopBegin w }
    | .stopBegin w, .step =>
      match s.hb.stopBegin [] with
      | .ok (hb, go) => some { s with hb, user := if go then .stopJoin w else .close w }
      | .error _ => none
    | .stopJoin w, .step =>
      if s.hb.timerJoinable ∧ s.timer ≠ .done then none
      else
        match s.hb.stopJoin false with
        | .ok hb => some { s with hb, user := .close w }
        | .error _ => none
    | .close w, .step =>
      some { s with user := if w then .closing (.lock (s.frame Opcode.close (closePayload s.code)))
                            else .join w }
    | .closing sp, e =>
      match s.sendStep .user sp e with
      | some (s', .inl sp') => some { s' with user := .closing sp' }
      | some (s', .inr _) => some { s' with user := .join true }
      | none => none
    | .join w, .step =>
      if s.ioJoinable then
        if s.io = .done then some { s with ioJoinable := false, user := .cleanup w } else none
      else some { s with user := .cleanup w }
    | .cleanup w, .step => some { s with sock := .none, user := .notify w }
    | .notify w, .step =>
      some { s with sess := if w then s.sess.triggerDisconnect s.code else s.sess, user := .returned }
    | _, _ => none

/-- `send(message)` を呼んだ thread の一歩。 -/
def senderStep (s : Sys) : Env → Option Sys
  | e =>
    match s.sender, e with
    | .check m, .step =>
      some { s with sender := if s.sess.connected then .sending (.lock (s.frame Opcode.text m))
                              else .done false }
    | .sending sp, e =>
      match s.sendStep .sender sp e with
      | some (s', .inl sp') => some { s' with sender := .sending sp' }
      | some (s', .inr ok) => some { s' with sender := .done ok }
      | none => none
    | _, _ => none

/-- 一つの thread の一歩。 -/
def threadStep (s : Sys) : Thread → Env → Option Sys
  | .io, e => s.ioStep isJson e
  | .timer, e => s.timerStep e
  | .user, e => s.userStep e
  | .sender, e => s.senderStep e

/-- 選んだ thread の一歩。`std::terminate()` の後は何も動かない。 -/
def step (s : Sys) : Thread × Env → Option Sys
  | (th, e) => if s.sess.aborted then none else s.threadStep isJson th e

/-- 一歩ずつの実行。どこかの一歩が動けなければ `none`。 -/
def run (s : Sys) : List (Thread × Env) → Option Sys
  | [] => some s
  | l :: ls => (s.step isJson l).bind fun s' => s'.run ls

/-! ## 接続の後 -/

/--
`connect()` が戻った直後。I/O thread と、`Disabled` でなければ timer thread が動いている。
`disconnect(code)` と `send(message)` を呼ぶ thread がいて、まだ一歩も進んでいない。
`wire` はここからの書き込みを記録する。
-/
def opened (config : WebSocketConfig) (inbound : List Bytes) (request : Bytes) (key : MaskKey)
    (code : Int) (message : Bytes) : Sys where
  sess := Session.opened config
  inbound := inbound
  request := request
  key := key
  code := code
  sock := .connected 0
  nextConn := 1
  wire := []
  sendHolder := none
  hb := ⟨config.ping, config.ping.mode != .disabled, false, config.ping.mode != .disabled⟩
  ioJoinable := true
  io := .loop
  timer := if config.ping.mode = .disabled then .done else .loop
  user := .exchange
  sender := .check message

/-! ## 一歩ができること -/

/-- `sendFrame` の一歩は、`wire` と `sendMutex` しか変えない。 -/
theorem sendStep_frame {s s' : Sys} {th : Thread} {sp : SendPc} {e : Env} {r : SendPc ⊕ Bool}
    (h : s.sendStep th sp e = some (s', r)) :
    s' = { s with wire := s'.wire, sendHolder := s'.sendHolder } := by
  unfold sendStep at h
  repeat' split at h
  all_goals (cases h <;> rfl)

/-- I/O thread の一歩は、session、受信、socket、書き込みの記録と自分の場所しか変えない。 -/
theorem ioStep_frame {s s' : Sys} {e : Env} (h : s.ioStep isJson e = some s') :
    s' = { s with sess := s'.sess, inbound := s'.inbound, sock := s'.sock, nextConn := s'.nextConn,
                  wire := s'.wire, io := s'.io } := by
  unfold ioStep at h
  cases hio : s.io <;> cases e <;> simp only [hio, reduceCtorEq] at h <;> (repeat' split at h) <;>
    (cases h <;> rfl)

/--
I/O thread は、終わった後には動かない。`connected`、`running`、`aborted` を立てるのは
再接続の `connect()` だけで、そのとき I/O thread は `ioThread` への代入の前にいる。
-/
theorem ioStep_flags {s s' : Sys} {e : Env} (h : s.ioStep isJson e = some s') :
    s.io ≠ .done ∧ (s.io = .assign → s'.io = .assign) ∧
      (s'.sess.connected = true → s.sess.connected = true ∨ s'.io = .assign) ∧
      (s'.sess.running = true → s.sess.running = true ∨ s'.io = .assign) ∧
      (s'.sess.aborted = true → s.sess.aborted = true ∨ s'.io = .assign) := by
  have hrf := readFrame_flags isJson chunked s.sess s.inbound
  unfold ioStep at h
  cases hio : s.io <;> cases e <;> simp only [hio, reduceCtorEq] at h <;> (repeat' split at h) <;>
    cases h <;> simp_all only [ne_eq, implies_true, true_or, true_and, or_true, reduceCtorEq,
      not_false_eq_true, connectFailed, Session.triggerError, Session.triggerDisconnect, Session.emit,
      drainSendQueue_connected, drainSendQueue_aborted]

/-- `sendFrame` の一歩の書き込みは、つながった socket への、その thread の一回だけである。 -/
theorem sendStep_wire {s s' : Sys} {th : Thread} {sp : SendPc} {e : Env} {r : SendPc ⊕ Bool}
    (h : s.sendStep th sp e = some (s', r)) :
    s'.wire = s.wire ∨ ∃ c, s.sock = .connected c ∧ ∃ b, s'.wire = s.wire ++ [(th, c, b)] := by
  unfold sendStep at h
  repeat' split at h
  all_goals cases h
  all_goals first
    | exact .inl rfl
    | exact .inr ⟨_, ‹_›, _, rfl⟩

/-- timer thread の一歩は、callback の記録と `waitingPong_`、書き込み、`sendMutex` と自分の場所しか変えない。 -/
theorem timerStep_frame {s s' : Sys} {e : Env} (h : s.timerStep e = some s') :
    s.timer ≠ .done ∧
      s' = { s with sess := { s.sess with trace := s'.sess.trace, waitingPong := s'.sess.waitingPong },
                    wire := s'.wire, sendHolder := s'.sendHolder, timer := s'.timer } := by
  unfold timerStep at h
  cases ht : s.timer <;> simp only [ht] at h
  case pingSend sp =>
    refine ⟨nofun, ?_⟩
    split at h <;> cases h
    all_goals (rename_i hs; rw [sendStep_frame hs])
  all_goals (cases e <;> simp only [reduceCtorEq] at h <;> (repeat' split at h) <;> cases h <;>
    exact ⟨nofun, rfl⟩)

/-- `send` を呼んだ thread の一歩は、書き込み、`sendMutex` と自分の場所しか変えない。 -/
theorem senderStep_frame {s s' : Sys} {e : Env} (h : s.senderStep e = some s') :
    s' = { s with wire := s'.wire, sendHolder := s'.sendHolder, sender := s'.sender } := by
  unfold senderStep at h
  cases hs : s.sender <;> simp only [hs] at h
  case sending sp =>
    split at h <;> cases h
    all_goals (rename_i hs; rw [sendStep_frame hs])
  all_goals (cases e <;> simp only [reduceCtorEq] at h <;> cases h <;> rfl)

theorem step_some {s s' : Sys} {th : Thread} {e : Env} (h : s.step isJson (th, e) = some s') :
    s.sess.aborted = false ∧ s.threadStep isJson th e = some s' := by
  simp only [step] at h
  split at h
  · cases h
  · rename_i ha
    exact ⟨Bool.eq_false_iff.mpr ha, h⟩

/-- `send` を呼んだ thread が書くのは、つながった socket にだけである。 -/
theorem senderStep_wire {s s' : Sys} {e : Env} (h : s.senderStep e = some s') :
    s'.wire = s.wire ∨ ∃ c, s.sock = .connected c ∧ ∃ b, s'.wire = s.wire ++ [(.sender, c, b)] := by
  unfold senderStep at h
  cases hs : s.sender <;> simp only [hs] at h
  case sending sp =>
    split at h <;> cases h
    all_goals (rename_i heq; have hw := sendStep_wire heq; exact hw)
  all_goals (cases e <;> simp only [reduceCtorEq] at h <;> cases h <;> exact .inl rfl)

/-- 一歩ずつ保たれるものは、実行の全体で保たれる。 -/
theorem run_invariant (P : Sys → Prop)
    (hstep : ∀ {s s' : Sys} {l : Thread × Env}, P s → s.step isJson l = some s' → P s')
    {s s' : Sys} (sched : List (Thread × Env)) (hs : P s) (h : s.run isJson sched = some s') :
    P s' := by
  induction sched generalizing s with
  | nil => exact Option.some.inj h ▸ hs
  | cons l ls ih =>
    obtain ⟨s₁, h₁, h₂⟩ := Option.bind_eq_some.mp h
    exact ih (hstep hs h₁) h₂

end Sys

end Gg.Ws
