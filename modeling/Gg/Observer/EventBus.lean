import Mathlib.Logic.Function.Basic
import Mathlib.Data.List.Nodup

/-!
# `gg::EventBus`

`observer/src/EventBus.hpp`、`ThreadQueue.hpp`、`Subscription.hpp`（`part_011`）。

## 仕組み

* `m_listeners` は事象の型ごとの `std::vector<ListenerInfo>` である。ここでは一本の列に型を持たせて
  並べる。型で絞った列は、その型の vector と同じ順になる。
* thread `t` の `ThreadQueue` の `m_pending` は `Bus.queues t`。queue は `subscribe` の時に作られるが、
  作られる前の `poll` は `0` を返すだけなので、どの thread も空の列から始めてよい。
  `subscribe` の closure が持つ `queue` は `m_queues[t]` と同じものを指し、これは消されない。
* 共有する値はどれも mutex の中でしか触らないので、mutex の区間一つを一歩とする。`poll` は
  `swap` で取り出したものを、その thread で順に呼ぶ。呼んだ callback は幽霊変数 `Bus.ran t` に足す。
* `emit` の template は二つある。どちらが呼ばれるかは実引数の式で決まる。C++ の規則（推論、
  参照の畳み込み、束縛の順位、template の半順序）のうち、ここで効くものだけを書く（`resolve`）。
  `emit(EventT&&)` の本体は `emit` を呼び直すので、呼び出しの回数を `fuel` で数える。

仕様の側は `Spec` である。`emit` は、その時に登録されている購読の callback をその thread に届け
（`delivered`）、`poll` はそれまでに届いたものを全部呼ぶ（`polled`）。`Bus.abs` で `Bus` をこれに
写すと、`Bus.step` は `Spec.step` に一歩ずつ対応する（`Bus.run_abs`）。ただし、非 const な左辺値を
渡した `emit` は本体に着かない（`emit_lvalue_never_returns`）。`unsubscribe` は `id` を持つ最初の
vector だけから除くが、購読の id が重ならない間は、仕様のように全部から除くのと同じである
（`Bus.unsubscribe_eq`）。id が重ならないことは、仕様の側の不変条件 `Spec.IdsFresh` として一歩ごとに
保たれる。
-/

namespace Gg

namespace Observer

/-! ## `emit` の二つの template -/

/-- `emit` に渡す実引数の式。左辺値か、`E` が const か。 -/
structure Arg where
  isLvalue : Bool
  isConst : Bool
  deriving DecidableEq, Repr

/-- 右辺値 `E{...}`。 -/
def Arg.rvalue : Arg := ⟨false, false⟩

/-- const な左辺値。 -/
def Arg.constLvalue : Arg := ⟨true, true⟩

/-- 非 const な左辺値。 -/
def Arg.lvalue : Arg := ⟨true, false⟩

/-- template 引数 `EventT`。`E` に const が付くか、左辺値参照か。 -/
structure TypeArg where
  isConst : Bool
  lref : Bool
  deriving DecidableEq, Repr

/-- 仮引数の参照型。右辺値参照か、指す先が const か。 -/
structure RefType where
  rvalue : Bool
  isConst : Bool
  deriving DecidableEq, Repr

/-- `EventT&&` からの推論。左辺値なら `EventT` は左辺値参照になる（[temp.deduct.call] 3）。 -/
def deduceForwarding (a : Arg) : TypeArg := ⟨a.isConst, a.isLvalue⟩

/-- `const EventT&` からの推論。`EventT` は `E`。 -/
def deduceConstRef (_ : Arg) : TypeArg := ⟨false, false⟩

/-- `EventT&&`。`EventT` が左辺値参照なら、畳み込んで左辺値参照（[dcl.ref] 6）。 -/
def TypeArg.rref (t : TypeArg) : RefType := ⟨!t.lref, t.isConst⟩

/-- `const EventT&`。`EventT` が参照なら `const` は付かない（[dcl.ref] 1）。 -/
def TypeArg.constLref (t : TypeArg) : RefType := ⟨false, !t.lref || t.isConst⟩

/-- 二つの `emit`。 -/
inductive Overload where
  /-- `emit(const EventT& event)`。 -/
  | constRef
  /-- `emit(EventT&& event)`。 -/
  | forwarding
  deriving DecidableEq, Repr

/-- 推論した後の仮引数の型。 -/
def param : Overload → Arg → RefType
  | .constRef, a => (deduceConstRef a).constLref
  | .forwarding, a => (deduceForwarding a).rref

/-- 参照が実引数に束縛できるか（[dcl.init.ref]）。 -/
def binds (a : Arg) (p : RefType) : Bool :=
  (if p.rvalue then !a.isLvalue else a.isLvalue || p.isConst) && (p.isConst || !a.isConst)

/-- 束縛 `p` が `q` より良いか（[over.ics.rank] 3.2.3、3.2.6）。 -/
def better (a : Arg) (p q : RefType) : Bool :=
  if !a.isLvalue && p.rvalue != q.rvalue then p.rvalue else q.isConst && !p.isConst

/-- 呼ばれる `emit`。`EventT&&` の方が良いときだけそれが呼ばれ、同じ順位なら半順序でより特殊な
`const EventT&` の方が呼ばれる（[temp.deduct.partial] 9）。 -/
def resolve (a : Arg) : Overload :=
  if binds a (param .forwarding a) &&
      (!binds a (param .constRef a) || better a (param .forwarding a) (param .constRef a))
  then .forwarding else .constRef

/-- `emit(EventT&&)` の本体が渡す `static_cast<const EventT&>(event)`。 -/
def castArg (a : Arg) : Arg := ⟨true, (deduceForwarding a).constLref.isConst⟩

/-- 非 const な左辺値では `EventT&&` の方が呼ばれ、`static_cast` は同じ種類の式を返す。 -/
theorem resolve_lvalue : resolve .lvalue = .forwarding ∧ castArg .lvalue = .lvalue := by decide

/-- 他の実引数では、二度目の呼び出しまでに `const EventT&` の方に着く。 -/
theorem resolve_ne_lvalue : ∀ a : Arg, a ≠ .lvalue →
    resolve a = .constRef ∨ (resolve a = .forwarding ∧ resolve (castArg a) = .constRef)
  | ⟨true, false⟩, h => absurd rfl h
  | ⟨true, true⟩, _ | ⟨false, true⟩, _ | ⟨false, false⟩, _ => by decide

/-- 右辺値は `EventT&&` の方に入り、`static_cast` で const な左辺値になって `const EventT&` の方へ
移る。 -/
example : resolve .rvalue = .forwarding ∧ castArg .rvalue = .constLvalue ∧
    resolve .constLvalue = .constRef := by decide

/-! ## bus -/

/-- 事象。`type` は `std::type_index(typeid(EventT))`。 -/
structure Event where
  type : Nat
  payload : Nat
  deriving DecidableEq, Repr

/-- `ListenerInfo`。 -/
structure ListenerInfo where
  id : Nat
  threadId : Nat
  type : Nat
  deriving DecidableEq, Repr

/-- `queue->push` が積む closure。購読 `id` の callback を `event` で呼ぶ。 -/
structure Callback where
  id : Nat
  event : Event
  deriving DecidableEq, Repr

/-- `EventBus` と各 thread の `ThreadQueue`。`ran t` は thread `t` の `poll` が呼んだ callback。 -/
structure Bus where
  nextId : Nat
  listeners : List ListenerInfo
  queues : Nat → List Callback
  ran : Nat → List Callback

/-- 操作。どれも mutex の区間一つ。 -/
inductive Act where
  /-- thread `t` の `subscribe<EventT>`。 -/
  | subscribe (t type : Nat)
  /-- `Subscription` の `cancel()` かデストラクタ。 -/
  | cancel (id : Nat)
  /-- どこかの thread の `emit`。 -/
  | emit (a : Arg) (e : Event)
  /-- thread `t` の `poll()`。 -/
  | poll (t : Nat)

namespace Bus

/-- `m_nextId(1)`。 -/
def init : Bus := ⟨1, [], fun _ => [], fun _ => []⟩

/-- `subscribe<EventT>` の `listeners.push_back`。`id` は `m_nextId++`。 -/
def subscribe (b : Bus) (t type : Nat) : Bus :=
  { b with nextId := b.nextId + 1, listeners := b.listeners ++ [⟨b.nextId, t, type⟩] }

/-- `unsubscribe(id)`。`m_listeners` の vector を順に回り、`id` を持つ最初の vector からだけ除いて
`return` する。回る順は `std::unordered_map` の順で決まっていないので、ここでは `id` を持つ最初の
listener の型の vector とする。 -/
def unsubscribe (b : Bus) (id : Nat) : Bus :=
  match b.listeners.find? (·.id = id) with
  | some l => { b with listeners := b.listeners.filter fun l' => !(l'.type = l.type ∧ l'.id = id) }
  | none => b

/-- `ThreadQueue::push`。 -/
def push (b : Bus) (t : Nat) (c : Callback) : Bus :=
  { b with queues := Function.update b.queues t (b.queues t ++ [c]) }

/-- `emit(const EventT&)` の本体。型の合う listener の順に、その thread の queue へ積む。 -/
def deliver (b : Bus) (e : Event) : Bus :=
  (b.listeners.filter (·.type = e.type)).foldl (fun b l => b.push l.threadId ⟨l.id, e⟩) b

/-- `poll()`。`swap` で取り出した分を、この thread で呼ぶ。 -/
def poll (b : Bus) (t : Nat) : Bus :=
  { b with queues := Function.update b.queues t [],
           ran := Function.update b.ran t (b.ran t ++ b.queues t) }

end Bus

/-- `emit(event)`。`fuel` は呼び出しの回数で、`none` はそのうちに本体に着かなかったこと。 -/
def emit : Nat → Arg → Bus → Event → Option Bus
  | 0, _, _, _ => none
  | fuel + 1, a, b, e =>
    match resolve a with
    | .constRef => some (b.deliver e)
    | .forwarding => emit fuel (castArg a) b e

namespace Bus

/-- 操作一つ。 -/
def step (fuel : Nat) (b : Bus) : Act → Option Bus
  | .subscribe t type => some (b.subscribe t type)
  | .cancel id => some (b.unsubscribe id)
  | .emit a e => Observer.emit fuel a b e
  | .poll t => some (b.poll t)

/-- 操作の列。どれかが戻らなければ `none`。 -/
def run (fuel : Nat) : Bus → List Act → Option Bus
  | b, [] => some b
  | b, act :: acts => (b.step fuel act).bind fun b => run fuel b acts

end Bus

/-! ## 仕様の側 -/

/-- 登録中の購読、各 thread に届いた callback、各 thread の `poll` が呼び終えた callback。 -/
structure Spec where
  nextId : Nat
  registered : List ListenerInfo
  delivered : Nat → List Callback
  polled : Nat → List Callback

namespace Spec

def init : Spec := ⟨1, [], fun _ => [], fun _ => []⟩

/-- `emit` は、その時に登録されている購読のうち型の合うものの callback を、登録順にその購読の
thread へ届ける。`poll` は、それまでにその thread へ届いたものを全部呼ぶ。 -/
def step (s : Spec) : Act → Spec
  | .subscribe t type =>
    { s with nextId := s.nextId + 1, registered := s.registered ++ [⟨s.nextId, t, type⟩] }
  | .cancel id => { s with registered := s.registered.filter (·.id ≠ id) }
  | .emit _ e =>
    { s with delivered := fun t => s.delivered t ++
        (s.registered.filter fun l => l.type = e.type ∧ l.threadId = t).map fun l => ⟨l.id, e⟩ }
  | .poll t => { s with polled := Function.update s.polled t (s.delivered t) }

def run (s : Spec) (acts : List Act) : Spec := acts.foldl step s

/-- 登録中の購読の id は、どれも `nextId` より小さく、重ならない。 -/
structure IdsFresh (s : Spec) : Prop where
  lt : ∀ l ∈ s.registered, l.id < s.nextId
  nodup : (s.registered.map (·.id)).Nodup

theorem IdsFresh.step {s : Spec} (h : s.IdsFresh) : ∀ act, (s.step act).IdsFresh
  | .subscribe t type => by
    refine ⟨fun l hl => ?_, ?_⟩
    · rcases List.mem_append.1 hl with hl | hl
      · exact Nat.lt_succ_of_lt (h.lt l hl)
      · rw [List.mem_singleton.1 hl]
        exact Nat.lt_succ_self _
    · rw [Spec.step, List.map_append]
      refine List.nodup_append.2 ⟨h.nodup, List.nodup_singleton _, fun a ha hb => ?_⟩
      obtain ⟨l, hl, rfl⟩ := List.mem_map.1 ha
      exact absurd (h.lt l hl) (by rw [List.mem_singleton.1 hb]; exact Nat.lt_irrefl _)
  | .cancel _ => ⟨(fun l hl => h.lt l (List.mem_of_mem_filter hl)),
      h.nodup.sublist ((List.filter_sublist _).map _)⟩
  | .emit _ _ | .poll _ => ⟨h.lt, h.nodup⟩

theorem idsFresh_init : init.IdsFresh := ⟨(fun _ hl => by cases hl), List.nodup_nil⟩

theorem IdsFresh.run {s : Spec} (h : s.IdsFresh) : ∀ acts, (s.run acts).IdsFresh
  | [] => h
  | act :: acts => (h.step act).run acts

end Spec

/-! ## `emit` が戻るとき -/

/-- 非 const な左辺値では、`emit` は何回呼んでも `emit(EventT&&)` を呼び直すだけである。 -/
theorem emit_lvalue (b : Bus) (e : Event) : ∀ fuel, emit fuel .lvalue b e = none
  | 0 => rfl
  | n + 1 => by simp only [emit, resolve_lvalue.1, resolve_lvalue.2, emit_lvalue b e n]

/-- 他の実引数では、二回の呼び出しのうちに本体に着く。 -/
theorem emit_ne_lvalue (b : Bus) (e : Event) {a : Arg} (ha : a ≠ .lvalue) {fuel : Nat}
    (hfuel : 2 ≤ fuel) : emit fuel a b e = some (b.deliver e) := by
  obtain ⟨n, rfl⟩ : ∃ n, fuel = n + 2 := ⟨fuel - 2, by omega⟩
  rcases resolve_ne_lvalue a ha with h | ⟨h, h'⟩ <;> simp only [emit, h]
  simp only [h']

/-- **非 const な左辺値を渡した `emit` は、呼び出しを何回許しても本体に着かない。他の実引数なら
二回のうちに着き、型の合う購読に届ける。** -/
theorem emit_lvalue_never_returns (b : Bus) (e : Event) :
    (∀ fuel, b.step fuel (.emit .lvalue e) = none) ∧
    ∀ a, a ≠ .lvalue → ∀ fuel, 2 ≤ fuel → b.step fuel (.emit a e) = some (b.deliver e) :=
  ⟨emit_lvalue b e, fun _ ha _ hfuel => emit_ne_lvalue b e ha hfuel⟩

/-- `emit` が戻るなら、`const EventT&` の本体を一度走らせた後である。 -/
theorem emit_eq_some {b b' : Bus} {e : Event} : ∀ {fuel : Nat} {a : Arg},
    emit fuel a b e = some b' → b' = b.deliver e
  | 0, _, h => nomatch h
  | fuel + 1, a, h => by
    unfold emit at h
    split at h
    · exact (Option.some.inj h).symm
    · exact emit_eq_some h

/-- 空の bus に `Event` を非 const な左辺値で渡すと、五回の呼び出しでも戻らない。 -/
theorem emit_lvalue_never_returns_init :
    Bus.init.step 5 (.emit .lvalue ⟨0, 0⟩) = none :=
  (emit_lvalue_never_returns Bus.init ⟨0, 0⟩).1 5

/-! ## 仕様との対応 -/

namespace Bus

/-- 仕様の状態に写す。`t` に届いたものは、呼び終えたものと queue に残るものを合わせたもの。 -/
def abs (b : Bus) : Spec := ⟨b.nextId, b.listeners, fun t => b.ran t ++ b.queues t, b.ran⟩

/-- **購読の id が重ならなければ、最初の vector で止まる `unsubscribe` は、`id` をどの vector からも
除くのと同じ。** -/
theorem unsubscribe_eq {b : Bus} (hnd : (b.listeners.map (·.id)).Nodup) (id : Nat) :
    b.unsubscribe id = { b with listeners := b.listeners.filter (·.id ≠ id) } := by
  unfold unsubscribe
  cases hf : b.listeners.find? (·.id = id) with
  | none => rw [List.filter_eq_self.2 fun l hl => by simpa using List.find?_eq_none.1 hf l hl]
  | some l =>
    have hl := List.mem_of_find?_eq_some hf
    have hid : l.id = id := by simpa using List.find?_some hf
    dsimp only
    congr 1
    refine List.filter_congr fun l' hl' => ?_
    by_cases he : l'.id = id
    · have : l' = l := List.inj_on_of_nodup_map hnd hl' hl (he.trans hid.symm)
      simp [this, hid]
    · simp [he]

/-- listener の列を順に積むと、各 thread の queue にはその thread の分が順に足される。 -/
theorem foldl_push (e : Event) : ∀ (ls : List ListenerInfo) (b : Bus),
    ls.foldl (fun b l => b.push l.threadId ⟨l.id, e⟩) b =
      { b with queues := fun t => b.queues t ++
          (ls.filter (·.threadId = t)).map fun l => ⟨l.id, e⟩ }
  | [], b => by simp
  | l :: ls, b => by
    rw [List.foldl_cons, foldl_push e ls]
    congr 1
    funext t
    by_cases h : l.threadId = t
    · subst h; simp [push]
    · simp [push, h, Function.update_noteq (Ne.symm h)]

theorem deliver_abs (b : Bus) (a : Arg) (e : Event) : (b.deliver e).abs = b.abs.step (.emit a e) := by
  have hf : ∀ t, (b.listeners.filter (·.type = e.type)).filter (·.threadId = t) =
      b.listeners.filter fun l => l.type = e.type ∧ l.threadId = t := fun t => by
    rw [List.filter_filter]
    congr 1
    funext l
    rw [Bool.decide_and, Bool.and_comm]
  simp only [deliver, foldl_push, abs, Spec.step, hf, List.append_assoc]

theorem poll_abs (b : Bus) (t : Nat) : (b.poll t).abs = b.abs.step (.poll t) := by
  simp only [poll, abs, Spec.step]
  congr 1
  funext t'
  by_cases h : t' = t
  · subst h; simp
  · simp [Function.update_noteq h]

/-- **購読の id が重ならない bus の一歩は、写した先で仕様の一歩になる。** -/
theorem step_abs {fuel : Nat} {b b' : Bus} (hb : b.abs.IdsFresh) : ∀ {act : Act}, b.step fuel act = some b' →
    b'.abs = b.abs.step act
  | .subscribe _ _, h => by cases h; rfl
  | .cancel id, h => by
    cases h
    rw [unsubscribe_eq hb.nodup]
    rfl
  | .poll t, h => by cases h; exact poll_abs b t
  | .emit a e, h => by
    obtain rfl := emit_eq_some h
    exact deliver_abs b a e

/-- **購読の id が重ならない bus から操作の列が最後まで走れば、写した先は仕様で同じ列を走らせた結果
である。** -/
theorem run_abs {fuel : Nat} : ∀ {b b' : Bus} {acts : List Act}, b.abs.IdsFresh → b.run fuel acts = some b' →
    b'.abs = b.abs.run acts
  | _, _, [], _, h => by cases h; rfl
  | _, _, act :: _, hb, h => by
    obtain ⟨b₁, h₁, h₂⟩ := Option.bind_eq_some.mp h
    have e := step_abs hb h₁
    rw [run_abs (e ▸ hb.step act) h₂, e]
    rfl

theorem idsFresh_abs_init : init.abs.IdsFresh := Spec.idsFresh_init

/-- 非 const な左辺値を `emit` に渡さない列は、`fuel` が二回分あれば最後まで走る。 -/
theorem run_isSome {fuel : Nat} (hfuel : 2 ≤ fuel) :
    ∀ (b : Bus) {acts : List Act}, (∀ e, .emit .lvalue e ∉ acts) → ∃ b', b.run fuel acts = some b'
  | b, [], _ => ⟨b, rfl⟩
  | b, act :: acts, h => by
    have hstep : ∃ b₁, b.step fuel act = some b₁ := by
      cases act with
      | emit a e =>
        have ha : a ≠ .lvalue := by
          rintro rfl
          exact h e (List.mem_cons_self _ _)
        exact ⟨_, emit_ne_lvalue b e ha hfuel⟩
      | subscribe | cancel | poll => exact ⟨_, rfl⟩
    obtain ⟨b₁, h₁⟩ := hstep
    obtain ⟨b', h'⟩ := run_isSome hfuel b₁ fun e he => h e (List.mem_cons_of_mem _ he)
    exact ⟨b', by simp only [run, h₁, Option.some_bind, h']⟩

/-- **非 const な左辺値を `emit` に渡さない列は、空の bus から最後まで走る。その後、thread `t` の
`poll` が呼んだ callback は仕様の `polled t` と同じ列で、呼んだものと queue に残るものを合わせると、
仕様で `t` に届いた `delivered t` と同じ列になる。** -/
theorem run_delivers {fuel : Nat} (hfuel : 2 ≤ fuel) {acts : List Act}
    (h : ∀ e, .emit .lvalue e ∉ acts) :
    ∃ b, init.run fuel acts = some b ∧ ∀ t,
      b.ran t = (Spec.init.run acts).polled t ∧
      b.ran t ++ b.queues t = (Spec.init.run acts).delivered t := by
  obtain ⟨b, hb⟩ := run_isSome hfuel init h
  have habs : b.abs = Spec.init.run acts := run_abs idsFresh_abs_init hb
  exact ⟨b, hb, fun t => ⟨congrFun (congrArg Spec.polled habs) t,
    congrFun (congrArg Spec.delivered habs) t⟩⟩

theorem run_delivers_emit_poll :
    ∃ b, init.run 2 [.subscribe 0 3, .emit .rvalue ⟨3, 9⟩, .poll 0] = some b ∧ ∀ t,
      b.ran t = (Spec.init.run [.subscribe 0 3, .emit .rvalue ⟨3, 9⟩, .poll 0]).polled t ∧
      b.ran t ++ b.queues t = (Spec.init.run [.subscribe 0 3, .emit .rvalue ⟨3, 9⟩, .poll 0]).delivered t :=
  run_delivers (le_refl 2) (fun e h => by simp [Arg.lvalue, Arg.rvalue] at h)

/-- **空の bus から走った列の後では、購読の id はどれも一つの購読にしか付いていない。** だから
`unsubscribe` が最初に `id` を見つけた vector で止まっても、全部から除いても同じである
（`unsubscribe_eq`）。 -/
theorem run_id_unique {fuel : Nat} {acts : List Act} {b : Bus} (h : init.run fuel acts = some b) :
    ∀ l₁ ∈ b.listeners, ∀ l₂ ∈ b.listeners, l₁.id = l₂.id → l₁ = l₂ := by
  have hreg : b.listeners = (Spec.init.run acts).registered :=
    congrArg Spec.registered (run_abs idsFresh_abs_init h)
  rw [hreg]
  exact List.inj_on_of_nodup_map (Spec.idsFresh_init.run acts).nodup

theorem run_id_unique_two :
    ∃ b, init.run 2 [.subscribe 0 3, .subscribe 1 3, .cancel 1] = some b ∧
      ∀ l₁ ∈ b.listeners, ∀ l₂ ∈ b.listeners, l₁.id = l₂.id → l₁ = l₂ :=
  ⟨_, rfl, @run_id_unique 2 [.subscribe 0 3, .subscribe 1 3, .cancel 1] _ rfl⟩

end Bus

end Observer

end Gg
