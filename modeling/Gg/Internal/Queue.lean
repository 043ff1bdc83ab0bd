import Mathlib.Data.List.Basic
import Mathlib.Algebra.Group.Nat.Basic
import Mathlib.Logic.Function.Basic

/-!
# `LockFreeQueue` は FIFO を細分する

`gg::internal::LockFreeQueue<T>`（`message_queue.hpp` 15–89 行）。dummy node から始まる
片方向リストで、producer は `tail_` を `exchange` してから前の tail の `next` に新しい node を
書き、consumer は `head_->next` を読んで進む。

## 実行のとらえ方

* producer の `push` は二つの原子的な一歩に分かれる。`new Node(item)` と
  `tail_.exchange(newNode)`（`push`）、そして `prevTail->next.store(newNode)`（`link`）。
  確保した node は `exchange` までどの thread にも見えないので、確保は `exchange` と同じ一歩に
  まとめてよい。
* consumer の `pop` が他の thread と共有する読みは `head->next` の一回だけなので、`pop` は
  一歩である。`next->data` は producer が `exchange` の前に書き、`next` の release store と
  acquire load で見える。
* node の番地は確保の順に 1, 2, … と振る。dummy は 0。確保は `exchange` と同じ一歩なので、
  この番号は `tail_` に入った順でもある。
* `delete head` は書かない。`pop` が進んだ先より前の node は誰も触らないこと
  （`Inv.linking`）が、書かないでよい理由である。

ghost として `log` に `tail_` に入った順の (producer, 値) を残す。
-/

namespace Gg.Internal

/-- producer の `push` の中の場所。 -/
inductive PushPc where
  | idle
  /-- `tail_.exchange(newNode)` が `prevTail` を返した後、`prevTail->next.store(newNode)` の前。 -/
  | linking (node prevTail : Nat)
  deriving DecidableEq, Repr

/-- `LockFreeQueue<T>` の heap、`head_`、`tail_` と、producer ごとの場所。 -/
structure LockFreeQueue (α : Type) where
  /-- `Node::data`。 -/
  data : Nat → α
  /-- `Node::next`。 -/
  next : Nat → Option Nat
  head : Nat
  tail : Nat
  /-- 次の `new Node` が返す番地。 -/
  fresh : Nat
  pcs : Nat → PushPc
  /-- ghost。`tail_` に入った順の (producer, 値)。 -/
  log : List (Nat × α)

namespace LockFreeQueue

variable {α : Type}

/-- `LockFreeQueue()`。`T` を既定で作った dummy node 0 が `head_` と `tail_` になる。 -/
def init [Inhabited α] : LockFreeQueue α :=
  ⟨fun _ => default, fun _ => none, 0, 0, 1, fun _ => .idle, []⟩

/-- producer `p` の `new Node(item)` と `tail_.exchange(newNode)`。`push` の途中なら動かない。 -/
def exchange (q : LockFreeQueue α) (p : Nat) (item : α) : LockFreeQueue α :=
  match q.pcs p with
  | .idle =>
    { q with data := Function.update q.data q.fresh item,
             next := Function.update q.next q.fresh none,
             tail := q.fresh, fresh := q.fresh + 1,
             pcs := Function.update q.pcs p (.linking q.fresh q.tail),
             log := q.log ++ [(p, item)] }
  | .linking _ _ => q

/-- producer `p` の `prevTail->next.store(newNode)`。 -/
def link (q : LockFreeQueue α) (p : Nat) : LockFreeQueue α :=
  match q.pcs p with
  | .linking n prev =>
    { q with next := Function.update q.next prev (some n), pcs := Function.update q.pcs p .idle }
  | .idle => q

/-- `pop()`。`head->next` が空なら `nullopt`、そうでなければ値を取り出して `head_` を進める。 -/
def pop (q : LockFreeQueue α) : Option α × LockFreeQueue α :=
  match q.next q.head with
  | none => (none, q)
  | some n => (some (q.data n), { q with head := n })

/-- 一つの thread の一歩。 -/
inductive Act (α : Type) where
  | push (p : Nat) (item : α)
  | link (p : Nat)
  | pop

/-- 一歩。`pop` だけが結果を返す。 -/
def step (q : LockFreeQueue α) : Act α → LockFreeQueue α × List (Option α)
  | .push p item => (q.exchange p item, [])
  | .link p => (q.link p, [])
  | .pop => ((q.pop).2, [(q.pop).1])

/-- 一歩ずつの実行と、`pop` の結果の列。 -/
def run (q : LockFreeQueue α) : List (Act α) → LockFreeQueue α × List (Option α)
  | [] => (q, [])
  | a :: as => ((run (q.step a).1 as).1, (q.step a).2 ++ (run (q.step a).1 as).2)

/-- `pop` を `n` 回続ける。 -/
def popN : Nat → LockFreeQueue α → List (Option α)
  | 0, _ => []
  | n + 1, q => (q.pop).1 :: popN n (q.pop).2

/-- `node` に `next` を書く producer がまだいる。 -/
def Linking (q : LockFreeQueue α) (node : Nat) : Prop := ∃ p prev, q.pcs p = .linking node prev

/-- まだ `pop` されていない値。`tail_` に入った順。 -/
def pending (q : LockFreeQueue α) : List (Nat × α) := q.log.drop q.head

/-! ## 不変条件 -/

/--
到達できる状態の不変条件。node `i + 1` は `log` の `i` 番目の値を持ち、`n < tail` の `next` は
`n + 1` の producer が `link` を済ませていれば `n + 1`、まだなら空で、`tail` から先も空である。
`link` 待ちの producer の `prevTail` は一つ前の node で、`head_` より前ではなく、自分が
`tail_` に入れた node の前の node である。
-/
structure Inv (q : LockFreeQueue α) : Prop where
  fresh : q.fresh = q.tail + 1
  tail : q.tail = q.log.length
  head : q.head ≤ q.tail
  data : ∀ i e, q.log[i]? = some e → q.data (i + 1) = e.2
  next_some : ∀ n, n < q.tail → ¬q.Linking (n + 1) → q.next n = some (n + 1)
  next_none : ∀ n, q.tail ≤ n ∨ q.Linking (n + 1) → q.next n = none
  linking : ∀ p n prev, q.pcs p = .linking n prev →
    n = prev + 1 ∧ q.head ≤ prev ∧ prev < q.tail ∧ (q.log[prev]?).map Prod.fst = some p

theorem inv_init [Inhabited α] : (init : LockFreeQueue α).Inv where
  fresh := rfl
  tail := rfl
  head := le_refl 0
  data := by simp [init]
  next_some := by simp [init]
  next_none := fun _ _ => rfl
  linking := by simp [init]

theorem linking_exchange {q : LockFreeQueue α} {p : Nat} (hp : q.pcs p = .idle) (v : α) (m : Nat) :
    (q.exchange p v).Linking m ↔ m = q.fresh ∨ q.Linking m := by
  simp only [Linking, exchange, hp, Function.update_apply]
  constructor
  · rintro ⟨p', prev, h⟩
    split at h
    · cases h; exact .inl rfl
    · exact .inr ⟨p', prev, h⟩
  · rintro (rfl | ⟨p', prev, h⟩)
    · exact ⟨p, q.tail, by simp⟩
    · refine ⟨p', prev, ?_⟩
      rw [if_neg (by rintro rfl; rw [hp] at h; cases h)]
      exact h

section Steps

variable {q : LockFreeQueue α} (hq : q.Inv)
include hq

theorem Inv.next_eq_some {n m : Nat} (h : q.next n = some m) :
    m = n + 1 ∧ n < q.tail ∧ ¬q.Linking (n + 1) := by
  by_cases hl : n < q.tail ∧ ¬q.Linking (n + 1)
  · rw [hq.next_some n hl.1 hl.2] at h
    exact ⟨(Option.some.inj h).symm, hl⟩
  · have hn : q.tail ≤ n ∨ q.Linking (n + 1) := by
      by_cases ht : n < q.tail
      · exact .inr (not_not.mp fun hn => hl ⟨ht, hn⟩)
      · exact .inl (Nat.not_lt.mp ht)
    rw [hq.next_none n hn] at h
    cases h

/-! ### `push` の `exchange` -/

theorem inv_exchange (p : Nat) (v : α) : (q.exchange p v).Inv := by
  cases hp : q.pcs p with
  | linking n prev => simpa [exchange, hp] using hq
  | idle =>
    have hl := linking_exchange hp v
    have hf := hq.fresh
    have ht := hq.tail
    have hh := hq.head
    simp only [exchange, hp] at hl ⊢
    refine ⟨rfl, by simp [hf, ht], show q.head ≤ q.fresh by omega, ?_, ?_, ?_, ?_⟩
    · intro i e he
      show Function.update q.data q.fresh v (i + 1) = e.2
      by_cases hi : i < q.log.length
      · rw [List.getElem?_append_left hi] at he
        rw [Function.update_noteq (by omega), hq.data i e he]
      · rw [List.getElem?_append_right (by omega)] at he
        obtain rfl : i = q.log.length := by
          by_contra hne
          rw [List.getElem?_eq_none (by simp; omega)] at he
          cases he
        simp only [Nat.sub_self, List.getElem?_cons_zero, Option.some.injEq] at he
        subst he
        rw [show q.log.length + 1 = q.fresh by omega, Function.update_same]
    · intro n hn hnl
      show Function.update q.next q.fresh none n = some (n + 1)
      rw [hl, not_or] at hnl
      change n < q.fresh at hn
      rw [Function.update_noteq (by omega), hq.next_some n (by omega) hnl.2]
    · intro n hn
      show Function.update q.next q.fresh none n = none
      rw [hl] at hn
      by_cases hnf : n = q.fresh
      · rw [hnf, Function.update_same]
      · rw [Function.update_noteq hnf]
        refine hq.next_none n ?_
        rcases hn with hn | hn | hn
        · exact .inl (by change q.fresh ≤ n at hn; omega)
        · exact .inl (by omega)
        · exact .inr hn
    · intro p' n prev h
      show n = prev + 1 ∧ q.head ≤ prev ∧ prev < q.fresh ∧
        ((q.log ++ [(p, v)])[prev]?).map Prod.fst = some p'
      change Function.update q.pcs p (.linking q.fresh q.tail) p' = .linking n prev at h
      by_cases hpp : p' = p
      · subst hpp
        rw [Function.update_same] at h
        cases h
        refine ⟨hf, hh, by omega, ?_⟩
        rw [List.getElem?_append_right (by omega)]
        simp [ht]
      · rw [Function.update_noteq hpp] at h
        obtain ⟨h1, h2, h3, h4⟩ := hq.linking p' n prev h
        refine ⟨h1, h2, by omega, ?_⟩
        rw [List.getElem?_append_left (by omega)]
        exact h4

/-! ### `push` の `link` -/

theorem linking_link {p n prev : Nat} (hp : q.pcs p = .linking n prev) (m : Nat) :
    (q.link p).Linking m ↔ q.Linking m ∧ m ≠ n := by
  simp only [Linking, link, hp, Function.update_apply]
  constructor
  · rintro ⟨p', prev', h⟩
    split at h
    · cases h
    · rename_i hne
      refine ⟨⟨p', prev', h⟩, ?_⟩
      rintro rfl
      obtain ⟨h1, -, -, h4⟩ := hq.linking p' m prev' h
      obtain ⟨h1', -, -, h4'⟩ := hq.linking p m prev hp
      obtain rfl : prev' = prev := by omega
      rw [h4] at h4'
      exact hne (Option.some.inj h4')
  · rintro ⟨⟨p', prev', h⟩, hne⟩
    refine ⟨p', prev', ?_⟩
    rw [if_neg (by rintro rfl; rw [hp] at h; cases h; exact hne rfl)]
    exact h

theorem inv_link (p : Nat) : (q.link p).Inv := by
  cases hp : q.pcs p with
  | idle => simpa [link, hp] using hq
  | linking n prev =>
    have hl := linking_link hq hp
    obtain ⟨hn, -, ht, -⟩ := hq.linking p n prev hp
    simp only [link, hp] at hl ⊢
    refine ⟨hq.fresh, hq.tail, hq.head, hq.data, ?_, ?_, ?_⟩
    · intro k hk hkl
      change Function.update q.next prev (some n) k = some (k + 1)
      rw [hl, not_and_or, not_not] at hkl
      by_cases hkp : k = prev
      · rw [hkp, Function.update_same, hn]
      · rw [Function.update_noteq hkp]
        exact hq.next_some k hk (hkl.resolve_right (by omega))
    · intro k hk
      change Function.update q.next prev (some n) k = none
      rw [hl] at hk
      by_cases hkp : k = prev
      · exfalso
        rcases hk with hk | hk
        · change q.tail ≤ k at hk; omega
        · exact hk.2 (by omega)
      · rw [Function.update_noteq hkp]
        exact hq.next_none k (hk.imp_right And.left)
    · intro p' m pr h
      change Function.update q.pcs p .idle p' = .linking m pr at h
      by_cases hpp : p' = p
      · rw [hpp, Function.update_same] at h; cases h
      · rw [Function.update_noteq hpp] at h; exact hq.linking p' m pr h

/-! ### `pop` -/

theorem inv_pop : (q.pop).2.Inv := by
  unfold pop
  split
  · exact hq
  · rename_i m hm
    obtain ⟨rfl, hlt, hnl⟩ := hq.next_eq_some hm
    refine ⟨hq.fresh, hq.tail, hlt, hq.data, hq.next_some, hq.next_none, ?_⟩
    intro p n prev h
    obtain ⟨h1, h2, h3, h4⟩ := hq.linking p n prev h
    refine ⟨h1, ?_, h3, h4⟩
    change q.head + 1 ≤ prev
    rcases Nat.lt_or_eq_of_le h2 with h2 | rfl
    · omega
    · exact absurd ⟨p, q.head, h1 ▸ h⟩ hnl

/-- `pop` が値を返すなら、`head_` の次の `push` の値を返して一つ進む。 -/
theorem pop_some {v : α} (h : (q.pop).1 = some v) :
    ∃ e, q.log[q.head]? = some e ∧ e.2 = v ∧ (q.pop).2 = { q with head := q.head + 1 } := by
  unfold pop at h ⊢
  split at h
  · cases h
  · rename_i m hm
    obtain ⟨rfl, hlt, -⟩ := hq.next_eq_some hm
    have hlt' : q.head < q.log.length := hq.tail ▸ hlt
    refine ⟨q.log[q.head], List.getElem?_eq_getElem hlt', ?_, by simp [hm]⟩
    rw [← Option.some.inj h, hq.data _ _ (List.getElem?_eq_getElem hlt')]

/-- `pop` が値を返すなら、それは残りの先頭の値で、残りはその分だけ短くなる。 -/
theorem pending_pop_some {v : α} (h : (q.pop).1 = some v) :
    ∃ e, q.pending = e :: (q.pop).2.pending ∧ e.2 = v := by
  obtain ⟨e, he, hev, hq'⟩ := pop_some hq h
  have hlt : q.head < q.log.length := by
    by_contra hge
    rw [List.getElem?_eq_none (by omega)] at he
    cases he
  refine ⟨e, ?_, hev⟩
  rw [hq', pending, List.drop_eq_getElem_cons hlt,
    ← Option.some.inj ((List.getElem?_eq_getElem hlt).symm.trans he)]
  rfl

/-- `pop` が `nullopt` を返すのは、残りがないか、最も早い残りの `link` がまだのときだけである。 -/
theorem pop_none (h : (q.pop).1 = none) :
    (q.pop).2 = q ∧ (q.pending = [] ∨ q.Linking (q.head + 1)) := by
  unfold pop at h ⊢
  split at h
  · rename_i hm
    refine ⟨rfl, ?_⟩
    by_cases hl : q.Linking (q.head + 1)
    · exact .inr hl
    · refine .inl (List.drop_eq_nil_of_le ?_)
      by_contra hlt
      rw [hq.next_some q.head (by have := hq.tail; omega) hl] at hm
      cases hm
  · cases h

/-! ### 一歩と実行 -/

theorem inv_step (a : Act α) : (q.step a).1.Inv := by
  cases a with
  | push p v => exact inv_exchange hq p v
  | link p => exact inv_link hq p
  | pop => exact inv_pop hq

/-- `pop` の返した値は、`log` の先頭から `head_` までの値である。一歩でこれが保たれる。 -/
theorem step_outputs (a : Act α) :
    (q.log.take q.head).map Prod.snd ++ (q.step a).2.filterMap id
      = ((q.step a).1.log.take (q.step a).1.head).map Prod.snd := by
  cases a with
  | push p v =>
    simp only [step, List.filterMap_nil, List.append_nil, exchange]
    split
    · dsimp only
      rw [List.take_append_of_le_length (by have := hq.head; have := hq.tail; omega)]
    · rfl
  | link p =>
    simp only [step, List.filterMap_nil, List.append_nil, link]
    split <;> rfl
  | pop =>
    cases hv : (q.pop).1 with
    | none => simp [step, hv, (pop_none hq hv).1]
    | some v =>
      obtain ⟨e, he, rfl, hq'⟩ := pop_some hq hv
      simp [step, hv, hq', List.take_succ, he]

end Steps

theorem run_outputs {q : LockFreeQueue α} (hq : q.Inv) (acts : List (Act α)) :
    (q.log.take q.head).map Prod.snd ++ (q.run acts).2.filterMap id
      = ((q.run acts).1.log.take (q.run acts).1.head).map Prod.snd ∧ (q.run acts).1.Inv := by
  induction acts generalizing q with
  | nil => simpa [run] using hq
  | cons a as ih =>
    obtain ⟨h1, h2⟩ := ih (inv_step hq a)
    refine ⟨?_, h2⟩
    simp only [run, List.filterMap_append, ← List.append_assoc, step_outputs hq a]
    exact h1

/-- **push が全部終わっていれば、続く `pop` は残りをすべて順に返し、それから `nullopt` を返す。** -/
theorem popN_drain : ∀ (n : Nat) (q : LockFreeQueue α), q.Inv → (∀ p, q.pcs p = .idle) →
    q.pending.length = n → popN (n + 1) q = q.pending.map (fun e => some e.2) ++ [none]
  | 0, q, hq, _, hn => by
    have hnil := List.length_eq_zero.mp hn
    have hv : (q.pop).1 = none := by
      unfold pop
      rw [hq.next_none q.head (.inl (by
        have := List.drop_eq_nil_iff.mp hnil; have := hq.tail; omega))]
    simp [popN, hv, hnil]
  | n + 1, q, hq, hidle, hn => by
    have hnl : ¬q.Linking (q.head + 1) := fun ⟨p, prev, h⟩ => by rw [hidle p] at h; cases h
    have hlt : q.head < q.tail := by
      have := hq.tail; simp only [pending, List.length_drop] at hn; omega
    have hv : (q.pop).1 = some (q.data (q.head + 1)) := by
      simp [pop, hq.next_some q.head hlt hnl]
    obtain ⟨e, hpend, hev⟩ := pending_pop_some hq hv
    obtain ⟨-, -, -, hq'⟩ := pop_some hq hv
    have hrest := popN_drain n (q.pop).2 (inv_pop hq) (fun p => by rw [hq']; exact hidle p)
      (by rw [hpend] at hn; exact Nat.succ.inj hn)
    rw [popN, hrest, hpend, hv, ← hev]
    rfl

/--
**`LockFreeQueue` は FIFO を細分する。** 新しい queue から、producer の `exchange` と `link`、
consumer の `pop` をどう並べても、

* 値を返した `pop` の結果を順に並べると、`tail_` に入った順の最初の値たちになる。
  どの値も二度は返らず、`push` されなかった値は返らない。各 producer について、返った値は
  その producer が `tail_` に入れた値の列の先頭部分で、したがってその producer の順に出る。
* 次の `pop` が値を返すなら、それはまだ返していない最も早い `push` の値で、それが残りから
  除かれる。`nullopt` を返すのは、残りがないか、その最も早い `push` がまだ `link` していない
  ときだけである。
* どの producer も `push` を終えていれば、続く `pop` は残りをすべて順に返し、それから
  `nullopt` を返す。
-/
theorem lockFreeQueue_fifo [Inhabited α] (acts : List (Act α)) :
    let q := (init.run acts).1
    (init.run acts).2.filterMap id = (q.log.take q.head).map Prod.snd ∧
      (∀ p, (q.log.take q.head).filter (·.1 == p) <+: q.log.filter (·.1 == p)) ∧
      (∀ v, (q.pop).1 = some v → ∃ e, q.pending = e :: (q.pop).2.pending ∧ e.2 = v) ∧
      ((q.pop).1 = none → q.pending = [] ∨ q.Linking (q.head + 1)) ∧
      ((∀ p, q.pcs p = .idle) →
        popN (q.pending.length + 1) q = q.pending.map (fun e => some e.2) ++ [none]) := by
  intro q
  obtain ⟨hout, hq⟩ := run_outputs inv_init acts
  exact ⟨by simpa [init] using hout, fun p => (List.take_prefix _ _).filter _,
    fun v h => pending_pop_some hq h, fun h => (pop_none hq h).2,
    fun hidle => popN_drain _ q hq hidle rfl⟩

end LockFreeQueue

end Gg.Internal
