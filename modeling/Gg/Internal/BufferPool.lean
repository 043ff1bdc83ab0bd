import Mathlib.Data.List.Basic
import Mathlib.Data.List.Nodup
import Mathlib.Algebra.Group.Nat.Basic

/-!
# `BufferPool` の表現不変条件

`gg::internal::BufferPool` と、その RAII handle である `BufferPool::Buffer`
（`memory_pool.hpp`）。

## 状態

* `buffers_` は確保した領域を持ち主として持ち、減ることはない。`i` 番目の `unique_ptr` が
  持つ領域の pointer を `i` と書く。生きている確保はどれも違う番地にあるので、これで区別が
  保たれる。
* `available_` は `std::vector<char*>` で、`push_back` / `back` / `pop_back` だけを使う。
  ここでは back から front へ並べたリストとして持つので、末尾の操作は先頭の操作になる。
* 生きている `Buffer` の object を添字付きの列として持つ。`pool_` は一つの pool を指すか
  どうかだけを持つ。

## 操作と thread

pool の状態を触るのは `acquire` と `release` で、どちらも `mutex_` の下で動く。handle の
move と破棄はその handle の object だけを触る。だからどの thread から呼んでも、一つの実行は
操作を一つずつ並べた列 `List Op` として書ける。

## 結果

生きている handle が持つ pointer と `available_` の pointer を合わせると、`buffers_` の
pointer のちょうど並べ替えになる（`Rep`）。重複しないこと、持ち主が `buffers_` であること、
数が合うことはここから出る。
-/

namespace Gg.Internal

/-- `BufferPool::Buffer` の `pool_` と `data_`。`size_` は `size()` が返すだけなので持たない。 -/
structure Buffer where
  pool : Bool
  data : Option Nat
  deriving DecidableEq, Repr

/-- `Buffer()`、および move された後と `release()` の後の handle。 -/
def Buffer.empty : Buffer := ⟨false, none⟩

/-- `BufferPool` の `buffers_` と `available_`。 -/
structure Pool where
  /-- `buffers_.size()`。 -/
  buffers : Nat
  /-- `available_` を back から front へ。 -/
  available : List Nat
  deriving DecidableEq, Repr

namespace Pool

/-- `BufferPool(bufferSize, poolSize)`。`poolSize` 個を確保して順に `available_` に積む。 -/
def create (poolSize : Nat) : Pool := ⟨poolSize, (List.range poolSize).reverse⟩

/-- `acquire()`。空なら新しく確保して `buffers_` に足し、そうでなければ back を取る。 -/
def acquire (p : Pool) : Pool × Buffer :=
  match p.available with
  | [] => (⟨p.buffers + 1, []⟩, ⟨true, some p.buffers⟩)
  | ptr :: rest => (⟨p.buffers, rest⟩, ⟨true, some ptr⟩)

/-- `release(ptr)`。`available_.push_back(ptr)`。 -/
def release (p : Pool) (ptr : Nat) : Pool := { p with available := ptr :: p.available }

/-- `available()`。 -/
def availableCount (p : Pool) : Nat := p.available.length

end Pool

/-- `Buffer::release()`。`pool_` と `data_` がどちらも立っているときだけ返し、両方を落とす。 -/
def Buffer.release (p : Pool) (b : Buffer) : Pool × Buffer :=
  match b.pool, b.data with
  | true, some ptr => (p.release ptr, .empty)
  | _, _ => (p, b)

/-- `pool_` と `data_` を一緒に立てるか、一緒に落としている。 -/
def Buffer.Paired (b : Buffer) : Prop := b.pool = b.data.isSome

/-- pool と、生きている handle の object。 -/
structure World where
  pool : Pool
  handles : List Buffer
  deriving DecidableEq, Repr

/-- handle の object に対する操作。添字は `World.handles` の位置である。 -/
inductive Op where
  /-- `Buffer b = pool.acquire();` -/
  | acquire
  /-- `Buffer b;` -/
  | make
  /-- `Buffer b(std::move(h[src]));` -/
  | moveConstruct (src : Nat)
  /-- `h[dst] = std::move(h[src]);`。`dst = src` なら自己代入。 -/
  | moveAssign (dst src : Nat)
  /-- `h[i]` の寿命が終わり、`~Buffer()` が走る。 -/
  | destroy (i : Nat)
  deriving DecidableEq, Repr

namespace World

/-- 新しく作った pool。handle はまだない。 -/
def init (poolSize : Nat) : World := ⟨Pool.create poolSize, []⟩

/-- 一つの操作。ない object を指す添字は何もしない。 -/
def step (w : World) : Op → World
  | .acquire => ⟨w.pool.acquire.1, w.handles ++ [w.pool.acquire.2]⟩
  | .make => ⟨w.pool, w.handles ++ [.empty]⟩
  | .moveConstruct src =>
    match w.handles[src]? with
    | some b => ⟨w.pool, w.handles.set src .empty ++ [b]⟩
    | none => w
  | .moveAssign dst src =>
    if dst = src then w else
    match w.handles[dst]?, w.handles[src]? with
    | some d, some b => ⟨(Buffer.release w.pool d).1, (w.handles.set dst b).set src .empty⟩
    | _, _ => w
  | .destroy i =>
    match w.handles[i]? with
    | some b => ⟨(Buffer.release w.pool b).1, w.handles.eraseIdx i⟩
    | none => w

def run (w : World) (ops : List Op) : World := ops.foldl step w

/-- 生きている handle が持つ pointer。 -/
def held (w : World) : List Nat := w.handles.flatMap fun b => b.data.toList

/--
表現不変条件。`available_` と生きている handle の pointer を合わせると `buffers_` の並べ替えで、
どの handle も `pool_` と `data_` を一緒に立てるか一緒に落とす。
-/
structure Rep (w : World) : Prop where
  perm : (w.pool.available ++ w.held).Perm (List.range w.pool.buffers)
  paired : ∀ b ∈ w.handles, b.Paired

/-! ## 並べ替えを数で見る -/

section Lists

variable {α β : Type} [DecidableEq β] (f : α → List β)

/-- 一つの要素を置き換えたとき、`flatMap` の中の数は置き換えた分だけ変わる。 -/
theorem count_flatMap_set {l : List α} {i : Nat} {x : α} (h : l[i]? = some x) (y : α) (a : β) :
    ((l.set i y).flatMap f).count a + (f x).count a = (l.flatMap f).count a + (f y).count a := by
  induction l generalizing i with
  | nil => simp at h
  | cons c l ih =>
    cases i with
    | zero =>
      obtain rfl : c = x := by simpa using h
      simp only [List.set_cons_zero, List.flatMap_cons, List.count_append]
      omega
    | succ i =>
      have := ih (by simpa using h)
      simp only [List.set_cons_succ, List.flatMap_cons, List.count_append]
      omega

/-- 一つの要素を取り除いたとき、`flatMap` の中の数はその要素の分だけ減る。 -/
theorem count_flatMap_eraseIdx {l : List α} {i : Nat} {x : α} (h : l[i]? = some x) (a : β) :
    ((l.eraseIdx i).flatMap f).count a + (f x).count a = (l.flatMap f).count a := by
  induction l generalizing i with
  | nil => simp at h
  | cons c l ih =>
    cases i with
    | zero =>
      obtain rfl : c = x := by simpa using h
      simp only [List.eraseIdx_cons_zero, List.flatMap_cons, List.count_append]
      omega
    | succ i =>
      have := ih (by simpa using h)
      simp only [List.eraseIdx_cons_succ, List.flatMap_cons, List.count_append]
      omega

end Lists

/-! ## 一つの操作 -/

/-- `pool_` と `data_` が揃った handle を返すと、持っていた pointer が `available_` に積まれる。 -/
theorem release_paired (p : Pool) {b : Buffer} (hb : b.Paired) :
    (Buffer.release p b).1 = ⟨p.buffers, b.data.toList ++ p.available⟩ := by
  rcases b with ⟨_ | _, _ | ptr⟩ <;> simp_all [Buffer.Paired, Buffer.release, Pool.release]

@[simp] theorem release_buffers (p : Pool) (b : Buffer) : (Buffer.release p b).1.buffers = p.buffers := by
  unfold Buffer.release
  split <;> rfl

@[simp] theorem toList_empty_data : (Buffer.empty.data.toList : List Nat) = [] := rfl

/-- `buffers_` は減らず、`acquire` が `available_` を空と見たときだけ一つ増える。 -/
theorem step_buffers (w : World) (op : Op) :
    (w.step op).pool.buffers
      = w.pool.buffers + if op = .acquire ∧ w.pool.available = [] then 1 else 0 := by
  cases op with
  | acquire => cases h : w.pool.available <;> simp [step, Pool.acquire, h]
  | make => simp [step]
  | moveConstruct src => simp only [step]; split <;> simp
  | moveAssign dst src => simp only [step]; split <;> [simp; split <;> simp]
  | destroy i => simp only [step]; split <;> simp

theorem paired_empty : Buffer.empty.Paired := rfl

theorem paired_append {hs : List Buffer} (hp : ∀ b ∈ hs, b.Paired) {b' : Buffer}
    (hb : b'.Paired) : ∀ b ∈ hs ++ [b'], b.Paired := by
  intro b h
  rcases List.mem_append.mp h with h | h
  · exact hp b h
  · exact List.mem_singleton.mp h ▸ hb

theorem paired_set {hs : List Buffer} (hp : ∀ b ∈ hs, b.Paired) (i : Nat) {b' : Buffer}
    (hb : b'.Paired) : ∀ b ∈ hs.set i b', b.Paired :=
  fun b h => (List.mem_or_eq_of_mem_set h).elim (hp b) fun e => e ▸ hb

/-- `buffers_` が変わらず、どの pointer の数も保たれ、どの handle も揃っていれば、不変条件は移る。 -/
theorem Rep.of_count {w w' : World} (hw : w.Rep) (hb : w'.pool.buffers = w.pool.buffers)
    (hcount : ∀ a, (w'.pool.available ++ w'.held).count a = (w.pool.available ++ w.held).count a)
    (hp : ∀ b ∈ w'.handles, b.Paired) : w'.Rep :=
  ⟨hb ▸ List.perm_iff_count.mpr fun a => (hcount a).trans (List.perm_iff_count.mp hw.perm a), hp⟩

/-- **各操作は表現不変条件を保つ。** -/
theorem rep_step {w : World} (hw : w.Rep) (op : Op) : (w.step op).Rep := by
  have hc a := List.perm_iff_count.mp hw.perm a
  simp only [held, List.count_append] at hc
  cases op with
  | acquire =>
    have hnew : w.pool.acquire.2.Paired := by
      unfold Pool.acquire; split <;> rfl
    cases hav : w.pool.available with
    | nil =>
      refine ⟨List.perm_iff_count.mpr fun a => ?_, paired_append hw.paired hnew⟩
      have := hc a
      simp only [hav, List.count_nil, Nat.zero_add] at this
      simp [step, Pool.acquire, hav, held, List.range_succ, List.count_append, this]
    | cons ptr rest =>
      refine hw.of_count (by simp [step, Pool.acquire, hav]) (fun a => ?_)
        (paired_append hw.paired hnew)
      simp [step, Pool.acquire, hav, held, List.count_append, List.count_cons]
      omega
  | make =>
    exact hw.of_count rfl (fun a => by simp [step, held, Buffer.empty])
      (paired_append hw.paired paired_empty)
  | moveConstruct src =>
    simp only [step]
    split
    · rename_i b hb
      refine hw.of_count rfl (fun a => ?_)
        (paired_append (paired_set hw.paired src paired_empty) (hw.paired b (List.getElem?_mem hb)))
      have := count_flatMap_set (fun b : Buffer => b.data.toList) hb Buffer.empty a
      simp only [held, List.flatMap_append, List.count_append, List.flatMap_cons,
        List.flatMap_nil, List.append_nil, toList_empty_data, List.count_nil] at this ⊢
      omega
    · exact hw
  | moveAssign dst src =>
    simp only [step]
    split
    · exact hw
    · rename_i hne
      split
      · rename_i d b hd hb
        have hpd := hw.paired d (List.getElem?_mem hd)
        have hb' : (w.handles.set dst b)[src]? = some b := by
          rw [List.getElem?_set_ne hne]; exact hb
        refine hw.of_count (by simp) (fun a => ?_)
          (paired_set (paired_set hw.paired dst (hw.paired b (List.getElem?_mem hb))) src rfl)
        have h1 := count_flatMap_set (fun b : Buffer => b.data.toList) hd b a
        have h2 := count_flatMap_set (fun b : Buffer => b.data.toList) hb' Buffer.empty a
        simp only [release_paired w.pool hpd, held, List.count_append, toList_empty_data,
          List.count_nil] at h1 h2 ⊢
        omega
      · exact hw
  | destroy i =>
    simp only [step]
    split
    · rename_i b hb
      refine hw.of_count (by simp) (fun a => ?_)
        (fun b' h => hw.paired b' (List.mem_of_mem_eraseIdx h))
      have := count_flatMap_eraseIdx (fun b : Buffer => b.data.toList) hb a
      simp only [release_paired w.pool (hw.paired b (List.getElem?_mem hb)), held,
        List.count_append] at this ⊢
      omega
    · exact hw

/-! ## 操作の列 -/

theorem rep_init (poolSize : Nat) : (init poolSize).Rep :=
  ⟨by simp [init, Pool.create, held], by simp [init]⟩

theorem rep_run {w : World} (hw : w.Rep) (ops : List Op) : (w.run ops).Rep := by
  induction ops generalizing w with
  | nil => exact hw
  | cons op ops ih => exact ih (rep_step hw op)

/-! ## 不変条件から出ること -/

theorem length_held (w : World) : w.held.length = w.handles.countP fun b => b.data.isSome := by
  rcases w with ⟨p, hs⟩
  induction hs with
  | nil => rfl
  | cons b hs ih =>
    simp only [held, List.flatMap_cons, List.length_append, List.countP_cons] at ih ⊢
    rcases b with ⟨_, _ | _⟩ <;> simp [ih, Nat.add_comm]

section Consequences

variable {w : World} (hw : w.Rep)
include hw

theorem Rep.nodup : (w.pool.available ++ w.held).Nodup :=
  hw.perm.nodup_iff.mpr (List.nodup_range _)

theorem Rep.available_owned {p : Nat} (hp : p ∈ w.pool.available) : p < w.pool.buffers :=
  List.mem_range.mp (hw.perm.subset (List.mem_append_left _ hp))

theorem Rep.count :
    w.pool.availableCount + w.handles.countP (fun b => b.data.isSome) = w.pool.buffers := by
  rw [Pool.availableCount, ← length_held, ← List.length_append, hw.perm.length_eq,
    List.length_range]

end Consequences

end World

/--
**`BufferPool` の表現不変条件。** 新しく作った pool から、どの操作の列の後でも、生きている
handle の pointer は重複しない。`available_` の pointer は重複せず、どれも `buffers_` に属し、
どの handle も持っていない。`available()` と中身のある handle の数の和は `buffers_.size()` で、
次のどの操作でも `buffers_.size()` は、`acquire` が `available_` を空と見たときだけ一つ増え、
それ以外は変わらない。handle がどれも空なら `available()` は `buffers_.size()` に等しい。
-/
theorem buffer_pool_rep (poolSize : Nat) (ops : List Op) :
    let w := (World.init poolSize).run ops
    w.held.Nodup ∧ w.pool.available.Nodup ∧
      (∀ p ∈ w.pool.available, p < w.pool.buffers ∧ p ∉ w.held) ∧
      w.pool.availableCount + w.handles.countP (fun b => b.data.isSome) = w.pool.buffers ∧
      (∀ op, (w.step op).pool.buffers
        = w.pool.buffers + if op = .acquire ∧ w.pool.available = [] then 1 else 0) ∧
      ((∀ b ∈ w.handles, b.data = none) → w.pool.availableCount = w.pool.buffers) := by
  intro w
  have hw : w.Rep := World.rep_run (World.rep_init poolSize) ops
  obtain ⟨hav, hheld, hdisj⟩ := List.nodup_append.mp hw.nodup
  refine ⟨hheld, hav, fun p hp => ⟨hw.available_owned hp, fun hh => hdisj hp hh⟩, hw.count,
    World.step_buffers w, fun hnone => ?_⟩
  have h0 : w.handles.countP (fun b => b.data.isSome) = 0 :=
    List.countP_eq_zero.mpr fun b hb => by simp [hnone b hb]
  simpa [h0] using hw.count

end Gg.Internal
