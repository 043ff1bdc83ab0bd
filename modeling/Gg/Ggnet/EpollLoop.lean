import Mathlib.Data.List.Infix
import Mathlib.Logic.Function.Basic

/-!
# ggnet の `EpollLoop` の task queue

`ggnet::EpollLoop`（`part_008` 19–146 行）の `runInLoop`、`executePendingTasks` と、constructor が
`wakeup_fd` に付ける handler。他の thread は `runInLoop` で task を `pending_tasks` に積み、
`eventfd` に 1 を書いて loop を起こす。loop thread は `epoll_wait` から戻ると `wakeup_fd` を読んで
値を 0 にし、`pending_tasks` を空の vector と `swap` して、取り出した task を順に呼ぶ。

## 実行のとらえ方

* `runInLoop` は二つの原子的な一歩に分かれる。`tasks_mutex` を持っての `push_back`（`push`）と、
  `write(wakeup_fd, &1)`（`write`）。
* loop thread の一歩は、`epoll_wait` が `wakeup_fd` を返してからの `read`（`wake`）、`tasks_mutex` を
  持っての `swap`（`swap`）、取り出した task を一つ呼ぶこと（`next`）。`wakeup_fd` は level
  triggered なので、`epoll_wait` は `eventfd` の値が正のときにだけ `wakeup_fd` を返す。`epoll_wait`
  から `read` までに値を減らすのは loop 自身の `read` だけなので、二つをまとめて一歩にしてよい。
* task の中身は model に入れない。task の中から呼ぶ `runInLoop` も、他の thread の `push` と
  `write` として並べる。
* ghost として `pushed` に積んだ順の task、`ran` に呼んだ順の task を残す。

## 性質

* `run_inv`：どの interleaving でも、呼んだ task、取り出してまだ呼んでいない task、`pending_tasks`
  を並べると積んだ順になる。だから task は積んだ順に、高々一度呼ばれる（`ran_prefix_pushed`）。
* 起こし損ねない。loop が `epoll_wait` にいて、どの `runInLoop` も `push` と `write` の間に
  いなければ、`pending_tasks` が空でないとき `eventfd` の値は正である（`wakeup_pending`）。
  そこから loop の一歩だけで、積まれた task はすべて呼ばれる（`drain_runs_all`）。
-/

namespace Gg.Ggnet

/-- task。`std::function<void()>` の中身は見ず、番号で区別する。 -/
abbrev Task := Nat

/-- `runInLoop` を呼んだ thread の場所。 -/
inductive CallerPc where
  | idle
  /-- `push_back` を終えて `tasks_mutex` を放し、`write(wakeup_fd, …)` の前。 -/
  | pushed
  deriving DecidableEq, Repr

/-- loop thread の場所。 -/
inductive LoopPc where
  /-- `epoll_wait` の中か、`wakeup_fd` 以外の handler の中。 -/
  | waiting
  /-- `wakeup_fd` の handler が `read` を終え、`executePendingTasks` の `swap` の前。 -/
  | woken
  /-- `executePendingTasks` の `for`。`tasks` は取り出した task のうちまだ呼んでいないもの。 -/
  | running (tasks : List Task)
  deriving DecidableEq, Repr

/-- `executePendingTasks` の手元の `tasks` のうち、まだ呼んでいないもの。 -/
def LoopPc.batch : LoopPc → List Task
  | .running tasks => tasks
  | _ => []

/-- `EpollLoop` のうち task queue が読み書きするものと、各 thread の場所。 -/
structure TaskLoop where
  /-- `pending_tasks`。 -/
  pending : List Task := []
  /-- `wakeup_fd` の `eventfd` の値。 -/
  counter : Nat := 0
  loop : LoopPc := .waiting
  callers : Nat → CallerPc := fun _ => .idle
  /-- ghost。積んだ順の task。 -/
  pushed : List Task := []
  /-- ghost。呼んだ順の task。 -/
  ran : List Task := []

/-- 原子的な一歩。`push` と `write` は `runInLoop` を呼んだ thread `p` の一歩。 -/
inductive TaskAct where
  | push (p : Nat) (task : Task)
  | write (p : Nat)
  | wake
  | swap
  | next
  deriving DecidableEq, Repr

namespace TaskLoop

/-- 一歩。その thread がその場所にいなければ何も変えない。 -/
def step (s : TaskLoop) : TaskAct → TaskLoop
  | .push p task =>
    match s.callers p with
    | .idle => { s with pending := s.pending ++ [task], pushed := s.pushed ++ [task],
                        callers := Function.update s.callers p .pushed }
    | .pushed => s
  | .write p =>
    match s.callers p with
    | .pushed => { s with counter := s.counter + 1, callers := Function.update s.callers p .idle }
    | .idle => s
  | .wake =>
    match s.loop with
    | .waiting => if 0 < s.counter then { s with counter := 0, loop := .woken } else s
    | _ => s
  | .swap =>
    match s.loop with
    | .woken => { s with pending := [], loop := .running s.pending }
    | _ => s
  | .next =>
    match s.loop with
    | .running [] => { s with loop := .waiting }
    | .running (task :: rest) => { s with ran := s.ran ++ [task], loop := .running rest }
    | _ => s

/-- 一歩の列。 -/
def run (s : TaskLoop) (acts : List TaskAct) : TaskLoop := acts.foldl step s

theorem run_append (s : TaskLoop) (a b : List TaskAct) : run s (a ++ b) = run (run s a) b :=
  List.foldl_append _ _ _ _

/-! ## 不変条件 -/

/-- task queue の不変条件。 -/
structure Inv (s : TaskLoop) : Prop where
  /-- 呼んだもの、手元に残るもの、`pending_tasks` を並べると積んだ順。 -/
  order : s.ran ++ s.loop.batch ++ s.pending = s.pushed
  /-- `pending_tasks` が空でなければ、loop は `swap` の前にいるか、`eventfd` の値が正か、
  `write` を済ませていない `runInLoop` がある。 -/
  wakeup : s.pending ≠ [] → s.loop = .woken ∨ 0 < s.counter ∨ ∃ p, s.callers p = .pushed

theorem inv_init : Inv {} := ⟨rfl, fun h => absurd rfl h⟩

theorem step_inv {s : TaskLoop} (hs : Inv s) : ∀ a, Inv (step s a)
  | .push p task => by
    cases hp : s.callers p
    · simp only [step, hp]
      refine ⟨?_, fun _ => .inr (.inr ⟨p, Function.update_same _ _ _⟩)⟩
      simp only [← hs.order, List.append_assoc]
    · simpa only [step, hp] using hs
  | .write p => by
    cases hp : s.callers p
    · simpa only [step, hp] using hs
    · simp only [step, hp]
      exact ⟨hs.order, fun _ => .inr (.inl (Nat.succ_pos _))⟩
  | .wake => by
    cases hl : s.loop with
    | waiting =>
      have ho := hs.order
      rw [hl] at ho
      by_cases hc : 0 < s.counter
      · simp only [step, hl, if_pos hc]
        exact ⟨by simpa [LoopPc.batch] using ho, fun _ => .inl rfl⟩
      · simpa only [step, hl, if_neg hc] using hs
    | woken => simpa only [step, hl] using hs
    | running tasks => simpa only [step, hl] using hs
  | .swap => by
    cases hl : s.loop with
    | woken =>
      have ho := hs.order
      rw [hl] at ho
      simp only [step, hl]
      exact ⟨by simpa [LoopPc.batch] using ho, fun h => absurd rfl h⟩
    | waiting => simpa only [step, hl] using hs
    | running tasks => simpa only [step, hl] using hs
  | .next => by
    cases hl : s.loop with
    | running tasks =>
      have ho := hs.order
      rw [hl] at ho
      have hw : s.pending ≠ [] → 0 < s.counter ∨ ∃ p, s.callers p = .pushed := fun hp => by
        rcases hs.wakeup hp with h | h
        · rw [hl] at h; cases h
        · exact h
      cases tasks <;> simp only [step, hl] <;>
        exact ⟨by simpa [LoopPc.batch] using ho, fun hp => .inr (hw hp)⟩
    | waiting => simpa only [step, hl] using hs
    | woken => simpa only [step, hl] using hs

theorem run_inv {s : TaskLoop} (hs : Inv s) : ∀ acts, Inv (run s acts)
  | [] => hs
  | a :: acts => run_inv (step_inv hs a) acts

/-- **task は積んだ順に、高々一度呼ばれる。** 新しい loop から、`runInLoop` を呼ぶ thread と
loop thread の一歩をどう並べても、loop が呼んだ task の列は積んだ task の列の接頭辞である。 -/
theorem ran_prefix_pushed (acts : List TaskAct) : (run {} acts).ran <+: (run {} acts).pushed := by
  rw [← (run_inv inv_init acts).order, List.append_assoc]
  exact List.prefix_append _ _

/-! ## 起こし損ねない -/

/-- 不変条件の下で、loop が `epoll_wait` にいてどの `runInLoop` も `write` を済ませていれば、
`pending_tasks` が空でないとき `eventfd` の値は正。 -/
theorem Inv.counter_pos {s : TaskLoop} (hs : Inv s) (hl : s.loop = .waiting)
    (hc : ∀ p, s.callers p = .idle) (hp : s.pending ≠ []) : 0 < s.counter := by
  rcases hs.wakeup hp with h | h | ⟨p, h⟩
  · rw [hl] at h; cases h
  · exact h
  · rw [hc p] at h; cases h

/-- **起こし損ねない。** 新しい loop から、どの interleaving の後でも、loop が `epoll_wait` にいて
どの `runInLoop` も `push` と `write` の間にいなければ、`pending_tasks` が空でないとき
`wakeup_fd` は読める。 -/
theorem wakeup_pending (acts : List TaskAct) (hl : (run {} acts).loop = .waiting)
    (hc : ∀ p, (run {} acts).callers p = .idle) (hp : (run {} acts).pending ≠ []) :
    0 < (run {} acts).counter :=
  (run_inv inv_init acts).counter_pos hl hc hp

/-- 一つの `runInLoop` が `push` と `write` を終えた後。 -/
theorem wakeup_pending_push_write : 0 < (run {} [.push 0 7, .write 0]).counter :=
  wakeup_pending _ rfl (fun p => by by_cases h : p = 0 <;> simp [run, step, h]) (by decide)

/-- `wake`、`swap` と、取り出した task の数より一つ多い `next`。 -/
def wakeActs (n : Nat) : List TaskAct := .wake :: .swap :: List.replicate (n + 1) .next

/-- 今いる場所から、loop の一歩だけで `pending_tasks` を空にする列。 -/
def drainActs (s : TaskLoop) : List TaskAct :=
  match s.loop with
  | .waiting => wakeActs s.pending.length
  | .woken => .swap :: List.replicate (s.pending.length + 1) .next
  | .running tasks => List.replicate (tasks.length + 1) .next ++ wakeActs s.pending.length

theorem drainActs_loop (s : TaskLoop) : ∀ a ∈ drainActs s, a = .wake ∨ a = .swap ∨ a = .next := by
  intro a ha
  unfold drainActs wakeActs at ha
  split at ha <;> simp only [List.mem_cons, List.mem_append, List.mem_replicate] at ha <;> tauto

/-- 取り出した task を呼び終えるまでの `next`。 -/
theorem run_next_replicate : ∀ (tasks : List Task) (s : TaskLoop), s.loop = .running tasks →
    run s (List.replicate (tasks.length + 1) .next) = { s with ran := s.ran ++ tasks, loop := .waiting }
  | [], s, h => by simp [run, step, h]
  | task :: rest, s, h => by
    rw [List.length_cons, List.replicate_succ, run, List.foldl_cons, step, h]
    exact (run_next_replicate rest _ rfl).trans (by simp)

theorem run_swap_next (s : TaskLoop) (h : s.loop = .woken) :
    run s (.swap :: List.replicate (s.pending.length + 1) .next) =
      { s with ran := s.ran ++ s.pending, pending := [], loop := .waiting } := by
  rw [run, List.foldl_cons, step, h]
  exact (run_next_replicate s.pending _ rfl).trans (by simp)

/-- `epoll_wait` にいる loop は、`pending_tasks` が空でなく `eventfd` の値が正なら、それを全部呼ぶ。
空なら何も呼ばない。 -/
theorem run_wakeActs (s : TaskLoop) (hl : s.loop = .waiting) (hp : s.pending ≠ [] → 0 < s.counter) :
    (run s (wakeActs s.pending.length)).ran = s.ran ++ s.pending ∧
      (run s (wakeActs s.pending.length)).pending = [] ∧
      (run s (wakeActs s.pending.length)).loop = .waiting := by
  unfold wakeActs
  by_cases hc : 0 < s.counter
  · rw [run, List.foldl_cons, step, hl, if_pos hc, ← run]
    rw [run_swap_next _ rfl]
    exact ⟨rfl, rfl, rfl⟩
  · have he : s.pending = [] := by by_contra h; exact hc (hp h)
    have hstay : ∀ n, run s (List.replicate n .next) = s := by
      intro n
      induction n with
      | zero => rfl
      | succ n ih => rw [List.replicate_succ, run, List.foldl_cons, step, hl, ← run, ih]
    rw [run, List.foldl_cons, step, hl, if_neg hc, List.foldl_cons, step, hl, ← run, hstay, he]
    exact ⟨(List.append_nil _).symm, rfl, hl⟩

/-- 不変条件の下で、どの `runInLoop` も `write` を済ませていれば、`drainActs` は積まれた task を
すべて呼ぶ。 -/
theorem run_drainActs {s : TaskLoop} (hi : Inv s) (hc : ∀ p, s.callers p = .idle) :
    (run s (drainActs s)).ran = s.pushed ∧ (run s (drainActs s)).pending = [] ∧
      (run s (drainActs s)).loop = .waiting := by
  have horder := hi.order
  unfold drainActs
  split
  · rename_i hl
    simp only [hl, LoopPc.batch, List.append_nil] at horder
    rw [← horder]
    exact run_wakeActs s hl (hi.counter_pos hl hc)
  · rename_i hl
    simp only [hl, LoopPc.batch, List.append_nil] at horder
    rw [run_swap_next s hl, ← horder]
    exact ⟨rfl, rfl, rfl⟩
  · rename_i tasks hl
    simp only [hl, LoopPc.batch] at horder
    have ht := run_inv hi (List.replicate (tasks.length + 1) .next)
    rw [run_next_replicate tasks s hl] at ht
    rw [run_append, run_next_replicate tasks s hl]
    have := run_wakeActs _ rfl (ht.counter_pos rfl hc)
    exact ⟨this.1.trans horder, this.2⟩

/-- **積まれた task はすべて呼ばれる。** 新しい loop から、どの interleaving の後でも、どの
`runInLoop` も `push` と `write` の間にいなければ、loop thread の一歩（`wake`、`swap`、`next`）
だけからなる列があって、それを走らせると積まれた task はすべて積んだ順に呼ばれ、`pending_tasks` は
空になり、loop は `epoll_wait` に戻る。 -/
theorem drain_runs_all (acts : List TaskAct) (hc : ∀ p, (run {} acts).callers p = .idle) :
    ∃ loopActs : List TaskAct, (∀ a ∈ loopActs, a = .wake ∨ a = .swap ∨ a = .next) ∧
      (run (run {} acts) loopActs).ran = (run {} acts).pushed ∧
      (run (run {} acts) loopActs).pending = [] ∧ (run (run {} acts) loopActs).loop = .waiting :=
  ⟨drainActs _, drainActs_loop _, run_drainActs (run_inv inv_init acts) hc⟩

/-- 二つの `runInLoop` が `write` を逆の順に済ませた後。 -/
theorem drain_runs_all_two_callers :
    ∃ loopActs : List TaskAct, (∀ a ∈ loopActs, a = .wake ∨ a = .swap ∨ a = .next) ∧
      (run (run {} [.push 0 7, .push 1 8, .write 1, .write 0]) loopActs).ran = [7, 8] ∧
      (run (run {} [.push 0 7, .push 1 8, .write 1, .write 0]) loopActs).pending = [] ∧
      (run (run {} [.push 0 7, .push 1 8, .write 1, .write 0]) loopActs).loop = .waiting :=
  drain_runs_all _ fun p => by
    by_cases h0 : p = 0
    · simp [run, step, h0]
    · by_cases h1 : p = 1 <;> simp [run, step, h0, h1]

end TaskLoop

end Gg.Ggnet
