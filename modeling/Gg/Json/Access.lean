import Gg.Json.Value
import Mathlib.Data.List.Nodup

/-!
# 添字アクセスと `Json::nullJson()`

`Json::operator[]`（`part_005` 459–507 行）と、値を変える member 関数 `push`、`pop`、`erase`、
`clear`（540–569 行）。

## 仕組み

* 添字アクセスが失敗すると `Json::nullJson()`、つまり関数の中の `static Json null` への参照が
  返る。この値は process 全体で一つしかない。しかも非 const の `operator[]` は `Json&` を返すので、
  返った先に書き込める。そこで記憶 `Mem` を、変数の値と、この静的な値 `Mem.null` の組で表す。
* `Json&` は、根（変数か静的な値）と、そこからたどる添字の列の組 `Ref` で表す。
* 左辺値の式 `Place` は、変数に `[i]` や `[key]` を重ねたもの。非 const の `operator[]` は、参照を
  返す前に値を書き換える（`Null` を `Object` にし、無い鍵には `Null` を入れる）。そのため式の評価
  `Mem.locate` は、書き換えた後の記憶と参照の組を返す。
* const な `operator[]`（と `get`）は値を変えない。失敗すると、その時の `Mem.null` を返す（`Mem.read`）。
* 代入の右辺や `Json::parse` の結果は、評価した後の値として与える。

失敗した参照に代入すると、以後失敗したアクセスはどれも
代入した値を返す（`nullJson_assign_leaks`）。どの操作の後でも、変数の値と静的な値は鍵の重ならない
値のままである（`Mem.run_wellFormed`）。
-/

namespace Gg

open Gg.Ws

namespace Json

/-- 添字一つ。`operator[](size_t)` か `operator[](std::string_view)`。 -/
inductive Access where
  | index (i : Nat)
  | key (k : Bytes)
  deriving DecidableEq, Repr

/-- const な `operator[]` が要素を見つけるか。`none` なら `nullJson()` を返す。 -/
def find? : Json → Access → Option Json
  | .array items, .index i => items[i]?
  | .object fields, .key k => fields.lookup k
  | _, _ => none

/-- 添字の列をたどった先。 -/
def getAt (j : Json) : List Access → Json
  | [] => j
  | a :: path => getAt ((j.find? a).getD .null) path

/-- 添字一つの先を `f` で書き換える。 -/
def modifyChild (f : Json → Json) : Json → Access → Json
  | .array items, .index i => .array (items.modify f i)
  | .object fields, .key k => .object (fields.map fun kv => if kv.1 = k then (kv.1, f kv.2) else kv)
  | j, _ => j

/-- 添字の列をたどった先を `f` で書き換える。 -/
def modifyAt (f : Json → Json) : List Access → Json → Json
  | [], j => f j
  | a :: path, j => modifyChild (modifyAt f path) j a

/-- `push(value)`。`Null` は空の `Array` にしてから足す。 -/
def push (value : Json) : Json → Json
  | .null => .array [value]
  | .array items => .array (items ++ [value])
  | j => j

/-- `pop()`。 -/
def pop : Json → Json
  | .array items => .array items.dropLast
  | j => j

/-- `erase(key)`。 -/
def erase (k : Bytes) : Json → Json
  | .object fields => .object (fields.filter (·.1 != k))
  | j => j

/-- `clear()`。 -/
def clear : Json → Json
  | .array _ => .array []
  | .object _ => .object []
  | j => j

/-! ## 記憶と参照 -/

/-- `Json&` の根。 -/
inductive Root where
  | var (x : Nat)
  /-- `Json::nullJson()` の `static Json null`。 -/
  | null
  deriving DecidableEq, Repr

/-- `Json&`。根から添字の列をたどった先。 -/
structure Ref where
  root : Root
  path : List Access
  deriving DecidableEq, Repr

/-- `Json::nullJson()` が返す参照。 -/
def nullJson : Ref := ⟨.null, []⟩

/-- 記憶。変数の値と、`nullJson()` の静的な値。 -/
structure Mem where
  vars : Nat → Json
  null : Json

/-- 左辺値の式。 -/
inductive Place where
  | var (x : Nat)
  | subscript (p : Place) (a : Access)

/-- `Json&` に対して呼ぶもの。 -/
inductive Method where
  /-- `operator=`（既定のもの）。 -/
  | assign (v : Json)
  | push (v : Json)
  | pop
  | erase (k : Bytes)
  | clear

/-- `Method` が値をどう変えるか。 -/
def Method.apply : Method → Json → Json
  | .assign v, _ => v
  | .push v, j => Json.push v j
  | .pop, j => j.pop
  | .erase k, j => j.erase k
  | .clear, j => j.clear

/-- 値に対する操作。 -/
inductive Op where
  /-- `Json x = v;`。`Json::parse` の結果もこれで置く。 -/
  | decl (x : Nat) (v : Json)
  /-- 非 const の `p` を、値として使うだけの式。 -/
  | access (p : Place)
  /-- `p = v;`、`p.push(v);` など。 -/
  | call (p : Place) (f : Method)

namespace Mem

/-- 変数はみな `Null`、静的な値も `Null`。 -/
def init : Mem := ⟨fun _ => .null, .null⟩

/-- 根の値。 -/
def rootValue (m : Mem) : Root → Json
  | .var x => m.vars x
  | .null => m.null

/-- 参照の指す値。 -/
def deref (m : Mem) (r : Ref) : Json := getAt (m.rootValue r.root) r.path

/-- 参照の指す値を `f` で書き換える。 -/
def modify (m : Mem) (r : Ref) (f : Json → Json) : Mem :=
  match r.root with
  | .var x => { m with vars := Function.update m.vars x (modifyAt f r.path (m.vars x)) }
  | .null => { m with null := modifyAt f r.path m.null }

/-- 非 const の `operator[]`。鍵の方は `Null` を `Object` にし、`obj[key]` で鍵が無ければ
`Null` を入れる。 -/
def subscript (m : Mem) (r : Ref) : Access → Mem × Ref
  | .index i =>
    match m.deref r with
    | .array items => if i < items.length then (m, ⟨r.root, r.path ++ [.index i]⟩) else (m, nullJson)
    | _ => (m, nullJson)
  | .key k =>
    let m := if (m.deref r).isNull then m.modify r fun _ => .object [] else m
    match m.deref r with
    | .object fields =>
      (if (fields.lookup k).isSome then m else m.modify r fun _ => .object (fields ++ [(k, .null)]),
        ⟨r.root, r.path ++ [.key k]⟩)
    | _ => (m, nullJson)

/-- 非 const な左辺値の評価。途中の `operator[]` が書き換えた記憶と、得た参照。 -/
def locate (m : Mem) : Place → Mem × Ref
  | .var x => (m, ⟨.var x, []⟩)
  | .subscript p a => (m.locate p).1.subscript (m.locate p).2 a

/-- const な左辺値の値。失敗した `operator[]` は、その時の静的な値を返す。 -/
def read (m : Mem) : Place → Json
  | .var x => m.vars x
  | .subscript p a => ((m.read p).find? a).getD m.null

/-- 操作一つ。 -/
def step (m : Mem) : Op → Mem
  | .decl x v => { m with vars := Function.update m.vars x v }
  | .access p => (m.locate p).1
  | .call p f => (m.locate p).1.modify (m.locate p).2 f.apply

/-- 操作の列。 -/
def run (m : Mem) (ops : List Op) : Mem := ops.foldl step m

/-! ## 静的な値が動くところ -/

@[simp] theorem modify_nullJson (m : Mem) (f : Json → Json) :
    m.modify nullJson f = { m with null := f m.null } := rfl

/-- const な `operator[]` が失敗すると、その時の静的な値が返る。 -/
theorem read_subscript_of_find? {m : Mem} {q : Place} {a : Access} (h : (m.read q).find? a = none) :
    m.read (.subscript q a) = m.null := by
  simp only [read, h, Option.getD_none]

/-! ## 失敗した参照への書き込み -/

/-- `Null` でも `Object` でもない変数に鍵で添字を付けると、`nullJson()` が返る。 -/
theorem locate_key_nullJson {m : Mem} {x : Nat} (hn : (m.vars x).isNull = false)
    (ho : (m.vars x).isObject = false) (k : Bytes) :
    (m.locate (.subscript (.var x) (.key k))).2 = nullJson := by
  simp only [locate, subscript, deref, rootValue, getAt, hn, Bool.false_eq_true, if_false]
  split
  · rename_i h
    simp only [isObject, type, h] at ho
    contradiction
  · rfl

/-- **失敗した非 const の `operator[]` を通して代入すると、静的な値は代入した値になり、
以後失敗した const なアクセスはどれもその値を返す。** -/
theorem nullJson_assign_leaks {m : Mem} {p : Place} (hp : (m.locate p).2 = nullJson) (v : Json) :
    (m.step (.call p (.assign v))).null = v ∧
    ∀ q a, ((m.step (.call p (.assign v))).read q).find? a = none →
      (m.step (.call p (.assign v))).read (.subscript q a) = v := by
  have hnull : (m.step (.call p (.assign v))).null = v := by
    simp only [step, hp, modify_nullJson, Method.apply]
  exact ⟨hnull, fun q a hq => (read_subscript_of_find? hq).trans hnull⟩

/-- `Json j = 5; j["k"] = 1;` の後、別の変数の無い鍵を読むと `1` が返る。 -/
theorem nullJson_assign_leaks_five :
    ((Mem.init.step (.decl 0 (.number 5))).locate
        (.subscript (.var 0) (.key (ascii "k")))).2 = nullJson ∧
      (((Mem.init.step (.decl 0 (.number 5))).step
          (.call (.subscript (.var 0) (.key (ascii "k"))) (.assign (.number 1)))).null =
          .number 1 ∧
        ∀ q a, (((Mem.init.step (.decl 0 (.number 5))).step
            (.call (.subscript (.var 0) (.key (ascii "k"))) (.assign (.number 1)))).read q).find? a =
              none →
          ((Mem.init.step (.decl 0 (.number 5))).step
            (.call (.subscript (.var 0) (.key (ascii "k"))) (.assign (.number 1)))).read
              (.subscript q a) = .number 1) ∧
      ((Mem.init.run [.decl 0 (.number 5),
          .call (.subscript (.var 0) (.key (ascii "k"))) (.assign (.number 1))]).read
          (.subscript (.var 1) (.key (ascii "x")))).isNull = false :=
  ⟨@locate_key_nullJson (Mem.init.step (.decl 0 (.number 5))) 0 rfl rfl _,
    nullJson_assign_leaks (@locate_key_nullJson (Mem.init.step (.decl 0 (.number 5))) 0 rfl rfl _)
      (.number 1),
    rfl⟩

end Mem

/-! ## 鍵の重ならなさ

`Object` を列で持つので、鍵が重ならないこと（`std::unordered_map` の性質）が、どの操作の後にも
成り立つことを示しておく。 -/

theorem forall_mem_modify {P : Json → Prop} {f : Json → Json} (hf : ∀ y, P y → P (f y)) :
    ∀ (n : Nat) (l : List Json), (∀ x ∈ l, P x) → ∀ x ∈ l.modify f n, P x
  | _, [], _ => by simp
  | 0, a :: l, h => by
    rw [List.modify_zero_cons, List.forall_mem_cons]
    rw [List.forall_mem_cons] at h
    exact ⟨hf a h.1, h.2⟩
  | n + 1, a :: l, h => by
    rw [List.modify_succ_cons, List.forall_mem_cons]
    rw [List.forall_mem_cons] at h
    exact ⟨h.1, forall_mem_modify hf n l h.2⟩

theorem find?_wellFormed {j c : Json} {a : Access} (hj : WellFormed j) (h : j.find? a = some c) :
    WellFormed c := by
  unfold find? at h
  split at h
  · exact wellFormed_array.1 hj c (List.getElem?_mem h)
  · obtain ⟨l₁, l₂, rfl, -⟩ := List.lookup_eq_some_iff.1 h
    exact (wellFormed_object.1 hj).2 _ (List.mem_append_right _ (List.mem_cons_self _ _))
  · cases h

theorem getAt_wellFormed : ∀ {j : Json} (path : List Access), WellFormed j →
    WellFormed (getAt j path)
  | _, [], h => h
  | j, a :: path, h => getAt_wellFormed path (by
      cases hf : j.find? a with
      | none => trivial
      | some c => exact find?_wellFormed h hf)

theorem modifyChild_wellFormed {f : Json → Json} (hf : ∀ c, WellFormed c → WellFormed (f c))
    (j : Json) (a : Access) (h : WellFormed j) : WellFormed (modifyChild f j a) := by
  unfold modifyChild
  split
  · exact wellFormed_array.2 (forall_mem_modify hf _ _ (wellFormed_array.1 h))
  · rename_i fields k
    obtain ⟨hnd, hv⟩ := wellFormed_object.1 h
    have hkeys : (fields.map fun kv => if kv.1 = k then (kv.1, f kv.2) else kv).map Prod.fst =
        fields.map Prod.fst := by
      rw [List.map_map]
      congr 1
      funext kv
      by_cases hk : kv.1 = k <;> simp [hk]
    refine wellFormed_object.2 ⟨hkeys ▸ hnd, ?_⟩
    simp only [List.mem_map]
    rintro _ ⟨kv, hkv, rfl⟩
    split
    · exact hf _ (hv kv hkv)
    · exact hv kv hkv
  · exact h

theorem modifyAt_wellFormed {f : Json → Json} (hf : ∀ c, WellFormed c → WellFormed (f c)) :
    ∀ (path : List Access) {j : Json}, WellFormed j → WellFormed (modifyAt f path j)
  | [], _, h => hf _ h
  | a :: path, j, h =>
    modifyChild_wellFormed (fun _ hc => modifyAt_wellFormed hf path hc) j a h

/-- 代入する値や足す値が、鍵の重ならない値であること。 -/
def Method.WellFormed : Method → Prop
  | .assign v | .push v => v.WellFormed
  | _ => True

/-- 置く値が鍵の重ならない値であること。 -/
def Op.WellFormed : Op → Prop
  | .decl _ v => v.WellFormed
  | .access _ => True
  | .call _ f => f.WellFormed

theorem Method.apply_wellFormed {f : Method} (hf : f.WellFormed) {j : Json} (h : j.WellFormed) :
    (f.apply j).WellFormed := by
  cases f with
  | assign v => exact hf
  | push v =>
    show (Json.push v j).WellFormed
    cases j with
    | null => exact wellFormed_array.2 fun x hx => (List.mem_singleton.1 hx) ▸ hf
    | array items =>
      refine wellFormed_array.2 fun x hx => ?_
      rcases List.mem_append.1 hx with hx | hx
      · exact wellFormed_array.1 h x hx
      · exact (List.mem_singleton.1 hx) ▸ hf
    | bool _ | number _ | string _ | object _ => exact h
  | pop =>
    show j.pop.WellFormed
    cases j with
    | array items =>
      exact wellFormed_array.2 fun x hx => wellFormed_array.1 h x (List.dropLast_subset items hx)
    | null | bool _ | number _ | string _ | object _ => exact h
  | erase k =>
    show (j.erase k).WellFormed
    cases j with
    | object fields =>
      obtain ⟨hnd, hv⟩ := wellFormed_object.1 h
      exact wellFormed_object.2 ⟨hnd.sublist ((List.filter_sublist _).map _),
        fun kv hkv => hv kv (List.mem_of_mem_filter hkv)⟩
    | null | bool _ | number _ | string _ | array _ => exact h
  | clear =>
    show j.clear.WellFormed
    cases j with
    | array _ => exact wellFormed_array.2 nofun
    | object _ => exact wellFormed_object.2 ⟨List.nodup_nil, nofun⟩
    | null | bool _ | number _ | string _ => exact h

namespace Mem

/-- 変数の値も静的な値も、鍵の重ならない値である。 -/
def WellFormed (m : Mem) : Prop := (∀ x, (m.vars x).WellFormed) ∧ m.null.WellFormed

theorem deref_wellFormed {m : Mem} (hm : m.WellFormed) (r : Ref) : (m.deref r).WellFormed :=
  getAt_wellFormed _ (by cases r.root <;> [exact hm.1 _; exact hm.2])

theorem modify_wellFormed {m : Mem} (hm : m.WellFormed) (r : Ref) {f : Json → Json}
    (hf : ∀ c, c.WellFormed → (f c).WellFormed) : (m.modify r f).WellFormed := by
  unfold modify
  split
  · rename_i x _
    refine ⟨fun y => ?_, hm.2⟩
    dsimp only
    by_cases hy : y = x
    · subst hy
      rw [Function.update_same]
      exact modifyAt_wellFormed hf _ (hm.1 _)
    · rw [Function.update_noteq hy]
      exact hm.1 y
  · exact ⟨hm.1, modifyAt_wellFormed hf _ hm.2⟩

theorem subscript_wellFormed {m : Mem} (hm : m.WellFormed) (r : Ref) (a : Access) :
    (m.subscript r a).1.WellFormed := by
  cases a with
  | index i =>
    simp only [subscript]
    split
    · split <;> exact hm
    · exact hm
  | key k =>
    simp only [subscript]
    have hm' : (if (m.deref r).isNull then m.modify r fun _ => .object [] else m).WellFormed := by
      split
      · exact modify_wellFormed hm r fun _ _ => wellFormed_object.2 ⟨List.nodup_nil, nofun⟩
      · exact hm
    split
    · rename_i fields hfields
      dsimp only
      split
      · exact hm'
      · rename_i hk
        obtain ⟨hnd, hv⟩ := wellFormed_object.1 (hfields ▸ deref_wellFormed hm' r)
        have hnew : k ∉ fields.map Prod.fst := fun hmem => hk (by
          obtain ⟨p, hp, rfl⟩ := List.mem_map.1 hmem
          exact List.lookup_isSome_iff.2 ⟨p, hp, beq_self_eq_true _⟩)
        refine modify_wellFormed hm' r fun _ _ => wellFormed_object.2 ⟨?_, fun kv hkv => ?_⟩
        · rw [List.map_append]
          exact List.nodup_append.2 ⟨hnd, List.nodup_singleton _, fun x hx hx' =>
            hnew (by rw [List.mem_singleton.1 hx'] at hx; exact hx)⟩
        · rcases List.mem_append.1 hkv with hkv | hkv
          · exact hv kv hkv
          · rw [List.mem_singleton.1 hkv]
            trivial
    · exact hm'

theorem locate_wellFormed {m : Mem} (hm : m.WellFormed) : ∀ p : Place, (m.locate p).1.WellFormed
  | .var _ => hm
  | .subscript p a => subscript_wellFormed (locate_wellFormed hm p) _ a

theorem step_wellFormed {m : Mem} (hm : m.WellFormed) {op : Op} (hop : op.WellFormed) :
    (m.step op).WellFormed := by
  cases op with
  | decl x v =>
    refine ⟨fun y => ?_, hm.2⟩
    show (Function.update m.vars x v y).WellFormed
    by_cases hy : y = x
    · rw [hy, Function.update_same]
      exact hop
    · rw [Function.update_noteq hy]
      exact hm.1 y
  | access p => exact locate_wellFormed hm p
  | call p f =>
    exact modify_wellFormed (locate_wellFormed hm p) _ fun _ hc => Method.apply_wellFormed hop hc

/-- **置く値、代入する値、足す値がどれも鍵の重ならない値なら、操作の列の後でも、どの変数の値も
静的な値も鍵の重ならない値である。** `Object` を列で持つこの model が、`std::unordered_map` の性質を
失わないということである。 -/
theorem run_wellFormed : ∀ {m : Mem} {ops : List Op}, m.WellFormed → (∀ op ∈ ops, op.WellFormed) →
    (m.run ops).WellFormed
  | _, [], hm, _ => hm
  | m, op :: ops, hm, hops => by
    show ((m.step op).run ops).WellFormed
    exact run_wellFormed (step_wellFormed hm (hops op (List.mem_cons_self _ _)))
      fun o ho => hops o (List.mem_cons_of_mem _ ho)

end Mem

end Json

end Gg
