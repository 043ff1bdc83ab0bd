import Gg.Ws.Types
import Mathlib.Algebra.Order.Ring.Rat

/-!
# `gg::Json` の値

`gg_ws/json.hpp` の `Json`。C++ では `type_` と `std::variant` の `value_` の組だが、ここでは
一つの帰納型にする。

## 仕組み

* 数は `double` の値 `Double` で持つ。有限な値は `ℚ` で持ち、丸めは標準ライブラリの変換
  （`DoubleText`）に任せる。`std::strtod` は桁あふれで無限大を返すので、無限大と `NaN` も値に入れる。
  `operator==` は `double` の `==` なので、`NaN` は自分自身とも等しくない。
* `Object` は `std::unordered_map<std::string, Json>`。要素の列を、`forEachPair` が回る順に
  並べたものとして持つ。鍵が重ならないことは map の性質で、`Json.WellFormed` がそれを言う。
* `operator==` は `type_` を比べてから `value_` を比べる。`std::unordered_map` の `==` は
  大きさが同じで、片方の各要素の鍵が他方にあって値が `==` であることで、順には依らない。
-/

namespace Gg

open Gg.Ws

/-- C++ の `double`。`std::isnan` と `std::isinf` が見分ける値は、それぞれの構成子にする。 -/
inductive Double where
  | finite (x : ℚ)
  /-- `neg` なら `-inf`。 -/
  | inf (neg : Bool)
  | nan
  deriving DecidableEq, Repr

namespace Double

instance : OfNat Double n := ⟨.finite n⟩

instance : IntCast Double := ⟨fun n => .finite n⟩

@[simp] theorem intCast_eq (n : Int) : (n : Double) = .finite n := rfl

/-- `double` の `==`。`NaN` はどの値とも等しくない。 -/
def beq : Double → Double → Bool
  | .finite a, .finite b => a == b
  | .inf a, .inf b => a == b
  | _, _ => false

end Double

/-- `gg::Json`。 -/
inductive Json where
  | null
  | bool (b : Bool)
  | number (x : Double)
  | string (s : Bytes)
  | array (items : List Json)
  | object (fields : List (Bytes × Json))
  deriving Repr, Inhabited

namespace Json

/-- `Json::Type`。 -/
inductive Type' where
  | null
  | bool
  | number
  | string
  | array
  | object
  deriving DecidableEq, Repr

/-- `type()`。 -/
def type : Json → Type'
  | .null => .null
  | .bool _ => .bool
  | .number _ => .number
  | .string _ => .string
  | .array _ => .array
  | .object _ => .object

/-- `isNull()`。 -/
def isNull (j : Json) : Bool := j.type = .null

/-- `isArray()`。 -/
def isArray (j : Json) : Bool := j.type = .array

/-- `isObject()`。 -/
def isObject (j : Json) : Bool := j.type = .object

mutual
/-- `operator==`。 -/
def beq : Json → Json → Bool
  | .null, .null => true
  | .bool a, .bool b => a == b
  | .number a, .number b => a.beq b
  | .string a, .string b => a == b
  | .array a, .array b => itemsBeq a b
  | .object a, .object b => a.length == b.length && fieldsIn a b
  | _, _ => false

/-- `std::vector<Json>` の `==`。長さが同じで、同じ位置どうしが `==`。 -/
def itemsBeq : List Json → List Json → Bool
  | [], [] => true
  | x :: xs, y :: ys => beq x y && itemsBeq xs ys
  | _, _ => false

/-- `std::unordered_map` の `==` の後半。左の各要素の鍵が右にあり、値が `==`。 -/
def fieldsIn : List (Bytes × Json) → List (Bytes × Json) → Bool
  | [], _ => true
  | (k, v) :: rest, b =>
    (match b.lookup k with
      | some w => beq v w
      | none => false) && fieldsIn rest b
end

instance : BEq Json := ⟨beq⟩

mutual
/-- 値の節の数。parser の fuel の見積もりに使う。 -/
def nodes : Json → Nat
  | .array items => 1 + itemsNodes items
  | .object fields => 1 + fieldsNodes fields
  | _ => 1

def itemsNodes : List Json → Nat
  | [] => 1
  | x :: xs => nodes x + itemsNodes xs

def fieldsNodes : List (Bytes × Json) → Nat
  | [] => 1
  | (_, v) :: rest => nodes v + fieldsNodes rest
end

mutual
/-- どの `Object` も鍵が重ならない。`std::unordered_map` が持つ性質。 -/
def WellFormed : Json → Prop
  | .array items => ItemsWellFormed items
  | .object fields => (fields.map Prod.fst).Nodup ∧ FieldsWellFormed fields
  | _ => True

def ItemsWellFormed : List Json → Prop
  | [] => True
  | x :: xs => WellFormed x ∧ ItemsWellFormed xs

def FieldsWellFormed : List (Bytes × Json) → Prop
  | [] => True
  | (_, v) :: rest => WellFormed v ∧ FieldsWellFormed rest
end

theorem itemsWellFormed_iff : ∀ {xs : List Json}, ItemsWellFormed xs ↔ ∀ x ∈ xs, WellFormed x
  | [] => by simp [ItemsWellFormed]
  | x :: xs => by simp [ItemsWellFormed, @itemsWellFormed_iff xs]

theorem fieldsWellFormed_iff :
    ∀ {fs : List (Bytes × Json)}, FieldsWellFormed fs ↔ ∀ kv ∈ fs, WellFormed kv.2
  | [] => by simp [FieldsWellFormed]
  | (_, _) :: fs => by simp [FieldsWellFormed, @fieldsWellFormed_iff fs]

@[simp] theorem wellFormed_array {items : List Json} :
    WellFormed (.array items) ↔ ∀ x ∈ items, WellFormed x := itemsWellFormed_iff

@[simp] theorem wellFormed_object {fields : List (Bytes × Json)} :
    WellFormed (.object fields) ↔ (fields.map Prod.fst).Nodup ∧ ∀ kv ∈ fields, WellFormed kv.2 :=
  and_congr_right' fieldsWellFormed_iff

/-- `obj[key] = value`。鍵があれば値を置き換え、なければ末尾に足す。 -/
def setField (fields : List (Bytes × Json)) (key : Bytes) (value : Json) : List (Bytes × Json) :=
  if fields.any (·.1 == key) then fields.map fun kv => if kv.1 == key then (key, value) else kv
  else fields ++ [(key, value)]

end Json

end Gg
