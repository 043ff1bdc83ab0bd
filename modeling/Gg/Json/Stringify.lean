import Gg.Json.Value
import Mathlib.Data.Nat.Digits

/-!
# `Json::stringify`

`escapeString` と `stringifyImpl`（`part_005` 335–426 行）。

## 仕組み

出力は一つの `std::ostringstream` に書く。この stream には、書いた byte 列のほかに、後の出力を
変える状態が一つある。`escapeString` は制御文字を `\uXXXX` と書くときに `std::hex` を流し込む。
これは stream が生きている間ずっと残る。だから各関数は `hex`（`basefield` が `hex` か）を受け取り、
書いた byte 列と、書いた後の `hex` を返す。

* `std::setfill('0')` も残る。ただし `std::setw` は次の一つの出力で戻るので、後の出力は変わらない。
* `std::setprecision(17)` も残る。ただし整数の出力はこれを読まず、`double` の出力は毎回設定し直す。
* `double` の出力は `basefield` を読まない（`floatfield` は既定のまま）。その文字列は標準ライブラリの
  `%.17g` で、ここでは `DoubleText` として外から与える。
-/

namespace Gg

open Gg.Ws

/-- 文字 `c` の byte。 -/
def byte (c : Char) : UInt8 := c.toNat.toUInt8

@[simp] theorem toUInt8_toNat (c : UInt8) : c.toNat.toUInt8 = c :=
  UInt8.toNat.inj (UInt8.toNat_ofNat_of_lt c.toNat_lt_size)

/-- 数字 `d` の ASCII。10 以上は小文字の `a`–`f`。 -/
def digitChar (d : Nat) : UInt8 := if d < 10 then (48 + d).toUInt8 else (87 + d).toUInt8

/-- `num_put` が基数 `b` で書く自然数。0 は `0` と書く。 -/
def showNat (b n : Nat) : Bytes := if n = 0 then [48] else (Nat.digits b n).reverse.map digitChar

/-- 標準ライブラリの `double` の文字列変換。 -/
structure DoubleText where
  /-- `out << std::setprecision(17) << num`（`%.17g`）。 -/
  show17 : ℚ → Bytes
  /-- `std::strtod(numStr.c_str(), &end)`。`end` が末尾まで進まなければ `none`。桁あふれした値は
  無限大になる。 -/
  strtod : Bytes → Option Double

namespace Json

/-- `std::setw(4)` と `std::setfill('0')` の下で書く、`\u` の後の 4 桁。 -/
def hex4 (c : UInt8) : Bytes :=
  let h := showNat 16 c.toNat
  List.replicate (4 - h.length) (byte '0') ++ h

/-- `escapeString` の `switch (c)` の一つの分岐。 -/
def escapeChar (hex : Bool) (c : UInt8) : Bytes × Bool :=
  if c = byte '"' then (ascii "\\\"", hex)
  else if c = byte '\\' then (ascii "\\\\", hex)
  else if c = 0x08 then (ascii "\\b", hex)
  else if c = 0x0C then (ascii "\\f", hex)
  else if c = 0x0A then (ascii "\\n", hex)
  else if c = 0x0D then (ascii "\\r", hex)
  else if c = 0x09 then (ascii "\\t", hex)
  -- `out << "\\u" << std::hex << std::setfill('0') << std::setw(4) << int(c)`
  else if c < 0x20 then (ascii "\\u" ++ hex4 c, true)
  else ([c], hex)

/-- `escapeString` の `for (char c : str)`。 -/
def escapeBody : Bool → Bytes → Bytes × Bool
  | hex, [] => ([], hex)
  | hex, c :: cs =>
    let (a, hex) := escapeChar hex c
    let (b, hex) := escapeBody hex cs
    (a ++ b, hex)

/-- `escapeChar` が `\uXXXX` と書く byte。他の制御文字には短い escape がある。 -/
def needsUnicodeEscape (c : UInt8) : Bool :=
  c < 0x20 && !(c = 0x08 || c = 0x09 || c = 0x0A || c = 0x0C || c = 0x0D)

@[simp] theorem escapeBody_nil (hex : Bool) : escapeBody hex [] = ([], hex) := rfl

theorem escapeBody_cons (hex : Bool) (c : UInt8) (cs : Bytes) :
    escapeBody hex (c :: cs) =
      ((escapeChar hex c).1 ++ (escapeBody (escapeChar hex c).2 cs).1,
        (escapeBody (escapeChar hex c).2 cs).2) := rfl

/-- `\u` の escape だけが `std::hex` を立てる。 -/
theorem escapeChar_snd (hex : Bool) (c : UInt8) :
    (escapeChar hex c).2 = (hex || needsUnicodeEscape c) := by
  -- 短い escape の七つ
  by_cases h1 : c = byte '"'
  · subst c; cases hex <;> rfl
  by_cases h2 : c = byte '\\'
  · subst c; cases hex <;> rfl
  by_cases h3 : c = 0x08
  · subst c; cases hex <;> rfl
  by_cases h4 : c = 0x0C
  · subst c; cases hex <;> rfl
  by_cases h5 : c = 0x0A
  · subst c; cases hex <;> rfl
  by_cases h6 : c = 0x0D
  · subst c; cases hex <;> rfl
  by_cases h7 : c = 0x09
  · subst c; cases hex <;> rfl
  rw [escapeChar, if_neg h1, if_neg h2, if_neg h3, if_neg h4, if_neg h5, if_neg h6, if_neg h7]
  by_cases h8 : c < 0x20
  · simp [if_pos h8, needsUnicodeEscape, h3, h4, h5, h6, h7, h8]
  · simp [if_neg h8, needsUnicodeEscape, h8]

theorem escapeBody_snd (hex : Bool) (s : Bytes) :
    (escapeBody hex s).2 = (hex || s.any needsUnicodeEscape) := by
  induction s generalizing hex with
  | nil => simp
  | cons c cs ih => simp [escapeBody_cons, ih, escapeChar_snd, Bool.or_assoc]

/-- `escapeString(out, str)`。 -/
def escapeString (hex : Bool) (str : Bytes) : Bytes × Bool :=
  let (body, hex) := escapeBody hex str
  (byte '"' :: body ++ [byte '"'], hex)

theorem escapeString_eq (hex : Bool) (str : Bytes) :
    escapeString hex str =
      (byte '"' :: (escapeBody hex str).1 ++ [byte '"'], (escapeBody hex str).2) := rfl

/-- `out << static_cast<int64_t>(num)`。`std::hex` の下では、2^64 を法とする符号なしの値を
16 進で書く。 -/
def writeInt64 (hex : Bool) (n : Int) : Bytes :=
  if hex then showNat 16 (n % 2 ^ 64).toNat
  else if n < 0 then byte '-' :: showNat 10 n.natAbs
  else showNat 10 n.natAbs

/-- `num == std::floor(num) && std::abs(num) < 1e15`。 -/
def isSmallInt (x : ℚ) : Bool := x.den = 1 ∧ -10 ^ 15 < x ∧ x < 10 ^ 15

/-- `stringifyImpl` の `Number` の分岐。`NaN` と無限大は `null` と書く。 -/
def writeNumber (d : DoubleText) (hex : Bool) : Double → Bytes
  | .finite x => if isSmallInt x then writeInt64 hex x.num else d.show17 x
  | _ => ascii "null"

@[simp] theorem writeNumber_finite (d : DoubleText) (hex : Bool) (x : ℚ) :
    writeNumber d hex (.finite x) = if isSmallInt x then writeInt64 hex x.num else d.show17 x := rfl

/-- 要素の前に書くもの。`if (!first) out << ','; if (pretty) out << '\n' << nextIndent;` -/
def separator (pretty first : Bool) (indent : Nat) : Bytes :=
  (if first then [] else [byte ',']) ++
    (if pretty then byte '\n' :: List.replicate ((indent + 1) * 2) (byte ' ') else [])

/-- 閉じ括弧の前に書くもの。`if (pretty && json.size() > 0) out << '\n' << indentStr;` -/
def closing (pretty : Bool) (size indent : Nat) : Bytes :=
  if pretty && 0 < size then byte '\n' :: List.replicate (indent * 2) (byte ' ') else []

@[simp] theorem closing_zero (pretty : Bool) (indent : Nat) : closing pretty 0 indent = [] := by
  simp [closing]

mutual
/-- `stringifyImpl(out, json, pretty, indent)`。 -/
def stringifyImpl (d : DoubleText) (pretty : Bool) : Json → Nat → Bool → Bytes × Bool
  | .null, _, hex => (ascii "null", hex)
  | .bool b, _, hex => (if b then ascii "true" else ascii "false", hex)
  | .number x, _, hex => (writeNumber d hex x, hex)
  | .string s, _, hex => escapeString hex s
  | .array items, indent, hex =>
    let (body, hex) := stringifyItems d pretty items indent true hex
    (byte '[' :: body ++ closing pretty items.length indent ++ [byte ']'], hex)
  | .object fields, indent, hex =>
    let (body, hex) := stringifyFields d pretty fields indent true hex
    (byte '{' :: body ++ closing pretty fields.length indent ++ [byte '}'], hex)

/-- `json.forEach(...)` の本体。 -/
def stringifyItems (d : DoubleText) (pretty : Bool) :
    List Json → Nat → Bool → Bool → Bytes × Bool
  | [], _, _, hex => ([], hex)
  | item :: rest, indent, first, hex =>
    let (t, hex) := stringifyImpl d pretty item (indent + 1) hex
    let (u, hex) := stringifyItems d pretty rest indent false hex
    (separator pretty first indent ++ t ++ u, hex)

/-- `json.forEachPair(...)` の本体。 -/
def stringifyFields (d : DoubleText) (pretty : Bool) :
    List (Bytes × Json) → Nat → Bool → Bool → Bytes × Bool
  | [], _, _, hex => ([], hex)
  | (key, value) :: rest, indent, first, hex =>
    let (k, hex) := escapeString hex key
    let (t, hex) := stringifyImpl d pretty value (indent + 1) hex
    let (u, hex) := stringifyFields d pretty rest indent false hex
    (separator pretty first indent ++ k ++ [byte ':'] ++ (if pretty then [byte ' '] else []) ++
      t ++ u, hex)
end

theorem stringifyImpl_array (d : DoubleText) (pretty : Bool) (items : List Json) (indent : Nat)
    (hex : Bool) : (stringifyImpl d pretty (.array items) indent hex).1 =
      byte '[' :: (stringifyItems d pretty items indent true hex).1 ++
        closing pretty items.length indent ++ [byte ']'] := rfl

theorem stringifyImpl_object (d : DoubleText) (pretty : Bool) (fields : List (Bytes × Json))
    (indent : Nat) (hex : Bool) : (stringifyImpl d pretty (.object fields) indent hex).1 =
      byte '{' :: (stringifyFields d pretty fields indent true hex).1 ++
        closing pretty fields.length indent ++ [byte '}'] := rfl

@[simp] theorem stringifyItems_nil (d : DoubleText) (pretty : Bool) (indent : Nat) (first hex : Bool) :
    stringifyItems d pretty [] indent first hex = ([], hex) := rfl

@[simp] theorem stringifyFields_nil (d : DoubleText) (pretty : Bool) (indent : Nat)
    (first hex : Bool) : stringifyFields d pretty [] indent first hex = ([], hex) := rfl

theorem stringifyItems_cons (d : DoubleText) (pretty : Bool) (x : Json) (xs : List Json)
    (indent : Nat) (first hex : Bool) : (stringifyItems d pretty (x :: xs) indent first hex).1 =
      separator pretty first indent ++ (stringifyImpl d pretty x (indent + 1) hex).1 ++
        (stringifyItems d pretty xs indent false (stringifyImpl d pretty x (indent + 1) hex).2).1 :=
  rfl

theorem stringifyFields_cons (d : DoubleText) (pretty : Bool) (k : Bytes) (v : Json)
    (rest : List (Bytes × Json)) (indent : Nat) (first hex : Bool) :
    (stringifyFields d pretty ((k, v) :: rest) indent first hex).1 =
      separator pretty first indent ++ (escapeString hex k).1 ++ [byte ':'] ++
        (if pretty then [byte ' '] else []) ++
        (stringifyImpl d pretty v (indent + 1) (escapeString hex k).2).1 ++
        (stringifyFields d pretty rest indent false
          (stringifyImpl d pretty v (indent + 1) (escapeString hex k).2).2).1 := rfl

/-- `Json::stringify(pretty)`。新しい `std::ostringstream` は `std::dec` で始まる。 -/
def stringify (d : DoubleText) (j : Json) (pretty : Bool) : Bytes :=
  (stringifyImpl d pretty j 0 false).1

/-! ## 書いた後の `std::hex` -/

mutual
/-- 値を書く間に `\uXXXX` を一つでも書くか。 -/
def escapesUnicode : Json → Bool
  | .string s => s.any needsUnicodeEscape
  | .array items => itemsEscapeUnicode items
  | .object fields => fieldsEscapeUnicode fields
  | _ => false

def itemsEscapeUnicode : List Json → Bool
  | [] => false
  | x :: xs => escapesUnicode x || itemsEscapeUnicode xs

def fieldsEscapeUnicode : List (Bytes × Json) → Bool
  | [] => false
  | (k, v) :: rest => k.any needsUnicodeEscape || escapesUnicode v || fieldsEscapeUnicode rest
end

mutual
/-- **`std::hex` は残る。** 値を書いた後の stream は、書く前から `hex` だったか、書く間に
`\uXXXX` を書いたとき `hex` である。 -/
theorem stringifyImpl_snd (d : DoubleText) (pretty : Bool) :
    ∀ (v : Json) (indent : Nat) (hex : Bool),
      (stringifyImpl d pretty v indent hex).2 = (hex || escapesUnicode v)
  | .null, _, _ => by simp [stringifyImpl, escapesUnicode]
  | .bool _, _, _ => by simp [stringifyImpl, escapesUnicode]
  | .number _, _, _ => by simp [stringifyImpl, escapesUnicode]
  | .string s, _, hex => by simp [stringifyImpl, escapesUnicode, escapeString_eq, escapeBody_snd]
  | .array items, indent, hex => by
    simp [stringifyImpl, escapesUnicode, stringifyItems_snd d pretty items indent true hex]
  | .object fields, indent, hex => by
    simp [stringifyImpl, escapesUnicode, stringifyFields_snd d pretty fields indent true hex]

theorem stringifyItems_snd (d : DoubleText) (pretty : Bool) :
    ∀ (items : List Json) (indent : Nat) (first hex : Bool),
      (stringifyItems d pretty items indent first hex).2 = (hex || itemsEscapeUnicode items)
  | [], _, _, _ => by simp [stringifyItems, itemsEscapeUnicode]
  | x :: xs, indent, first, hex => by
    simp [stringifyItems, itemsEscapeUnicode, stringifyImpl_snd d pretty x (indent + 1) hex,
      stringifyItems_snd d pretty xs indent false, Bool.or_assoc]

theorem stringifyFields_snd (d : DoubleText) (pretty : Bool) :
    ∀ (fields : List (Bytes × Json)) (indent : Nat) (first hex : Bool),
      (stringifyFields d pretty fields indent first hex).2 = (hex || fieldsEscapeUnicode fields)
  | [], _, _, _ => by simp [stringifyFields, fieldsEscapeUnicode]
  | (k, v) :: rest, indent, first, hex => by
    simp [stringifyFields, fieldsEscapeUnicode, escapeString_eq, escapeBody_snd,
      stringifyImpl_snd d pretty v (indent + 1), stringifyFields_snd d pretty rest indent false,
      Bool.or_assoc]
end

end Json

end Gg
