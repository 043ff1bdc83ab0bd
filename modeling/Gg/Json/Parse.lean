import Gg.Json.Stringify

/-!
# `Json::parse`

`JsonParser`（`part_005` 49–317 行）。`pos_` から先の入力を byte 列で持ち、各関数は読んだ値と
残りを返す。

## 仕組み

* C++ の `std::nullopt` は `Stop.nullopt`。
* `parseValue`、`parseArray`、`parseObject` は互いに呼び合う再帰で、C++ では深さに限りがない。
  ここでは各呼び出しが `fuel` を一つ使い、尽きたら `Stop.fuel` で止まる。`Json::parse` は入力の
  長さから十分な `fuel` を与える。`Stop.fuel` は C++ にない結果なので、定理ではどちらで止まったかを
  区別する。
* `peek()` は末尾で `'\0'` を返す。`consume` は先頭を一つ捨てる。
* `catch (...)` が捕まえるのは割り当ての失敗だけなので、入れない。
-/

namespace Gg

open Gg.Ws

namespace Json

/-- parser が止まった理由。 -/
inductive Stop where
  /-- `return std::nullopt`。 -/
  | nullopt
  /-- `fuel` が尽きた。C++ にはない。 -/
  | fuel
  deriving DecidableEq, Repr

/-- `peek()`。 -/
def peek : Bytes → UInt8
  | [] => 0
  | c :: _ => c

@[simp] theorem peek_cons (c : UInt8) (t : Bytes) : peek (c :: t) = c := rfl

/-- `skipWhitespace` が飛ばす文字。 -/
def isWhitespace (c : UInt8) : Bool :=
  c = byte ' ' || c = byte '\t' || c = byte '\n' || c = byte '\r'

/-- `skipWhitespace()`。 -/
def skipWhitespace (s : Bytes) : Bytes := s.dropWhile isWhitespace

/-- `peek() >= '0' && peek() <= '9'`。 -/
def isDigit (c : UInt8) : Bool := byte '0' ≤ c && c ≤ byte '9'

/-- `parseNull()`。 -/
def parseNull (s : Bytes) : Except Stop (Json × Bytes) :=
  if s.take 4 = ascii "null" then .ok (.null, s.drop 4) else .error .nullopt

/-- `parseBool()`。 -/
def parseBool (s : Bytes) : Except Stop (Json × Bytes) :=
  if s.take 4 = ascii "true" then .ok (.bool true, s.drop 4)
  else if s.take 5 = ascii "false" then .ok (.bool false, s.drop 5)
  else .error .nullopt

/-! ## 数 -/

/-- `if (peek() == '-') consume();` -/
def scanSign (s : Bytes) : Bytes × Bytes :=
  if peek s = byte '-' then ([byte '-'], s.tail) else ([], s)

/-- 整数部。`0` が一つか、`1`–`9` で始まる数字の並び。 -/
def scanInt (s : Bytes) : Except Stop (Bytes × Bytes) :=
  if peek s = byte '0' then .ok ([byte '0'], s.tail)
  else if byte '1' ≤ peek s ∧ peek s ≤ byte '9' then .ok (s.span isDigit)
  else .error .nullopt

/-- 小数部。`.` の後に数字が一つ以上。 -/
def scanFrac (s : Bytes) : Except Stop (Bytes × Bytes) :=
  if peek s = byte '.' then
    let (ds, rest) := s.tail.span isDigit
    if ds = [] then .error .nullopt else .ok (byte '.' :: ds, rest)
  else .ok ([], s)

/-- 指数部。`e` か `E`、符号、数字が一つ以上。 -/
def scanExp (s : Bytes) : Except Stop (Bytes × Bytes) :=
  if peek s = byte 'e' ∨ peek s = byte 'E' then
    let (sign, s') :=
      if peek s.tail = byte '+' ∨ peek s.tail = byte '-' then ([peek s.tail], s.tail.tail)
      else ([], s.tail)
    let (ds, rest) := s'.span isDigit
    if ds = [] then .error .nullopt else .ok (peek s :: sign ++ ds, rest)
  else .ok ([], s)

/-- `parseNumber()` が文法で読む `numStr` と、その残り。 -/
def scanNumber (s : Bytes) : Except Stop (Bytes × Bytes) := do
  let (sign, s) := scanSign s
  let (ip, s) ← scanInt s
  let (fp, s) ← scanFrac s
  let (ep, s) ← scanExp s
  return (sign ++ ip ++ fp ++ ep, s)

/-- `parseNumber()`。文法で読んだ `numStr` を `std::strtod` に渡す。 -/
def parseNumber (d : DoubleText) (s : Bytes) : Except Stop (Json × Bytes) := do
  let (numStr, s) ← scanNumber s
  match d.strtod numStr with
  | some value => return (.number value, s)
  | none => throw .nullopt

/-! ## 文字列 -/

/-- 16 進の一桁。 -/
def hexValue (c : UInt8) : Option Nat :=
  if byte '0' ≤ c ∧ c ≤ byte '9' then some (c.toNat - 48)
  else if byte 'a' ≤ c ∧ c ≤ byte 'f' then some (10 + c.toNat - 97)
  else if byte 'A' ≤ c ∧ c ≤ byte 'F' then some (10 + c.toNat - 65)
  else none

/-- `\uXXXX` の 4 桁。 -/
def hexQuad (a b c e : UInt8) : Option Nat := do
  let a ← hexValue a
  let b ← hexValue b
  let c ← hexValue c
  let e ← hexValue e
  return ((a * 16 + b) * 16 + c) * 16 + e

/-- codepoint を UTF-8 にしたもの。3 byte までしか書かない。 -/
def utf8Bytes (cp : Nat) : Bytes :=
  if cp < 0x80 then [cp.toUInt8]
  else if cp < 0x800 then [(0xC0 ||| (cp >>> 6)).toUInt8, (0x80 ||| (cp &&& 0x3F)).toUInt8]
  else
    [(0xE0 ||| (cp >>> 12)).toUInt8, (0x80 ||| ((cp >>> 6) &&& 0x3F)).toUInt8,
      (0x80 ||| (cp &&& 0x3F)).toUInt8]

/-- `\` の後の一文字（`u` を除く）。 -/
def unescape (e : UInt8) : Option UInt8 :=
  if e = byte '"' then some (byte '"')
  else if e = byte '\\' then some (byte '\\')
  else if e = byte '/' then some (byte '/')
  else if e = byte 'b' then some 0x08
  else if e = byte 'f' then some 0x0C
  else if e = byte 'n' then some 0x0A
  else if e = byte 'r' then some 0x0D
  else if e = byte 't' then some 0x09
  else none

/-- `parseString()` の `while` 部分。`result` に足しながら閉じ引用符まで読む。 -/
def parseStringBody (result : Bytes) : Bytes → Except Stop (Bytes × Bytes)
  | [] => .error .nullopt
  | c :: rest =>
    if c = byte '"' then .ok (result, rest)
    else if c = byte '\\' then
      match rest with
      | [] => .error .nullopt
      | e :: rest =>
        if e = byte 'u' then
          match rest with
          | a :: b :: c :: e :: rest =>
            match hexQuad a b c e with
            | some cp => parseStringBody (result ++ utf8Bytes cp) rest
            | none => .error .nullopt
          | _ => .error .nullopt
        else
          match unescape e with
          | some b => parseStringBody (result ++ [b]) rest
          | none => .error .nullopt
    else if c < 0x20 then .error .nullopt
    else parseStringBody (result ++ [c]) rest

/-- `parseString()`。 -/
def parseString (s : Bytes) : Except Stop (Json × Bytes) :=
  if peek s ≠ byte '"' then throw .nullopt
  else do
    let (str, rest) ← parseStringBody [] s.tail
    return (.string str, rest)

/-! ## 値 -/

mutual
/-- `parseValue()`。 -/
def parseValue (d : DoubleText) : Nat → Bytes → Except Stop (Json × Bytes)
  | 0, _ => throw .fuel
  | fuel + 1, s =>
    let s := skipWhitespace s
    let c := peek s
    if c = byte 'n' then parseNull s
    else if c = byte 't' ∨ c = byte 'f' then parseBool s
    else if c = byte '"' then parseString s
    else if c = byte '[' then parseArray d fuel s
    else if c = byte '{' then parseObject d fuel s
    else if c = byte '-' ∨ isDigit c then parseNumber d s
    else throw .nullopt

/-- `parseArray()`。 -/
def parseArray (d : DoubleText) : Nat → Bytes → Except Stop (Json × Bytes)
  | 0, _ => throw .fuel
  | fuel + 1, s =>
    if peek s ≠ byte '[' then throw .nullopt
    else
      let s := skipWhitespace s.tail
      if peek s = byte ']' then return (.array [], s.tail)
      else parseElements d fuel [] s

/-- `parseArray()` の `while (true)`。 -/
def parseElements (d : DoubleText) : Nat → List Json → Bytes → Except Stop (Json × Bytes)
  | 0, _, _ => throw .fuel
  | fuel + 1, arr, s => do
    let (value, s) ← parseValue d fuel s
    let arr := arr ++ [value]
    let s := skipWhitespace s
    if peek s = byte ']' then return (.array arr, s.tail)
    else if peek s = byte ',' then parseElements d fuel arr s.tail
    else throw .nullopt

/-- `parseObject()`。 -/
def parseObject (d : DoubleText) : Nat → Bytes → Except Stop (Json × Bytes)
  | 0, _ => throw .fuel
  | fuel + 1, s =>
    if peek s ≠ byte '{' then throw .nullopt
    else
      let s := skipWhitespace s.tail
      if peek s = byte '}' then return (.object [], s.tail)
      else parseMembers d fuel [] s

/-- `parseObject()` の `while (true)`。鍵は `parseString()` で読み、`obj[key] = value` で入れる。 -/
def parseMembers (d : DoubleText) :
    Nat → List (Bytes × Json) → Bytes → Except Stop (Json × Bytes)
  | 0, _, _ => throw .fuel
  | fuel + 1, obj, s => do
    let (key, s) ← parseString (skipWhitespace s)
    match key with
    | .string key =>
      let s := skipWhitespace s
      if peek s ≠ byte ':' then throw .nullopt
      else do
        let (value, s) ← parseValue d fuel s.tail
        let obj := setField obj key value
        let s := skipWhitespace s
        if peek s = byte '}' then return (.object obj, s.tail)
        else if peek s = byte ',' then parseMembers d fuel obj s.tail
        else throw .nullopt
    | _ => throw .nullopt
end

/-- `Json::parse(input)`。`fuel` は入力の長さの 3 倍あれば足りる。 -/
def parse (d : DoubleText) (input : Bytes) : Option Json :=
  let s := skipWhitespace input
  if s = [] then none
  else
    match parseValue d (3 * input.length + 3) s with
    | .ok (v, rest) => if skipWhitespace rest = [] then some v else none
    | .error _ => none

/-! ## `do` の分解と先頭の一文字 -/

/-- `do` の一つの `←` が値を返すのは、前の計算が値を返し、続きがそれから値を返すとき。 -/
theorem bind_eq_ok {ε α β : Type} {x : Except ε α} {f : α → Except ε β} {r : β} :
    x >>= f = .ok r ↔ ∃ a, x = .ok a ∧ f a = .ok r := by
  cases x <;> simp [bind, Except.bind]

/-- `parseValue` が値を返すのは、空白を飛ばした先の一文字で選んだ関数が返すとき。 -/
theorem parseValue_ok {d : DoubleText} {fuel : Nat} {s : Bytes} {x : Json × Bytes}
    (h : parseValue d (fuel + 1) s = .ok x) :
    parseNull (skipWhitespace s) = .ok x ∨ parseBool (skipWhitespace s) = .ok x ∨
      parseString (skipWhitespace s) = .ok x ∨ parseArray d fuel (skipWhitespace s) = .ok x ∨
      parseObject d fuel (skipWhitespace s) = .ok x ∨ parseNumber d (skipWhitespace s) = .ok x := by
  rw [parseValue.eq_2] at h
  generalize peek (skipWhitespace s) = c at h
  by_cases h1 : c = byte 'n'
  · rw [if_pos h1] at h; exact .inl h
  rw [if_neg h1] at h
  by_cases h2 : c = byte 't' ∨ c = byte 'f'
  · rw [if_pos h2] at h; exact .inr (.inl h)
  rw [if_neg h2] at h
  by_cases h3 : c = byte '"'
  · rw [if_pos h3] at h; exact .inr (.inr (.inl h))
  rw [if_neg h3] at h
  by_cases h4 : c = byte '['
  · rw [if_pos h4] at h; exact .inr (.inr (.inr (.inl h)))
  rw [if_neg h4] at h
  by_cases h5 : c = byte '{'
  · rw [if_pos h5] at h; exact .inr (.inr (.inr (.inr (.inl h))))
  rw [if_neg h5] at h
  by_cases h6 : c = byte '-' ∨ isDigit c = true
  · rw [if_pos h6] at h; exact .inr (.inr (.inr (.inr (.inr h))))
  rw [if_neg h6] at h
  cases h

end Json

end Gg
