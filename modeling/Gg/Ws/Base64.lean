import Gg.Ws.Wire
import Mathlib.Data.List.OfFn

/-!
# base64 と `Sec-WebSocket-Key`

`base64Encode` と `generateWebSocketKey`（`part_004` 204–235 行）、それと RFC 4648 §4 の base64。

## 仕組み

ループは `i` を 3 ずつ進め、3 byte を `uint32_t n` の下位 24 bit に詰めて、6 bit ずつ `table` を
引く。足りない byte の位置には `=` を書く。`n` は 24 bit を超えないので、`Nat` の shift と論理和で
書いても `uint32_t` と同じ値になる。

RFC 側の `rfcEncode` は入力を 3 byte の群に分け、群の値 `v` から 6 bit ずつ表 1 の文字を取る。
二つを結ぶのは `base64Loop_drop` で、`data.drop i` の形（3 byte 以上、2 byte、1 byte、空）で場合を
分けて `i` を 3 ずつ進める。ビット演算は `combine_eq`（詰めた `n` は群の値）と `sextet_eq`
（`(n >> s) & 0x3F` は 6 bit の桁）の二つで算術に直す。

復号 `rfcDecode` も RFC 4648 §4 から書き、`rfcDecode_rfcEncode` で符号化の逆であることを示す。
-/

namespace Gg.Ws

/-- `static const char table[]`。 -/
def base64Table : Bytes := ascii "ABCDEFGHIJKLMNOPQRSTUVWXYZabcdefghijklmnopqrstuvwxyz0123456789+/"

/-- 埋め草の `'='`。 -/
def pad : UInt8 := 0x3D

/-- `for (size_t i = 0; i < len; i += 3)` の、`i` からの周回が `result` に足す文字。 -/
def base64Loop (data : Bytes) (i : Nat) : Bytes :=
  if i < data.length then
    let n := (data.getD i 0).toNat <<< 16
    let n := if i + 1 < data.length then n ||| (data.getD (i + 1) 0).toNat <<< 8 else n
    let n := if i + 2 < data.length then n ||| (data.getD (i + 2) 0).toNat else n
    [base64Table.getD ((n >>> 18) &&& 0x3F) 0, base64Table.getD ((n >>> 12) &&& 0x3F) 0,
      if i + 1 < data.length then base64Table.getD ((n >>> 6) &&& 0x3F) 0 else pad,
      if i + 2 < data.length then base64Table.getD (n &&& 0x3F) 0 else pad] ++
      base64Loop data (i + 3)
  else []
termination_by data.length - i

/-- `base64Encode(data, len)`。`len` は `data` の長さ。 -/
def base64Encode (data : Bytes) : Bytes := base64Loop data 0

/-- `generateWebSocketKey`。`key[16]` は乱数の 16 byte。 -/
def generateWebSocketKey (key : Fin 16 → UInt8) : Bytes := base64Encode (List.ofFn key)

/-! ## RFC 4648 §4 -/

/-- 表 1（The Base 64 Alphabet）。値 0–25 は `A`–`Z`、26–51 は `a`–`z`、52–61 は `0`–`9`、
62 は `+`、63 は `/`。 -/
def alphabet (v : Nat) : UInt8 :=
  if v < 26 then (0x41 + v).toUInt8
  else if v < 52 then (0x61 + (v - 26)).toUInt8
  else if v < 62 then (0x30 + (v - 52)).toUInt8
  else if v = 62 then 0x2B else 0x2F

/-- 表 1 の逆引き。 -/
def alphabetIndex (c : UInt8) : Option Nat :=
  if 0x41 ≤ c ∧ c ≤ 0x5A then some (c.toNat - 0x41)
  else if 0x61 ≤ c ∧ c ≤ 0x7A then some (c.toNat - 0x61 + 26)
  else if 0x30 ≤ c ∧ c ≤ 0x39 then some (c.toNat - 0x30 + 52)
  else if c = 0x2B then some 62
  else if c = 0x2F then some 63
  else none

/-- 24 bit の群の値 `v` を、上から 6 bit ずつ 4 文字にする。 -/
def quantum (v : Nat) : Bytes :=
  [alphabet (v / 262144 % 64), alphabet (v / 4096 % 64), alphabet (v / 64 % 64), alphabet (v % 64)]

/-- RFC 4648 §4 の符号化。最後の群が 8 bit なら 2 文字と `==`、16 bit なら 3 文字と `=`。
足りない bit は 0 で埋める。 -/
def rfcEncode : Bytes → Bytes
  | a :: b :: c :: rest => quantum (a.toNat * 65536 + b.toNat * 256 + c.toNat) ++ rfcEncode rest
  | [a, b] => (quantum (a.toNat * 65536 + b.toNat * 256)).take 3 ++ [pad]
  | [a] => (quantum (a.toNat * 65536)).take 2 ++ [pad, pad]
  | [] => []

/-- RFC 4648 §10 の試験値と、RFC 6455 §1.3 の鍵の例。 -/
example : rfcEncode (ascii "foob") = ascii "Zm9vYg==" ∧ rfcEncode (ascii "fooba") = ascii "Zm9vYmE=" ∧
    rfcEncode (ascii "the sample nonce") = ascii "dGhlIHNhbXBsZSBub25jZQ==" := by decide

/-- 24 bit の値 `v` の 3 byte。 -/
def quantumBytes (v : Nat) : Bytes := [(v / 65536 % 256).toUInt8, (v / 256 % 256).toUInt8, (v % 256).toUInt8]

/-- 4 文字の一群の復号。`last` は最後の群か。`=` は最後の群の末尾にだけ置ける。 -/
def decodeQuantum (c0 c1 c2 c3 : UInt8) (last : Bool) : Option Bytes := do
  let i0 ← alphabetIndex c0
  let i1 ← alphabetIndex c1
  if last ∧ c2 = pad ∧ c3 = pad then
    return (quantumBytes (i0 * 262144 + i1 * 4096)).take 1
  let i2 ← alphabetIndex c2
  if last ∧ c3 = pad then
    return (quantumBytes (i0 * 262144 + i1 * 4096 + i2 * 64)).take 2
  let i3 ← alphabetIndex c3
  return quantumBytes (i0 * 262144 + i1 * 4096 + i2 * 64 + i3)

/-- RFC 4648 §4 の復号。長さが 4 の倍数でなければ `none`。 -/
def rfcDecode : Bytes → Option Bytes
  | [] => some []
  | c0 :: c1 :: c2 :: c3 :: rest => do
    let q ← decodeQuantum c0 c1 c2 c3 rest.isEmpty
    let t ← rfcDecode rest
    return q ++ t
  | _ => none

/-! ## 表とビット演算 -/

theorem base64Table_getD : ∀ k : Fin 64, base64Table.getD k 0 = alphabet k := by decide

theorem alphabetIndex_alphabet : ∀ k : Fin 64, alphabetIndex (alphabet k) = some k := by decide

theorem alphabet_ne_pad : ∀ k : Fin 64, alphabet k ≠ pad := by decide

/-- `(n >> s) & 0x3F` は `n` の `s` bit 目からの 6 bit。 -/
theorem sextet_eq (n s : Nat) : (n >>> s) &&& 0x3F = n / 2 ^ s % 64 := by
  rw [Nat.shiftRight_eq_div_pow, show (0x3F : Nat) = 2 ^ 6 - 1 from rfl,
    Nat.and_pow_two_sub_one_eq_mod]

theorem shiftLeft_or (x y k : Nat) : (x ||| y) <<< k = x <<< k ||| y <<< k :=
  Nat.eq_of_testBit_eq fun i => by
    simp only [Nat.testBit_shiftLeft, Nat.testBit_or, Bool.and_or_distrib_left]

/-- 二つの byte を詰めた `n`。 -/
theorem combine₂_eq (a b : Nat) (hb : b < 256) : a <<< 16 ||| b <<< 8 = (256 * a + b) * 256 := by
  rw [show a <<< 16 = a <<< 8 <<< 8 from (Nat.shiftLeft_add a 8 8), ← shiftLeft_or,
    shiftLeft_or_of_lt (k := 8) hb, Nat.shiftLeft_eq]
  rfl

/-- 三つの byte を詰めた `n` は群の値。 -/
theorem combine_eq (a b c : Nat) (hb : b < 256) (hc : c < 256) :
    a <<< 16 ||| b <<< 8 ||| c = a * 65536 + b * 256 + c := by
  rw [combine₂_eq a b hb, show (256 * a + b) * 256 = (256 * a + b) <<< 8 from
    (Nat.shiftLeft_eq (256 * a + b) 8).symm, shiftLeft_or_of_lt (k := 8) hc]
  show 256 * (256 * a + b) + c = _
  omega

/-- 24 bit の値の 4 文字は、6 bit の桁ごとの `table` の文字。 -/
theorem table_sextets (v : Nat) :
    [base64Table.getD ((v >>> 18) &&& 0x3F) 0, base64Table.getD ((v >>> 12) &&& 0x3F) 0,
      base64Table.getD ((v >>> 6) &&& 0x3F) 0, base64Table.getD (v &&& 0x3F) 0] = quantum v := by
  have h : ∀ m, base64Table.getD (m % 64) 0 = alphabet (m % 64) := fun m =>
    base64Table_getD ⟨m % 64, Nat.mod_lt _ (by omega)⟩
  simp only [sextet_eq, show v &&& 0x3F = v % 64 from by simpa using sextet_eq v 0, h, quantum]
  rfl

/-! ## ループは RFC の符号化 -/

theorem length_of_drop_eq {data xs : Bytes} {i : Nat} {a : UInt8} (h : data.drop i = a :: xs) :
    data.length = i + xs.length + 1 := by
  have := congrArg List.length h
  simp only [List.length_drop, List.length_cons] at this
  omega

theorem drop_eq_cons {data xs : Bytes} {i : Nat} {a : UInt8} (h : data.drop i = a :: xs) :
    data.getD i 0 = a ∧ data.drop (i + 1) = xs := by
  have hi : i < data.length := by have := length_of_drop_eq h; omega
  rw [List.drop_eq_getElem_cons hi, List.cons.injEq] at h
  rw [List.getD_eq_getElem?_getD, List.getElem?_eq_getElem hi, Option.getD_some]
  exact h

theorem base64Loop_of_le {data : Bytes} {i : Nat} (h : data.length ≤ i) : base64Loop data i = [] := by
  rw [base64Loop, if_neg (by omega)]

theorem base64Loop_drop (data : Bytes) : ∀ (xs : Bytes) (i : Nat), data.drop i = xs →
    base64Loop data i = rfcEncode xs
  | [], i, h => base64Loop_of_le (List.drop_eq_nil_iff.1 h)
  | [a], i, h => by
    obtain ⟨ha, h1⟩ := drop_eq_cons h
    have hl : data.length = i + 1 := length_of_drop_eq h
    rw [base64Loop, if_pos (by omega), base64Loop_of_le (by omega), List.append_nil]
    simp only [if_neg (show ¬ i + 1 < data.length by omega), if_neg (show ¬ i + 2 < data.length by omega), ha]
    rw [rfcEncode, ← table_sextets, show a.toNat * 65536 = a.toNat <<< 16 from (Nat.shiftLeft_eq a.toNat 16).symm]
    rfl
  | [a, b], i, h => by
    obtain ⟨ha, h1⟩ := drop_eq_cons h
    obtain ⟨hb, -⟩ := drop_eq_cons h1
    have hl : data.length = i + 2 := length_of_drop_eq h
    rw [base64Loop, if_pos (by omega), base64Loop_of_le (by omega), List.append_nil]
    simp only [if_pos (show i + 1 < data.length by omega), if_neg (show ¬ i + 2 < data.length by omega), ha, hb]
    rw [rfcEncode, ← table_sextets, combine₂_eq _ _ b.toNat_lt_size]
    rw [show (256 * a.toNat + b.toNat) * 256 = a.toNat * 65536 + b.toNat * 256 by omega]
    rfl
  | a :: b :: c :: rest, i, h => by
    obtain ⟨ha, h1⟩ := drop_eq_cons h
    obtain ⟨hb, h2⟩ := drop_eq_cons h1
    obtain ⟨hc, h3⟩ := drop_eq_cons h2
    have hl : data.length = i + rest.length + 3 := length_of_drop_eq h
    rw [base64Loop, if_pos (by omega)]
    simp only [if_pos (show i + 1 < data.length by omega), if_pos (show i + 2 < data.length by omega), ha, hb, hc]
    rw [rfcEncode, ← table_sextets, combine_eq _ _ _ b.toNat_lt_size c.toNat_lt_size,
      base64Loop_drop data rest (i + 3) h3]

theorem base64Encode_eq_rfcEncode (data : Bytes) : base64Encode data = rfcEncode data :=
  base64Loop_drop data data 0 rfl

/-! ## 長さと復号 -/

theorem rfcEncode_length : ∀ data : Bytes, (rfcEncode data).length = 4 * ((data.length + 2) / 3)
  | a :: b :: c :: rest => by
    rw [rfcEncode, List.length_append, rfcEncode_length rest]
    simp only [quantum, List.length_cons, List.length_nil]
    omega
  | [_, _] | [_] | [] => by simp [rfcEncode, quantum]

theorem quantumBytes_eq (a b c : UInt8) :
    quantumBytes (a.toNat * 65536 + b.toNat * 256 + c.toNat) = [a, b, c] := by
  have ha : a.toNat < 256 := a.toNat_lt_size
  have hb : b.toNat < 256 := b.toNat_lt_size
  have hc : c.toNat < 256 := c.toNat_lt_size
  have h : ∀ (x : Nat) (d : UInt8), x = d.toNat → x.toUInt8 = d := fun x d hx => hx ▸ toUInt8_toNat d
  simp only [quantumBytes, List.cons.injEq, and_true]
  exact ⟨h _ _ (by omega), h _ _ (by omega), h _ _ (by omega)⟩

/-- 群の 4 文字は `alphabetIndex` で 6 bit の桁に戻る。 -/
theorem alphabetIndex_digit (v : Nat) : alphabetIndex (alphabet (v % 64)) = some (v % 64) :=
  alphabetIndex_alphabet ⟨v % 64, Nat.mod_lt _ (by omega)⟩

theorem alphabet_digit_ne_pad (v : Nat) : alphabet (v % 64) ≠ pad :=
  alphabet_ne_pad ⟨v % 64, Nat.mod_lt _ (by omega)⟩

/-- 24 bit の値は、6 bit の桁から組み直せる。 -/
theorem sextets_recombine (v : Nat) (hv : v < 16777216) :
    v / 262144 % 64 * 262144 + v / 4096 % 64 * 4096 + v / 64 % 64 * 64 + v % 64 = v := by
  omega

/-- 3 byte の群の 4 文字は、その 3 byte に復号される。 -/
theorem decodeQuantum_three (a b c : UInt8) (last : Bool) :
    decodeQuantum (alphabet ((a.toNat * 65536 + b.toNat * 256 + c.toNat) / 262144 % 64))
      (alphabet ((a.toNat * 65536 + b.toNat * 256 + c.toNat) / 4096 % 64))
      (alphabet ((a.toNat * 65536 + b.toNat * 256 + c.toNat) / 64 % 64))
      (alphabet ((a.toNat * 65536 + b.toNat * 256 + c.toNat) % 64)) last = some [a, b, c] := by
  have : a.toNat < 256 := a.toNat_lt_size
  have : b.toNat < 256 := b.toNat_lt_size
  have : c.toNat < 256 := c.toNat_lt_size
  simp only [decodeQuantum, alphabetIndex_digit, alphabet_digit_ne_pad, false_and, and_false,
    if_false, Option.pure_def, Option.bind_eq_bind, Option.some_bind]
  rw [sextets_recombine _ (by omega), quantumBytes_eq]

/-- 2 byte の最後の群の 3 文字と `=` は、その 2 byte に復号される。 -/
theorem decodeQuantum_two (a b : UInt8) :
    decodeQuantum (alphabet ((a.toNat * 65536 + b.toNat * 256) / 262144 % 64))
      (alphabet ((a.toNat * 65536 + b.toNat * 256) / 4096 % 64))
      (alphabet ((a.toNat * 65536 + b.toNat * 256) / 64 % 64)) pad true = some [a, b] := by
  have : a.toNat < 256 := a.toNat_lt_size
  have : b.toNat < 256 := b.toNat_lt_size
  simp only [decodeQuantum, alphabetIndex_digit, alphabet_digit_ne_pad, false_and, and_false,
    if_false, true_and, and_true, if_true, Option.pure_def, Option.bind_eq_bind, Option.some_bind]
  rw [show (a.toNat * 65536 + b.toNat * 256) / 262144 % 64 * 262144 +
      (a.toNat * 65536 + b.toNat * 256) / 4096 % 64 * 4096 +
      (a.toNat * 65536 + b.toNat * 256) / 64 % 64 * 64 =
      a.toNat * 65536 + b.toNat * 256 + (0 : UInt8).toNat by rw [UInt8.toNat_zero]; omega,
    quantumBytes_eq]
  rfl

/-- 1 byte の最後の群の 2 文字と `==` は、その 1 byte に復号される。 -/
theorem decodeQuantum_one (a : UInt8) :
    decodeQuantum (alphabet (a.toNat * 65536 / 262144 % 64))
      (alphabet (a.toNat * 65536 / 4096 % 64)) pad pad true = some [a] := by
  have : a.toNat < 256 := a.toNat_lt_size
  simp only [decodeQuantum, alphabetIndex_digit, true_and, if_true, Option.pure_def,
    Option.bind_eq_bind, Option.some_bind]
  rw [show a.toNat * 65536 / 262144 % 64 * 262144 + a.toNat * 65536 / 4096 % 64 * 4096 =
      a.toNat * 65536 + (0 : UInt8).toNat * 256 + (0 : UInt8).toNat by rw [UInt8.toNat_zero]; omega,
    quantumBytes_eq]
  rfl

theorem rfcDecode_rfcEncode : ∀ data : Bytes, rfcDecode (rfcEncode data) = some data
  | a :: b :: c :: rest => by
    show rfcDecode (_ :: _ :: _ :: _ :: rfcEncode rest) = _
    rw [rfcDecode, decodeQuantum_three, rfcDecode_rfcEncode rest]
    rfl
  | [a, b] => by
    show rfcDecode [_, _, _, pad] = _
    rw [rfcDecode, List.isEmpty_nil, decodeQuantum_two]
    rfl
  | [a] => by
    show rfcDecode [_, _, pad, pad] = _
    rw [rfcDecode, List.isEmpty_nil, decodeQuantum_one]
    rfl
  | [] => rfl

/-- **`base64Encode` は RFC 4648 の base64 である。** どの長さの byte 列でも、RFC 4648 §4 の
符号化と一致し、長さは `4 * ceil(n / 3)`、RFC の復号で元に戻る。`Sec-WebSocket-Key` は
乱数の 16 byte から作る 24 文字で、その 16 byte に復号される。 -/
theorem base64Encode_rfc4648 :
    (∀ data : Bytes, base64Encode data = rfcEncode data ∧
      (base64Encode data).length = 4 * ((data.length + 2) / 3) ∧
      rfcDecode (base64Encode data) = some data) ∧
    ∀ key : Fin 16 → UInt8, (generateWebSocketKey key).length = 24 ∧
      rfcDecode (generateWebSocketKey key) = some (List.ofFn key) := by
  have h : ∀ data : Bytes, base64Encode data = rfcEncode data ∧
      (base64Encode data).length = 4 * ((data.length + 2) / 3) ∧
      rfcDecode (base64Encode data) = some data := fun data => by
    rw [base64Encode_eq_rfcEncode]
    exact ⟨rfl, rfcEncode_length data, rfcDecode_rfcEncode data⟩
  refine ⟨h, fun key => ⟨?_, (h _).2.2⟩⟩
  rw [generateWebSocketKey, (h _).2.1, List.length_ofFn]

end Gg.Ws
