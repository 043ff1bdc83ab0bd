import Gg.Json.Roundtrip

/-!
# 文字列の `\u` escape と UTF-8

`parseString` が `\uXXXX` を書く byte 列（`part_005` 218–242 行）を、RFC 3629 §3 の UTF-8 と比べる。

## 仕組み

`utf8Bytes` は code point を 3 byte までで書く。4 桁の escape の値は 0xFFFF までなので、escape
一つを見れば RFC 3629 の符号化 `utf8Encode` と同じ byte 列になる（`utf8Bytes_eq_utf8Encode`）。
ビット演算は、重ならない bit の論理和が足し算になること（`or_eq_add`）で算術に直す。

RFC 8259 §7 では、基本多言語面の外の文字はサロゲートの組 `\uD83D\uDE00` で書く。組は一つの
code point を表し、UTF-8 では 4 byte になる。parser は二つの escape を別々に 3 byte ずつ書く
（CESU-8 の形）。`parseString_surrogate_pair` は、どの組でも読んだ文字列が 6 byte になり、
表す code point の 4 byte と違うことを示す。
-/

namespace Gg

open Gg.Ws

namespace Json

/-- RFC 3629 §3 の UTF-8。code point `cp` を、0x80 未満は 1 byte、0x800 未満は 2 byte、
0x10000 未満は 3 byte、それより上は 4 byte にする。 -/
def utf8Encode (cp : Nat) : Bytes :=
  if cp < 0x80 then [cp.toUInt8]
  else if cp < 0x800 then [(0xC0 + cp / 64).toUInt8, (0x80 + cp % 64).toUInt8]
  else if cp < 0x10000 then
    [(0xE0 + cp / 4096).toUInt8, (0x80 + cp / 64 % 64).toUInt8, (0x80 + cp % 64).toUInt8]
  else
    [(0xF0 + cp / 262144).toUInt8, (0x80 + cp / 4096 % 64).toUInt8, (0x80 + cp / 64 % 64).toUInt8,
      (0x80 + cp % 64).toUInt8]

/-- サロゲートの組 `hi`, `lo` が表す code point。 -/
def surrogatePair (hi lo : Nat) : Nat := 0x10000 + ((hi - 0xD800) <<< 10) + (lo - 0xDC00)

/-! ## 一つの escape -/

theorem hexValue_lt {c : UInt8} {v : Nat} (h : hexValue c = some v) : v < 16 := by
  unfold hexValue at h
  split_ifs at h with h1 h2 h3 <;> cases h
  · have : c.toNat ≤ 57 := h1.2; omega
  · have : c.toNat ≤ 102 := h2.2; omega
  · have : c.toNat ≤ 70 := h3.2; omega

theorem hexQuad_lt {a b c e : UInt8} {cp : Nat} (h : hexQuad a b c e = some cp) : cp < 0x10000 := by
  simp only [hexQuad, Option.pure_def, Option.bind_eq_bind, Option.bind_eq_some,
    Option.some.injEq] at h
  obtain ⟨a', ha, b', hb, c', hc, e', he, rfl⟩ := h
  have := hexValue_lt ha; have := hexValue_lt hb; have := hexValue_lt hc; have := hexValue_lt he
  omega

/-- 重ならない bit の論理和は足し算。 -/
theorem or_eq_add (p k x : Nat) (hx : x < 2 ^ k) : 2 ^ k * p ||| x = 2 ^ k * p + x :=
  (Nat.mul_add_lt_is_or hx p).symm

/-- 継続 byte `10xxxxxx`。 -/
theorem continuation_eq (m : Nat) : 0x80 ||| (m &&& 0x3F) = 0x80 + m % 64 := by
  rw [show (0x3F : Nat) = 2 ^ 6 - 1 from rfl, Nat.and_pow_two_sub_one_eq_mod,
    show (0x80 : Nat) = 2 ^ 6 * 2 from rfl, or_eq_add 2 6 _ (Nat.mod_lt _ (by omega))]
  rfl

/-- 0xFFFF までの code point では、`utf8Bytes` は RFC 3629 の UTF-8。 -/
theorem utf8Bytes_eq_utf8Encode (cp : Nat) (h : cp < 0x10000) : utf8Bytes cp = utf8Encode cp := by
  unfold utf8Bytes utf8Encode
  by_cases h1 : cp < 0x80
  · rw [if_pos h1, if_pos h1]
  by_cases h2 : cp < 0x800
  · rw [if_neg h1, if_pos h2, if_neg h1, if_pos h2, continuation_eq, Nat.shiftRight_eq_div_pow,
      show (0xC0 : Nat) = 2 ^ 5 * 6 from rfl,
      or_eq_add 6 5 _ (Nat.div_lt_of_lt_mul (by omega))]
  · rw [if_neg h1, if_neg h2, if_neg h1, if_neg h2, if_pos h, continuation_eq, continuation_eq,
      Nat.shiftRight_eq_div_pow, Nat.shiftRight_eq_div_pow,
      show (0xE0 : Nat) = 2 ^ 4 * 14 from rfl, or_eq_add 14 4 _ (Nat.div_lt_of_lt_mul (by omega))]

/-- **`\uXXXX` の escape は、その code point の RFC 3629 の UTF-8 を足す。** -/
theorem parseStringBody_unicode_utf8 (result : Bytes) {a b c e : UInt8} {cp : Nat}
    (h : hexQuad a b c e = some cp) (rest : Bytes) :
    parseStringBody result (byte '\\' :: byte 'u' :: a :: b :: c :: e :: rest) =
      parseStringBody (result ++ utf8Encode cp) rest := by
  rw [parseStringBody_unicode, h]
  dsimp only
  rw [utf8Bytes_eq_utf8Encode cp (hexQuad_lt h)]

/-- `"` で始まる値は `parseString` が読む。 -/
theorem parseValue_quote (d : DoubleText) (fuel : Nat) (t : Bytes) :
    parseValue d (fuel + 1) (byte '"' :: t) = parseString (byte '"' :: t) := by
  rw [parseValue.eq_2, @skipWhitespace_of_peek (byte '"' :: t) rfl]; rfl

/-- 文字列一つだけの入力を `Json::parse` は `parseString` の値として返す。 -/
theorem parse_quote (d : DoubleText) {t : Bytes} {v : Json}
    (h : parseString (byte '"' :: t) = .ok (v, [])) : parse d (byte '"' :: t) = some v := by
  unfold parse
  rw [@skipWhitespace_of_peek (byte '"' :: t) rfl,
    show 3 * (byte '"' :: t).length + 3 = (3 * (byte '"' :: t).length + 2) + 1 from rfl]
  dsimp only
  rw [parseValue_quote, h]
  rfl

/-! ## サロゲートの組 -/

theorem utf8Encode_length_three {cp : Nat} (h1 : 0x800 ≤ cp) (h2 : cp < 0x10000) :
    (utf8Encode cp).length = 3 := by
  rw [utf8Encode, if_neg (by omega), if_neg (by omega), if_pos h2]
  rfl

theorem utf8Encode_length_four {cp : Nat} (h : 0x10000 ≤ cp) : (utf8Encode cp).length = 4 := by
  rw [utf8Encode, if_neg (by omega), if_neg (by omega), if_neg (by omega)]
  rfl

/-- **サロゲートの組は 6 byte に読まれる。** `\uD800`–`\uDBFF` の直後に `\uDC00`–`\uDFFF` が来る
文字列を、parser は二つの escape を別々に UTF-8 にした 6 byte として読む。組が表す code point
の UTF-8 は 4 byte である。 -/
theorem parseString_surrogate_pair (h1 h2 h3 h4 l1 l2 l3 l4 : UInt8) {hi lo : Nat} (rest : Bytes)
    (hhi : hexQuad h1 h2 h3 h4 = some hi) (hlo : hexQuad l1 l2 l3 l4 = some lo)
    (hh : 0xD800 ≤ hi ∧ hi ≤ 0xDBFF) (hl : 0xDC00 ≤ lo ∧ lo ≤ 0xDFFF) :
    (∀ d : DoubleText, parse d (byte '"' :: byte '\\' :: byte 'u' :: h1 :: h2 :: h3 :: h4 ::
        byte '\\' :: byte 'u' :: l1 :: l2 :: l3 :: l4 :: [byte '"']) =
      some (.string (utf8Encode hi ++ utf8Encode lo))) ∧
    parseString (byte '"' :: byte '\\' :: byte 'u' :: h1 :: h2 :: h3 :: h4 ::
        byte '\\' :: byte 'u' :: l1 :: l2 :: l3 :: l4 :: byte '"' :: rest) =
      .ok (.string (utf8Encode hi ++ utf8Encode lo), rest) ∧
    (utf8Encode hi ++ utf8Encode lo).length = 6 ∧ (utf8Encode (surrogatePair hi lo)).length = 4 := by
  have hstr : ∀ rest : Bytes, parseString (byte '"' :: byte '\\' :: byte 'u' :: h1 :: h2 :: h3 :: h4 ::
      byte '\\' :: byte 'u' :: l1 :: l2 :: l3 :: l4 :: byte '"' :: rest) =
      .ok (.string (utf8Encode hi ++ utf8Encode lo), rest) := fun rest => by
    have hbody : parseStringBody [] (byte '\\' :: byte 'u' :: h1 :: h2 :: h3 :: h4 ::
        byte '\\' :: byte 'u' :: l1 :: l2 :: l3 :: l4 :: byte '"' :: rest) =
        .ok (utf8Encode hi ++ utf8Encode lo, rest) := by
      rw [parseStringBody_unicode_utf8 _ hhi, parseStringBody_unicode_utf8 _ hlo, List.nil_append,
        parseStringBody.eq_def]
      rfl
    simp only [parseString, peek, ne_eq, not_true_eq_false, if_false, List.tail_cons, hbody]
    rfl
  refine ⟨fun d => parse_quote d (hstr []), hstr rest, ?_,
    utf8Encode_length_four (by unfold surrogatePair; omega)⟩
  rw [List.length_append, utf8Encode_length_three (by omega) (by omega),
    utf8Encode_length_three (by omega) (by omega)]

/-- `"\uD83D\uDE00"`（U+1F600）。 -/
theorem parseString_surrogate_pair_grinning :
    hexQuad (byte 'D') (byte '8') (byte '3') (byte 'D') = some 0xD83D ∧
      hexQuad (byte 'D') (byte 'E') (byte '0') (byte '0') = some 0xDE00 ∧
      (0xD800 ≤ 0xD83D ∧ 0xD83D ≤ 0xDBFF) ∧ (0xDC00 ≤ 0xDE00 ∧ 0xDE00 ≤ 0xDFFF) ∧
      (∀ d : DoubleText, parse d (ascii "\"\\uD83D\\uDE00\"") =
        some (.string (utf8Encode 0xD83D ++ utf8Encode 0xDE00))) ∧
      parseString (ascii "\"\\uD83D\\uDE00\"") =
        .ok (.string (utf8Encode 0xD83D ++ utf8Encode 0xDE00), []) ∧
      (utf8Encode 0xD83D ++ utf8Encode 0xDE00).length = 6 ∧
      (utf8Encode (surrogatePair 0xD83D 0xDE00)).length = 4 :=
  ⟨rfl, rfl, by decide, by decide,
    parseString_surrogate_pair (byte 'D') (byte '8') (byte '3') (byte 'D') (byte 'D') (byte 'E')
      (byte '0') (byte '0') [] rfl rfl (by decide) (by decide)⟩

example : utf8Encode 0xD83D ++ utf8Encode 0xDE00 = [0xED, 0xA0, 0xBD, 0xED, 0xB8, 0x80] ∧
    utf8Encode (surrogatePair 0xD83D 0xDE00) = [0xF0, 0x9F, 0x98, 0x80] := by decide

end Json

end Gg
