import Gg.Json.Parse

/-!
# `stringify` と `parse` の往復

## 仕組み

往復は三段で示す。

1. 一つの byte の escape を読み戻す（`parseStringBody_escapeChar`）。それを並べて文字列にする
   （`parseString_escapeString`）。
2. 数の出力を読み戻す。`std::hex` の下で書いた整数は 16 進になるので、読み戻せるのは
   0 から 9 までである（`writeNumber_of_hexSafe`）。`NaN` と無限大は `null` と書かれ、
   読み戻すと `Null` になるので、往復するのは有限な数だけである（`NumberReads`）。
3. 値を木の形に沿って読み戻す（`parseValue_stringifyImpl`）。

`hexSafe` は、書いている間に `std::hex` が立った後の整数がどれも 0 から 9 までであることを言う。
これが崩れると往復しない（`stringify_hex_breaks_parse`）。
-/

namespace Gg

open Gg.Ws

namespace Json

/-! ## 文字列 -/

theorem hexValue_digitChar : ∀ d, d < 16 → hexValue (digitChar d) = some d := by decide

theorem hexValue_zero : hexValue (byte '0') = some 0 := rfl

/-- 制御文字の `\u` の後の 4 桁は `00` と、16 進の二桁。 -/
theorem hex4_of_lt {c : UInt8} (h : c < 0x20) :
    hex4 c = [byte '0', byte '0', digitChar (c.toNat / 16), digitChar (c.toNat % 16)] := by
  have hn : c.toNat < 32 := h
  unfold hex4 showNat
  rcases Nat.lt_or_ge c.toNat 16 with hlt | hge
  · rcases Nat.eq_zero_or_pos c.toNat with h0 | hpos
    · rw [h0]; rfl
    · rw [if_neg hpos.ne', Nat.digits_of_lt 16 _ hpos.ne' hlt, Nat.div_eq_of_lt hlt,
        Nat.mod_eq_of_lt hlt]
      rfl
  · have hdiv : c.toNat / 16 = 1 := by omega
    rw [if_neg (by omega), Nat.digits_def' (by norm_num) (by omega), hdiv,
      Nat.digits_of_lt 16 1 one_ne_zero (by norm_num)]
    rfl

/-- `\u` と 4 桁を読むと、その codepoint の UTF-8 を足す。 -/
theorem parseStringBody_unicode (result : Bytes) (a b c e : UInt8) (rest : Bytes) :
    parseStringBody result (byte '\\' :: byte 'u' :: a :: b :: c :: e :: rest) =
      match hexQuad a b c e with
      | some cp => parseStringBody (result ++ utf8Bytes cp) rest
      | none => .error .nullopt := by
  simp only [parseStringBody]; rfl

/-- 一つの byte の escape を読むと、その byte が `result` に足される。 -/
theorem parseStringBody_escapeChar (hex : Bool) (c : UInt8) (result more : Bytes) :
    parseStringBody result ((escapeChar hex c).1 ++ more) = parseStringBody (result ++ [c]) more := by
  -- `\"` から `\t` までの短い escape
  by_cases h1 : c = byte '"'
  · subst c; rw [parseStringBody.eq_def]; rfl
  by_cases h2 : c = byte '\\'
  · subst c; rw [parseStringBody.eq_def]; rfl
  by_cases h3 : c = 0x08
  · subst c; rw [parseStringBody.eq_def]; rfl
  by_cases h4 : c = 0x0C
  · subst c; rw [parseStringBody.eq_def]; rfl
  by_cases h5 : c = 0x0A
  · subst c; rw [parseStringBody.eq_def]; rfl
  by_cases h6 : c = 0x0D
  · subst c; rw [parseStringBody.eq_def]; rfl
  by_cases h7 : c = 0x09
  · subst c; rw [parseStringBody.eq_def]; rfl
  rw [escapeChar, if_neg h1, if_neg h2, if_neg h3, if_neg h4, if_neg h5, if_neg h6, if_neg h7]
  by_cases h8 : c < 0x20
  · -- `\uXXXX`
    have h32 : c.toNat < 32 := h8
    have hq : hexQuad (byte '0') (byte '0') (digitChar (c.toNat / 16))
        (digitChar (c.toNat % 16)) = some c.toNat := by
      simp only [hexQuad, hexValue_zero, hexValue_digitChar _ (by omega : c.toNat / 16 < 16),
        hexValue_digitChar _ (Nat.mod_lt _ (by norm_num) : c.toNat % 16 < 16), Option.bind_eq_bind,
        Option.some_bind, Option.pure_def, Option.some.injEq]
      omega
    have hu : utf8Bytes c.toNat = [c] := by
      simp [utf8Bytes, show c.toNat < 128 by omega]
    rw [if_pos h8, hex4_of_lt h8]
    show parseStringBody result (byte '\\' :: byte 'u' :: _ :: _ :: _ :: _ :: more) = _
    rw [parseStringBody_unicode, hq]
    exact congrArg (parseStringBody · more) (congrArg (result ++ ·) hu)
  · -- そのまま書いた byte
    rw [if_neg h8]
    show parseStringBody result (c :: more) = _
    rw [parseStringBody.eq_def]
    simp only [if_neg h1, if_neg h2, if_neg h8]

/-- escape した byte 列を読むと、元の byte 列が `result` に足される。 -/
theorem parseStringBody_escapeBody (hex : Bool) (s result more : Bytes) :
    parseStringBody result ((escapeBody hex s).1 ++ more) = parseStringBody (result ++ s) more := by
  induction s generalizing hex result with
  | nil => simp
  | cons c cs ih =>
    rw [escapeBody_cons, List.append_assoc, parseStringBody_escapeChar, ih, List.append_assoc,
      List.singleton_append]

/-- **文字列の往復。** どんな byte 列も、escape して書いたものを読むと元に戻る。 -/
theorem parseString_escapeString (hex : Bool) (s rest : Bytes) :
    parseString ((escapeString hex s).1 ++ rest) = .ok (.string s, rest) := by
  have hbody : parseStringBody [] ((escapeBody hex s).1 ++ byte '"' :: rest) = .ok (s, rest) := by
    rw [parseStringBody_escapeBody, List.nil_append, parseStringBody.eq_def]; rfl
  simp only [parseString, escapeString_eq, List.cons_append, List.append_assoc,
    List.singleton_append, List.nil_append, peek, List.tail_cons, ne_eq, not_true_eq_false,
    if_false, hbody]
  rfl

/-! ## 数 -/

/-- 数の後に来てよい残り。整数部、小数部、指数部のどれも続けられない。 -/
def numberEnd (rest : Bytes) : Bool :=
  !isDigit (peek rest) && peek rest != byte '.' && peek rest != byte 'e' && peek rest != byte 'E'

/-- `std::strtod` が 1e15 未満の整数の十進表記を正確に読むこと。`double` は 2^53 までの整数を
正確に表すので、標準ライブラリはこれを満たす。 -/
def IntReads (d : DoubleText) : Prop :=
  ∀ n : Int, isSmallInt n = true → d.strtod (writeInt64 false n) = some (.finite n)

/-- `%.17g` の出力が数の文法の一語で、`std::strtod` がそれを `x` に読み戻すこと。有限な
`double` では 17 桁あれば足りる。 -/
def Show17Reads (d : DoubleText) (x : ℚ) : Prop :=
  (∀ rest, numberEnd rest = true → scanNumber (d.show17 x ++ rest) = .ok (d.show17 x, rest)) ∧
    d.strtod (d.show17 x) = some (.finite x)

/-- `stringifyImpl` が書いた数を `parseNumber` が読み戻せること。`NaN` と無限大は `null` と
書かれるので読み戻せない。有限な値は、`%.17g` で書くなら `Show17Reads`。 -/
def NumberReads (d : DoubleText) : Double → Prop
  | .finite x => isSmallInt x = false → Show17Reads d x
  | _ => False

theorem digitChar_isDigit : ∀ d, d < 10 → isDigit (digitChar d) = true := by decide

theorem digitChar_ne_minus : ∀ d, d < 10 → digitChar d ≠ byte '-' := by decide

theorem digitChar_nonzero : ∀ d, d < 10 → 1 ≤ d →
    digitChar d ≠ byte '0' ∧ byte '1' ≤ digitChar d ∧ digitChar d ≤ byte '9' := by decide

/-- 十進で書いた自然数は、`0` 一つか、`1`–`9` で始まる数字の並び。 -/
theorem showNat_ten (n : Nat) :
    showNat 10 n = [byte '0'] ∨
      ∃ d ds, showNat 10 n = digitChar d :: ds ∧ d < 10 ∧ 1 ≤ d ∧ ∀ c ∈ ds, isDigit c = true := by
  unfold showNat
  split_ifs with h0
  · exact .inl rfl
  · have hne : Nat.digits 10 n ≠ [] := Nat.digits_ne_nil_iff_ne_zero.2 h0
    have hlast := Nat.getLast_digit_ne_zero 10 h0
    have hlt : ∀ c ∈ Nat.digits 10 n, c < 10 := fun c hc => Nat.digits_lt_base (by norm_num) hc
    refine .inr ⟨_, (Nat.digits 10 n).dropLast.reverse.map digitChar, ?_,
      hlt _ (List.getLast_mem hne), Nat.one_le_iff_ne_zero.2 hlast, ?_⟩
    · conv_lhs => rw [← List.dropLast_append_getLast hne]
      simp
    · simp only [List.mem_map, List.mem_reverse]
      rintro _ ⟨c, hc, rfl⟩
      exact digitChar_isDigit c (hlt c (List.dropLast_subset _ hc))

theorem span_isDigit_append {l rest : Bytes} (hl : ∀ c ∈ l, isDigit c = true)
    (hr : isDigit (peek rest) = false) : (l ++ rest).span isDigit = (l, rest) := by
  rw [List.span_eq_take_drop, List.takeWhile_append_of_pos hl, List.dropWhile_append_of_pos hl]
  cases rest with
  | nil => simp
  | cons c r => simp [List.takeWhile_cons, List.dropWhile_cons, show isDigit c = false from hr]

theorem scanInt_showNat (n : Nat) {rest : Bytes} (hr : isDigit (peek rest) = false) :
    scanInt (showNat 10 n ++ rest) = .ok (showNat 10 n, rest) := by
  rcases showNat_ten n with h | ⟨d, ds, h, hd, h1, hds⟩
  · rw [h]; rfl
  · obtain ⟨hne, hlo, hhi⟩ := digitChar_nonzero d hd h1
    have hall : ∀ c ∈ digitChar d :: ds, isDigit c = true := by
      simpa [digitChar_isDigit d hd] using hds
    rw [h, scanInt, ← span_isDigit_append hall hr]
    simp [peek, hne, hlo, hhi]

theorem scanFrac_of_numberEnd {rest : Bytes} (h : numberEnd rest = true) :
    scanFrac rest = .ok ([], rest) := by
  simp only [numberEnd, Bool.and_eq_true, bne_iff_ne] at h
  simp [scanFrac, h.1.1.2]

theorem scanExp_of_numberEnd {rest : Bytes} (h : numberEnd rest = true) :
    scanExp rest = .ok ([], rest) := by
  simp only [numberEnd, Bool.and_eq_true, bne_iff_ne] at h
  simp [scanExp, h.1.2, h.2]

/-- 十進で書いた整数は、数の文法でちょうどその長さだけ読まれる。 -/
theorem scanNumber_writeInt64 (n : Int) {rest : Bytes} (hend : numberEnd rest = true) :
    scanNumber (writeInt64 false n ++ rest) = .ok (writeInt64 false n, rest) := by
  have hr : isDigit (peek rest) = false := by
    simp only [numberEnd, Bool.and_eq_true, Bool.not_eq_true'] at hend
    exact hend.1.1.1
  have hsign : scanSign (showNat 10 n.natAbs ++ rest) = ([], showNat 10 n.natAbs ++ rest) := by
    rcases showNat_ten n.natAbs with h | ⟨d, ds, h, hd, -, -⟩
    · rw [h]; rfl
    · simp [h, scanSign, peek, digitChar_ne_minus d hd]
  rw [writeInt64, if_neg Bool.false_ne_true]
  split_ifs
  · simp [scanNumber, scanSign, peek, scanInt_showNat _ hr, scanFrac_of_numberEnd hend,
      scanExp_of_numberEnd hend, bind, Except.bind, pure, Except.pure]
  · simp [scanNumber, hsign, scanInt_showNat _ hr, scanFrac_of_numberEnd hend,
      scanExp_of_numberEnd hend, bind, Except.bind, pure, Except.pure]

/-! ## `std::hex` の下で書く数 -/

mutual
/-- `hex` から書き始めて、`std::hex` が立っている間に書く 1e15 未満の整数が、どれも 0 から 9
まで。 -/
def hexSafe : Bool → Json → Bool
  | hex, .number (.finite x) => !hex || !isSmallInt x || decide (0 ≤ x ∧ x ≤ 9)
  | hex, .array items => itemsHexSafe hex items
  | hex, .object fields => fieldsHexSafe hex fields
  | _, _ => true

def itemsHexSafe : Bool → List Json → Bool
  | _, [] => true
  | hex, x :: xs => hexSafe hex x && itemsHexSafe (hex || escapesUnicode x) xs

def fieldsHexSafe : Bool → List (Bytes × Json) → Bool
  | _, [] => true
  | hex, (k, v) :: rest =>
    hexSafe (hex || k.any needsUnicodeEscape) v &&
      fieldsHexSafe (hex || k.any needsUnicodeEscape || escapesUnicode v) rest
end

mutual
/-- 値に現れる数。 -/
def numbers : Json → List Double
  | .number x => [x]
  | .array items => itemsNumbers items
  | .object fields => fieldsNumbers fields
  | _ => []

def itemsNumbers : List Json → List Double
  | [] => []
  | x :: xs => numbers x ++ itemsNumbers xs

def fieldsNumbers : List (Bytes × Json) → List Double
  | [] => []
  | (_, v) :: rest => numbers v ++ fieldsNumbers rest
end

theorem showNat_hex_eq_ten {n : Nat} (h : n < 10) : showNat 16 n = showNat 10 n := by
  unfold showNat
  split_ifs with h0
  · rfl
  · rw [Nat.digits_of_lt 16 n h0 (by omega), Nat.digits_of_lt 10 n h0 h]

/-- `isSmallInt` な数は整数である。 -/
theorem num_of_isSmallInt {x : ℚ} (hs : isSmallInt x = true) : (x.num : ℚ) = x :=
  Rat.coe_int_num_of_den_eq_one (of_decide_eq_true hs).1

/-- 0 から 9 までの整数は、`std::hex` の下でも十進と同じに書かれる。`null` は基数を読まない。 -/
theorem writeNumber_of_hexSafe (d : DoubleText) {hex : Bool} {x : Double}
    (h : hexSafe hex (.number x) = true) : writeNumber d hex x = writeNumber d false x := by
  cases hex with
  | false => rfl
  | true =>
    rcases x with x | _ | _
    case inf | nan => rfl
    rw [writeNumber_finite, writeNumber_finite]
    split_ifs with hs
    · simp only [hexSafe, hs, Bool.not_true, Bool.false_or, decide_eq_true_eq] at h
      have hx := num_of_isSmallInt hs
      have h0 : 0 ≤ x.num := by exact_mod_cast hx ▸ h.1
      have h9 : x.num ≤ 9 := by exact_mod_cast hx ▸ h.2
      have hmod : (x.num % 2 ^ 64).toNat = x.num.natAbs := by
        rw [Int.emod_eq_of_lt h0 (by omega)]; omega
      simp only [writeInt64, if_true, hmod, Bool.false_eq_true, if_false, if_neg (not_lt.2 h0)]
      exact showNat_hex_eq_ten (by omega)
    · rfl

/-- 数の往復。十進で書いた整数も、`%.17g` で書いた値も、数の後が `numberEnd` なら読み戻せる。 -/
theorem parseNumber_writeNumber (d : DoubleText) (hint : IntReads d) {x : Double}
    (h17 : NumberReads d x) {rest : Bytes} (hend : numberEnd rest = true) :
    parseNumber d (writeNumber d false x ++ rest) = .ok (.number x, rest) := by
  rcases x with x | _ | _
  case inf | nan => exact h17.elim
  rw [writeNumber_finite]
  split_ifs with hs
  · have hx := num_of_isSmallInt hs
    have hread : d.strtod (writeInt64 false x.num) = some (.finite x) := by
      rw [hint x.num (by rw [hx]; exact hs), hx]
    simp [parseNumber, scanNumber_writeInt64 _ hend, hread, bind, Except.bind, pure, Except.pure]
  · obtain ⟨hscan, hread⟩ := h17 (by simpa using hs)
    simp [parseNumber, hscan rest hend, hread, bind, Except.bind, pure, Except.pure]

/-! ## 空白と値の始まり -/

theorem skipWhitespace_of_peek {s : Bytes} (h : isWhitespace (peek s) = false) :
    skipWhitespace s = s := by
  cases s with
  | nil => rfl
  | cons c r => simp [skipWhitespace, List.dropWhile_cons, show isWhitespace c = false from h]

theorem skipWhitespace_append_of_ws {w : Bytes} (h : ∀ c ∈ w, isWhitespace c = true) (s : Bytes) :
    skipWhitespace (w ++ s) = skipWhitespace s :=
  List.dropWhile_append_of_pos h

theorem replicate_space_ws (n : Nat) : ∀ c ∈ List.replicate n (byte ' '), isWhitespace c = true := by
  intro c hc
  rw [List.eq_of_mem_replicate hc]
  rfl

/-- `pretty` の改行と字下げは空白だけ。 -/
theorem separator_true_ws (pretty : Bool) (indent : Nat) :
    ∀ c ∈ separator pretty true indent, isWhitespace c = true := by
  cases pretty
  · simp [separator]
  · simp [separator, isWhitespace, replicate_space_ws _]

theorem separator_false (pretty : Bool) (indent : Nat) :
    separator pretty false indent = byte ',' :: separator pretty true indent := by
  simp [separator]

theorem closing_ws (pretty : Bool) (size indent : Nat) :
    ∀ c ∈ closing pretty size indent, isWhitespace c = true := by
  unfold closing
  split_ifs
  · simp [isWhitespace, replicate_space_ws _]
  · simp

/-- 数の文法で読めるなら、先頭は `-` か数字。 -/
theorem scanNumber_ok_peek {s : Bytes} {r : Bytes × Bytes} (h : scanNumber s = .ok r) :
    peek s = byte '-' ∨ isDigit (peek s) = true := by
  by_cases hm : peek s = byte '-'
  · exact .inl hm
  · refine .inr ?_
    obtain ⟨r', hr'⟩ : ∃ r', scanInt s = .ok r' := by
      unfold scanNumber scanSign at h
      rw [if_neg hm] at h
      cases hsi : scanInt s with
      | error e => simp [hsi, bind, Except.bind] at h
      | ok r' => exact ⟨r', rfl⟩
    unfold scanInt at hr'
    split_ifs at hr' with h0 h19
    · rw [h0]; rfl
    · have h0' : byte '0' ≤ peek s := UInt8.le_trans (by decide) h19.1
      simp [isDigit, h0', h19.2]

/-- `%.17g` の出力は `-` か数字で始まる。 -/
theorem Show17Reads.head {d : DoubleText} {x : ℚ} (h : Show17Reads d x) :
    ∃ c t, d.show17 x = c :: t ∧ (c = byte '-' ∨ isDigit c = true) := by
  have hp := scanNumber_ok_peek (by simpa using h.1 [] rfl)
  cases hx : d.show17 x with
  | nil => rw [hx] at hp; exact absurd hp (by decide)
  | cons c t => rw [hx] at hp; exact ⟨c, t, rfl, hp⟩

/-- 十進で書いた数も `-` か数字で始まる。 -/
theorem writeNumber_head (d : DoubleText) {x : Double} (h17 : NumberReads d x) :
    ∃ c t, writeNumber d false x = c :: t ∧ (c = byte '-' ∨ isDigit c = true) := by
  rcases x with x | _ | _
  case inf | nan => exact h17.elim
  rw [writeNumber_finite]
  split_ifs with hs
  · simp only [writeInt64, Bool.false_eq_true, if_false]
    split_ifs
    · exact ⟨_, _, rfl, .inl rfl⟩
    · rcases showNat_ten x.num.natAbs with h | ⟨d, ds, h, hd, -, -⟩
      · exact ⟨_, _, h, .inr rfl⟩
      · exact ⟨_, _, h, .inr (digitChar_isDigit d hd)⟩
  · exact (h17 (by simpa using hs)).head

theorem numberStart_not : ∀ c : UInt8, (c = byte '-' ∨ isDigit c = true) →
    isWhitespace c = false ∧ c ≠ byte ']' ∧ c ≠ byte 'n' ∧ ¬(c = byte 't' ∨ c = byte 'f') ∧
      c ≠ byte '"' ∧ c ≠ byte '[' ∧ c ≠ byte '{' := by
  rintro c (rfl | hc)
  · decide
  · have ne : ∀ k, isDigit k = false → c ≠ k := by rintro k hk rfl; rw [hc] at hk; cases hk
    refine ⟨?_, ne _ (by decide), ne _ (by decide), ?_, ne _ (by decide), ne _ (by decide),
      ne _ (by decide)⟩
    · cases hw : isWhitespace c
      · rfl
      · simp only [isWhitespace, Bool.or_eq_true, decide_eq_true_eq] at hw
        rcases hw with ((h | h) | h) | h <;> exact absurd h (ne _ (by decide))
    · rintro (h | h) <;> exact ne _ (by decide) h

/-- 値の書き出しは、空白でも `]` でもない byte で始まる。 -/
theorem stringifyImpl_head (d : DoubleText) (pretty : Bool) {v : Json} (indent : Nat) {hex : Bool}
    (hsafe : hexSafe hex v = true) (h17 : ∀ x ∈ numbers v, NumberReads d x) :
    ∃ c t, (stringifyImpl d pretty v indent hex).1 = c :: t ∧
      isWhitespace c = false ∧ c ≠ byte ']' := by
  cases v with
  | number x =>
    obtain ⟨c, t, h, hc⟩ := writeNumber_head d (h17 x (by simp [numbers]))
    refine ⟨c, t, ?_, (numberStart_not c hc).1, (numberStart_not c hc).2.1⟩
    show writeNumber d hex x = _
    rw [writeNumber_of_hexSafe d hsafe, h]
  | bool b => cases b <;> exact ⟨_, _, rfl, rfl, by decide⟩
  | string s =>
    exact ⟨byte '"', _, by rw [stringifyImpl, escapeString_eq, List.cons_append], rfl, by decide⟩
  | null => exact ⟨_, _, rfl, rfl, by decide⟩
  | array items => exact ⟨_, _, stringifyImpl_array d pretty items indent hex, rfl, by decide⟩
  | object fields => exact ⟨_, _, stringifyImpl_object d pretty fields indent hex, rfl, by decide⟩

/-- 数の始まりでは、`parseValue` は `parseNumber` に渡す。 -/
theorem parseValue_number (d : DoubleText) (fuel : Nat) {c : UInt8} (t : Bytes)
    (hc : c = byte '-' ∨ isDigit c = true) :
    parseValue d (fuel + 1) (c :: t) = parseNumber d (c :: t) := by
  obtain ⟨hws, -, hn, htf, hq, hl, hb⟩ := numberStart_not c hc
  rw [parseValue.eq_2, @skipWhitespace_of_peek (c :: t) hws]
  simp only [peek, if_neg hn, if_neg htf, if_neg hq, if_neg hl, if_neg hb, if_pos hc]

theorem parseValue_append_ws (d : DoubleText) (fuel : Nat) {w : Bytes}
    (hw : ∀ c ∈ w, isWhitespace c = true) (s : Bytes) :
    parseValue d fuel (w ++ s) = parseValue d fuel s := by
  cases fuel with
  | zero => rfl
  | succ fuel => rw [parseValue.eq_2, parseValue.eq_2, skipWhitespace_append_of_ws hw]

theorem parseElements_append_ws (d : DoubleText) (fuel : Nat) (acc : List Json) {w : Bytes}
    (hw : ∀ c ∈ w, isWhitespace c = true) (s : Bytes) :
    parseElements d fuel acc (w ++ s) = parseElements d fuel acc s := by
  cases fuel with
  | zero => rfl
  | succ fuel => rw [parseElements.eq_2, parseElements.eq_2, parseValue_append_ws d fuel hw]

theorem parseMembers_append_ws (d : DoubleText) (fuel : Nat) (acc : List (Bytes × Json))
    {w : Bytes} (hw : ∀ c ∈ w, isWhitespace c = true) (s : Bytes) :
    parseMembers d fuel acc (w ++ s) = parseMembers d fuel acc s := by
  cases fuel with
  | zero => rfl
  | succ fuel => rw [parseMembers.eq_2, parseMembers.eq_2, skipWhitespace_append_of_ws hw]

theorem nodes_pos (v : Json) : 1 ≤ nodes v := by
  cases v <;> simp [nodes]

theorem itemsNodes_pos (items : List Json) : 1 ≤ itemsNodes items := by
  cases items with
  | nil => simp [itemsNodes]
  | cons x xs => have := nodes_pos x; simp [itemsNodes]; omega

theorem fieldsNodes_pos (fields : List (Bytes × Json)) : 1 ≤ fieldsNodes fields := by
  cases fields with
  | nil => simp [fieldsNodes]
  | cons kv rest => have := nodes_pos kv.2; simp [fieldsNodes]; omega

/-- 新しい鍵の `obj[key] = value` は末尾に足す。 -/
theorem setField_of_not_mem {fields : List (Bytes × Json)} {key : Bytes}
    (h : key ∉ fields.map Prod.fst) (value : Json) : setField fields key value = fields ++ [(key, value)] := by
  have : fields.any (·.1 == key) = false := by
    simpa [List.any_eq_false] using fun a b hab heq => h (List.mem_map.2 ⟨(a, b), hab, heq⟩)
  simp [setField, this]

/-- 数の後に `,`、閉じ括弧、空白が来るなら、数はそこで終わる。 -/
theorem numberEnd_cons {c : UInt8} (t : Bytes)
    (h : c = byte ',' ∨ c = byte ']' ∨ c = byte '}' ∨ isWhitespace c = true) :
    numberEnd (c :: t) = true := by
  rcases h with rfl | rfl | rfl | h
  iterate 3 rfl
  simp only [isWhitespace, Bool.or_eq_true, decide_eq_true_eq] at h
  rcases h with ((rfl | rfl) | rfl) | rfl <;> rfl

theorem space_ws (pretty : Bool) :
    ∀ c ∈ (if pretty then [byte ' '] else []), isWhitespace c = true := by
  cases pretty <;> simp [isWhitespace]

/-- 鍵の書き出しは `"` で始まる。 -/
theorem peek_escapeString (hex : Bool) (k rest : Bytes) :
    peek ((escapeString hex k).1 ++ rest) = byte '"' := by
  rw [escapeString_eq]; rfl

theorem escapeString_snd (hex : Bool) (k : Bytes) :
    (escapeString hex k).2 = (hex || k.any needsUnicodeEscape) := by
  rw [escapeString_eq, escapeBody_snd]

/-- 重ならない鍵の並びの先頭は、その前の鍵のどれとも違う。 -/
theorem not_mem_of_nodup {acc : List (Bytes × Json)} {k : Bytes} {v : Json}
    {rest : List (Bytes × Json)} (h : ((acc ++ (k, v) :: rest).map Prod.fst).Nodup) :
    k ∉ acc.map Prod.fst := by
  rw [List.map_append, List.nodup_append] at h
  exact fun hk => h.2.2 hk (by simp)

/-- 最後の要素の後は、空白と閉じ括弧。 -/
theorem numberEnd_ws_append {w : Bytes} (hw : ∀ c ∈ w, isWhitespace c = true) {b : UInt8}
    (hb : b = byte ']' ∨ b = byte '}') (rest : Bytes) : numberEnd (w ++ b :: rest) = true := by
  cases w with
  | nil => exact numberEnd_cons rest (by rcases hb with rfl | rfl <;> simp)
  | cons c w => exact numberEnd_cons _ (.inr (.inr (.inr (hw c (List.mem_cons_self c w)))))

/-- 二つ目からの要素は `,` で始まる。 -/
theorem stringifyItems_false (d : DoubleText) (pretty : Bool) {items : List Json}
    (h : items ≠ []) (indent : Nat) (hex : Bool) :
    (stringifyItems d pretty items indent false hex).1 =
      byte ',' :: (stringifyItems d pretty items indent true hex).1 := by
  obtain ⟨x, xs, rfl⟩ := List.exists_cons_of_ne_nil h
  simp [stringifyItems_cons, separator_false]

theorem stringifyFields_false (d : DoubleText) (pretty : Bool) {fields : List (Bytes × Json)}
    (h : fields ≠ []) (indent : Nat) (hex : Bool) :
    (stringifyFields d pretty fields indent false hex).1 =
      byte ',' :: (stringifyFields d pretty fields indent true hex).1 := by
  obtain ⟨⟨k, v⟩, rest, rfl⟩ := List.exists_cons_of_ne_nil h
  simp [stringifyFields_cons, separator_false]

theorem numberEnd_fields_tail (d : DoubleText) (pretty : Bool) (fields : List (Bytes × Json))
    (indent : Nat) (hex : Bool) {w : Bytes} (hw : ∀ c ∈ w, isWhitespace c = true) {b : UInt8}
    (hb : b = byte ']' ∨ b = byte '}') (rest : Bytes) :
    numberEnd ((stringifyFields d pretty fields indent false hex).1 ++ (w ++ b :: rest)) = true := by
  rcases fields with _ | ⟨f, fs⟩
  · exact numberEnd_ws_append hw hb rest
  · rw [stringifyFields_false d pretty (List.cons_ne_nil f fs), List.cons_append]
    exact numberEnd_cons _ (.inl rfl)

/-! ## 値の往復 -/

theorem parseNull_null (rest : Bytes) : parseNull (ascii "null" ++ rest) = .ok (.null, rest) := by
  rw [parseNull, if_pos (by rfl)]; rfl

theorem parseBool_true (rest : Bytes) : parseBool (ascii "true" ++ rest) = .ok (.bool true, rest) := by
  rw [parseBool, if_pos (by rfl)]; rfl

theorem parseBool_false (rest : Bytes) :
    parseBool (ascii "false" ++ rest) = .ok (.bool false, rest) := by
  rw [parseBool, if_neg (fun h => nomatch h), if_pos (by rfl)]; rfl

/-- 文字列の書き出しは、`parseValue` が文字列として読む。 -/
theorem parseValue_escapeString (d : DoubleText) (fuel : Nat) (hex : Bool) (s rest : Bytes) :
    parseValue d (fuel + 1) ((escapeString hex s).1 ++ rest) = .ok (.string s, rest) := by
  have hq : (escapeString hex s).1 ++ rest =
      byte '"' :: ((escapeBody hex s).1 ++ [byte '"'] ++ rest) := by
    rw [escapeString_eq]; rfl
  rw [← parseString_escapeString hex s rest, hq, parseValue.eq_2,
    @skipWhitespace_of_peek (byte '"' :: _) rfl]
  rfl

theorem parseValue_bracket (d : DoubleText) (fuel : Nat) (t : Bytes) :
    parseValue d (fuel + 1) (byte '[' :: t) = parseArray d fuel (byte '[' :: t) := by
  rw [parseValue.eq_2, @skipWhitespace_of_peek (byte '[' :: t) rfl]; rfl

theorem parseValue_brace (d : DoubleText) (fuel : Nat) (t : Bytes) :
    parseValue d (fuel + 1) (byte '{' :: t) = parseObject d fuel (byte '{' :: t) := by
  rw [parseValue.eq_2, @skipWhitespace_of_peek (byte '{' :: t) rfl]; rfl

theorem showNat_ne_nil (b n : Nat) : showNat b n ≠ [] := by
  unfold showNat
  split_ifs with h0
  · simp
  · cases b with
    | zero => simp [Nat.digits, Nat.digitsAux0]; cases n <;> simp_all
    | succ b => cases b with
      | zero => simp [Nat.digits, Nat.digitsAux1, h0]
      | succ b => simpa using Nat.digits_ne_nil_iff_ne_zero.2 h0

theorem writeNumber_ne_nil (d : DoubleText) (hex : Bool) {x : Double}
    (h17 : NumberReads d x) : writeNumber d hex x ≠ [] := by
  rcases x with x | _ | _
  case inf | nan => exact h17.elim
  rw [writeNumber_finite]
  unfold writeInt64
  split_ifs with hs
  · exact showNat_ne_nil _ _
  · simp
  · exact showNat_ne_nil _ _
  · obtain ⟨c, t, h, -⟩ := (h17 (by simpa using hs)).head
    simp [h]

section
variable (d : DoubleText) (pretty : Bool)

mutual
/-- 値を書いたものを読むと、その値と、後ろの残りが返る。 -/
theorem parseValue_stringifyImpl (hint : IntReads d) :
    ∀ (v : Json) (indent : Nat) (hex : Bool) (fuel : Nat) (rest : Bytes),
      WellFormed v → hexSafe hex v = true →
      (∀ x ∈ numbers v, NumberReads d x) →
      3 * nodes v ≤ fuel → numberEnd rest = true →
      parseValue d fuel ((stringifyImpl d pretty v indent hex).1 ++ rest) = .ok (v, rest)
  | .null, _, _, fuel + 1, rest, _, _, _, _, _ => by
    show parseValue d (fuel + 1) (ascii "null" ++ rest) = _
    rw [parseValue.eq_2, @skipWhitespace_of_peek (ascii "null" ++ rest) rfl, ← parseNull_null rest]
    rfl
  | .bool true, _, _, fuel + 1, rest, _, _, _, _, _ => by
    show parseValue d (fuel + 1) (ascii "true" ++ rest) = _
    rw [parseValue.eq_2, @skipWhitespace_of_peek (ascii "true" ++ rest) rfl, ← parseBool_true rest]
    rfl
  | .bool false, _, _, fuel + 1, rest, _, _, _, _, _ => by
    show parseValue d (fuel + 1) (ascii "false" ++ rest) = _
    rw [parseValue.eq_2, @skipWhitespace_of_peek (ascii "false" ++ rest) rfl,
      ← parseBool_false rest]
    rfl
  | .number x, _, hex, fuel + 1, rest, _, hsafe, h17, _, hend => by
    have h17x : NumberReads d x := h17 x (by simp [numbers])
    obtain ⟨c, t, ht, hc⟩ := writeNumber_head d h17x
    show parseValue d (fuel + 1) (writeNumber d hex x ++ rest) = _
    rw [writeNumber_of_hexSafe d hsafe, ← parseNumber_writeNumber d hint h17x hend, ht,
      List.cons_append, parseValue_number d fuel _ hc]
  | .string s, _, hex, fuel + 1, rest, _, _, _, _, _ => parseValue_escapeString d fuel hex s rest
  | .array items, indent, hex, fuel + 2, rest, hwf, hsafe, h17, hfuel, _ => by
    rw [stringifyImpl_array]
    simp only [List.cons_append]
    rw [parseValue_bracket, parseArray.eq_2]
    simp only [peek_cons, ne_eq, not_true_eq_false, if_false, List.tail_cons, List.append_assoc,
      List.singleton_append]
    rcases items with _ | ⟨x, xs⟩
    · simp only [List.length_nil, closing_zero, List.nil_append,
        show (stringifyItems d pretty [] indent true hex).1 = [] from rfl,
        @skipWhitespace_of_peek (byte ']' :: rest) rfl, peek_cons, if_true, List.tail_cons]
      rfl
    · have hsx : hexSafe hex x = true := by
        simp only [hexSafe, itemsHexSafe, Bool.and_eq_true] at hsafe; exact hsafe.1
      obtain ⟨c, t, ht, hcw, hcb⟩ := stringifyImpl_head d pretty (indent + 1) hsx
        (fun y hy => h17 y (by simp [numbers, itemsNumbers, hy]))
      have hB := parseElements_stringifyItems hint (x :: xs) indent hex fuel []
        (closing pretty (x :: xs).length indent) rest (List.cons_ne_nil x xs) hwf hsafe h17
        (by simp only [nodes] at hfuel; omega) (closing_ws _ _ _)
      rw [stringifyItems_cons, List.append_assoc, List.append_assoc,
        parseElements_append_ws d _ _ (separator_true_ws pretty indent), ht, List.cons_append] at hB
      rw [stringifyItems_cons, List.append_assoc, List.append_assoc,
        skipWhitespace_append_of_ws (separator_true_ws pretty indent), ht, List.cons_append,
        @skipWhitespace_of_peek (c :: _) hcw]
      simp only [peek_cons, if_neg hcb, hB, List.nil_append]
  | .object fields, indent, hex, fuel + 2, rest, hwf, hsafe, h17, hfuel, _ => by
    rw [stringifyImpl_object]
    simp only [List.cons_append]
    rw [parseValue_brace, parseObject.eq_2]
    simp only [peek_cons, ne_eq, not_true_eq_false, if_false, List.tail_cons, List.append_assoc,
      List.singleton_append]
    rcases fields with _ | ⟨⟨k, v⟩, more⟩
    · simp only [List.length_nil, closing_zero, List.nil_append,
        show (stringifyFields d pretty [] indent true hex).1 = [] from rfl,
        @skipWhitespace_of_peek (byte '}' :: rest) rfl, peek_cons, if_true, List.tail_cons]
      rfl
    · have hC := parseMembers_stringifyFields hint ((k, v) :: more) indent hex fuel []
        (closing pretty ((k, v) :: more).length indent) rest (List.cons_ne_nil _ more) hwf.1 hwf.2
        hsafe h17 (by simp only [nodes] at hfuel; omega) (closing_ws _ _ _)
      rw [stringifyFields_cons, List.append_assoc, List.append_assoc, List.append_assoc,
        List.append_assoc, List.append_assoc,
        parseMembers_append_ws d _ _ (separator_true_ws pretty indent)] at hC
      rw [stringifyFields_cons, List.append_assoc, List.append_assoc, List.append_assoc,
        List.append_assoc, List.append_assoc,
        skipWhitespace_append_of_ws (separator_true_ws pretty indent),
        @skipWhitespace_of_peek (_ ++ _) (by rw [peek_escapeString]; rfl),
        peek_escapeString]
      simp only [if_neg (by decide : byte '"' ≠ byte '}'), hC, List.nil_append]
  | .array _, _, _, 0, _, _, _, _, h, _ => by simp [nodes] at h
  | .array _, _, _, 1, _, _, _, _, h, _ => by simp [nodes] at h; have := itemsNodes_pos; omega
  | .object _, _, _, 0, _, _, _, _, h, _ => by simp [nodes] at h
  | .object _, _, _, 1, _, _, _, _, h, _ => by simp [nodes] at h; omega
  | .null, _, _, 0, _, _, _, _, h, _
  | .bool _, _, _, 0, _, _, _, _, h, _
  | .number _, _, _, 0, _, _, _, _, h, _
  | .string _, _, _, 0, _, _, _, _, h, _ => by simp [nodes] at h

/-- 要素の並びを書いたものを読むと、`acc` の後にその要素を足した `Array` が返る。 -/
theorem parseElements_stringifyItems (hint : IntReads d) :
    ∀ (items : List Json) (indent : Nat) (hex : Bool) (fuel : Nat) (acc : List Json)
      (w rest : Bytes),
      items ≠ [] → ItemsWellFormed items → itemsHexSafe hex items = true →
      (∀ x ∈ itemsNumbers items, NumberReads d x) →
      3 * itemsNodes items ≤ fuel → (∀ c ∈ w, isWhitespace c = true) →
      parseElements d fuel acc
          ((stringifyItems d pretty items indent true hex).1 ++ (w ++ byte ']' :: rest)) =
        .ok (.array (acc ++ items), rest)
  | [], _, _, _, _, _, _, h, _, _, _, _, _ => absurd rfl h
  | [x], indent, hex, fuel + 1, acc, w, rest, _, ⟨hwx, _⟩, hsafe, h17, hfuel, hw => by
    simp only [itemsHexSafe, Bool.and_eq_true] at hsafe
    simp only [itemsNodes] at hfuel
    have hx := parseValue_stringifyImpl hint x (indent + 1) hex fuel (w ++ byte ']' :: rest) hwx
      hsafe.1 (fun y hy => h17 y (by simp [itemsNumbers, hy])) (by omega)
      (numberEnd_ws_append hw (.inl rfl) rest)
    rw [stringifyItems_cons, List.append_assoc, List.append_assoc,
      parseElements_append_ws d _ _ (separator_true_ws pretty indent), parseElements.eq_2,
      show (stringifyItems d pretty [] indent false _).1 = [] from rfl, List.nil_append, hx]
    simp only [bind, Except.bind, skipWhitespace_append_of_ws hw,
      @skipWhitespace_of_peek (byte ']' :: rest) rfl, peek, if_true, List.tail_cons]
    rfl
  | x :: y :: ys, indent, hex, fuel + 1, acc, w, rest, _, ⟨hwx, hwys⟩, hsafe, h17, hfuel, hw => by
    rw [itemsHexSafe, Bool.and_eq_true] at hsafe
    rw [itemsNodes] at hfuel
    have := itemsNodes_pos (y :: ys)
    have := nodes_pos x
    have hne : y :: ys ≠ [] := List.cons_ne_nil y ys
    -- 二つ目からの要素は、`,` の後の並びとして読む
    have hrest := parseElements_stringifyItems hint (y :: ys) indent
      (stringifyImpl d pretty x (indent + 1) hex).2 fuel (acc ++ [x]) w rest hne hwys
      (by rw [stringifyImpl_snd]; exact hsafe.2)
      (fun z hz => h17 z (by rw [itemsNumbers]; exact List.mem_append_right _ hz)) (by omega) hw
    have hx := parseValue_stringifyImpl hint x (indent + 1) hex fuel
      (byte ',' :: ((stringifyItems d pretty (y :: ys) indent true
        (stringifyImpl d pretty x (indent + 1) hex).2).1 ++ (w ++ byte ']' :: rest))) hwx hsafe.1
      (fun z hz => h17 z (by rw [itemsNumbers]; exact List.mem_append_left _ hz)) (by omega)
      (numberEnd_cons _ (.inl rfl))
    rw [stringifyItems_cons, List.append_assoc, List.append_assoc,
      parseElements_append_ws d _ _ (separator_true_ws pretty indent), parseElements.eq_2,
      stringifyItems_false d pretty hne, List.cons_append, hx]
    simp only [bind, Except.bind, @skipWhitespace_of_peek (byte ',' :: _) rfl, peek, List.tail_cons]
    rw [if_neg (by decide), if_pos trivial, hrest, List.append_assoc, List.singleton_append]
  | x :: _, _, _, 0, _, _, _, _, _, _, _, h, _ => by
    have := nodes_pos x; simp only [itemsNodes] at h; omega

/-- 鍵と値の組の並びを書いたものを読むと、`acc` の後にその組を足した `Object` が返る。 -/
theorem parseMembers_stringifyFields (hint : IntReads d) :
    ∀ (fields : List (Bytes × Json)) (indent : Nat) (hex : Bool) (fuel : Nat)
      (acc : List (Bytes × Json)) (w rest : Bytes),
      fields ≠ [] → ((acc ++ fields).map Prod.fst).Nodup → FieldsWellFormed fields →
      fieldsHexSafe hex fields = true →
      (∀ x ∈ fieldsNumbers fields, NumberReads d x) →
      3 * fieldsNodes fields ≤ fuel → (∀ c ∈ w, isWhitespace c = true) →
      parseMembers d fuel acc
          ((stringifyFields d pretty fields indent true hex).1 ++ (w ++ byte '}' :: rest)) =
        .ok (.object (acc ++ fields), rest)
  | [], _, _, _, _, _, _, h, _, _, _, _, _, _ => absurd rfl h
  | (k, v) :: more, indent, hex, fuel + 1, acc, w, rest, _, hnd, ⟨hwv, hwm⟩, hsafe, h17, hfuel, hw => by
    rw [fieldsHexSafe, Bool.and_eq_true] at hsafe
    rw [fieldsNodes] at hfuel
    have := fieldsNodes_pos more
    have := nodes_pos v
    have hk2 := escapeString_snd hex k
    rw [← hk2] at hsafe
    have hend := numberEnd_fields_tail d pretty more indent
      (stringifyImpl d pretty v (indent + 1) (escapeString hex k).2).2 hw (.inr rfl) rest
    have hv := parseValue_stringifyImpl hint v (indent + 1) (escapeString hex k).2 fuel _ hwv
      hsafe.1 (fun z hz => h17 z (by rw [fieldsNumbers]; exact List.mem_append_left _ hz))
      (by omega) hend
    rw [stringifyFields_cons]
    simp only [List.append_assoc, List.singleton_append, List.cons_append]
    rw [parseMembers_append_ws d _ _ (separator_true_ws pretty indent), parseMembers.eq_2,
      @skipWhitespace_of_peek (_ ++ _) (by rw [peek_escapeString]; rfl), parseString_escapeString]
    simp only [bind, Except.bind, @skipWhitespace_of_peek (byte ':' :: _) rfl, peek, List.tail_cons,
      ne_eq, not_true_eq_false, if_false, List.nil_append]
    rw [parseValue_append_ws d fuel (space_ws pretty), hv]
    simp only [setField_of_not_mem (not_mem_of_nodup hnd)]
    rcases more with _ | ⟨f, fs⟩
    · -- 最後の組
      simp only [show (stringifyFields d pretty [] indent false _).1 = [] from rfl, List.nil_append,
        skipWhitespace_append_of_ws hw, @skipWhitespace_of_peek (byte '}' :: rest) rfl, peek,
        if_true, List.tail_cons]
      rfl
    · -- 次の組は `,` の後
      have hrest := parseMembers_stringifyFields hint (f :: fs) indent
        (stringifyImpl d pretty v (indent + 1) (escapeString hex k).2).2 fuel (acc ++ [(k, v)]) w
        rest (List.cons_ne_nil f fs) (by rw [List.append_assoc, List.singleton_append]; exact hnd)
        hwm (by rw [stringifyImpl_snd]; exact hsafe.2)
        (fun z hz => h17 z (by rw [fieldsNumbers]; exact List.mem_append_right _ hz)) (by omega) hw
      rw [stringifyFields_false d pretty (List.cons_ne_nil f fs), List.cons_append]
      simp only [@skipWhitespace_of_peek (byte ',' :: _) rfl, peek, List.tail_cons]
      rw [if_neg (by decide), if_pos trivial, hrest, List.append_assoc, List.singleton_append]
  | (_, v) :: _, _, _, 0, _, _, _, _, _, _, _, _, h, _ => by
    have := nodes_pos v; simp only [fieldsNodes] at h; omega
end


mutual
/-- 節の数は書き出しの長さを超えない。`parse` の `fuel` はこれで足りる。 -/
theorem nodes_le_length :
    ∀ (v : Json) (indent : Nat) (hex : Bool),
      (∀ x ∈ numbers v, NumberReads d x) →
      nodes v ≤ (stringifyImpl d pretty v indent hex).1.length
  | .null, _, _, _ => by simp [nodes, stringifyImpl, ascii]
  | .bool b, _, _, _ => by cases b <;> simp [nodes, stringifyImpl, ascii]
  | .number x, _, hex, h17 => by
    have := writeNumber_ne_nil d hex (h17 x (by simp [numbers]))
    simp only [nodes, stringifyImpl]
    exact List.length_pos.2 this
  | .string s, _, hex, _ => by simp [nodes, stringifyImpl, escapeString_eq]
  | .array items, indent, hex, h17 => by
    have : itemsNodes items ≤ (stringifyItems d pretty items indent true hex).1.length + 1 :=
      itemsNodes_le_length items indent true hex h17
    rw [stringifyImpl_array]
    simp only [nodes, List.length_cons, List.length_append, List.length_singleton]
    omega
  | .object fields, indent, hex, h17 => by
    have : fieldsNodes fields ≤ (stringifyFields d pretty fields indent true hex).1.length + 1 :=
      fieldsNodes_le_length fields indent true hex h17
    rw [stringifyImpl_object]
    simp only [nodes, List.length_cons, List.length_append, List.length_singleton]
    omega

theorem itemsNodes_le_length :
    ∀ (items : List Json) (indent : Nat) (first hex : Bool),
      (∀ x ∈ itemsNumbers items, NumberReads d x) →
      itemsNodes items ≤ (stringifyItems d pretty items indent first hex).1.length + 1
  | [], _, _, _, _ => by simp [itemsNodes, stringifyItems]
  | x :: xs, indent, first, hex, h17 => by
    have h1 : nodes x ≤ (stringifyImpl d pretty x (indent + 1) hex).1.length :=
      nodes_le_length x (indent + 1) hex
        (fun z hz => h17 z (by rw [itemsNumbers]; exact List.mem_append_left _ hz))
    have h2 : itemsNodes xs ≤ (stringifyItems d pretty xs indent false
        (stringifyImpl d pretty x (indent + 1) hex).2).1.length + 1 :=
      itemsNodes_le_length xs indent false _
        (fun z hz => h17 z (by rw [itemsNumbers]; exact List.mem_append_right _ hz))
    rw [stringifyItems_cons]
    simp only [itemsNodes, List.length_append]
    omega

theorem fieldsNodes_le_length :
    ∀ (fields : List (Bytes × Json)) (indent : Nat) (first hex : Bool),
      (∀ x ∈ fieldsNumbers fields, NumberReads d x) →
      fieldsNodes fields ≤ (stringifyFields d pretty fields indent first hex).1.length + 1
  | [], _, _, _, _ => by simp [fieldsNodes, stringifyFields]
  | (k, v) :: more, indent, first, hex, h17 => by
    have h1 : nodes v ≤ (stringifyImpl d pretty v (indent + 1) (escapeString hex k).2).1.length :=
      nodes_le_length v (indent + 1) _
        (fun z hz => h17 z (by rw [fieldsNumbers]; exact List.mem_append_left _ hz))
    have h2 : fieldsNodes more ≤ (stringifyFields d pretty more indent false
        (stringifyImpl d pretty v (indent + 1) (escapeString hex k).2).2).1.length + 1 :=
      fieldsNodes_le_length more indent false _
        (fun z hz => h17 z (by rw [fieldsNumbers]; exact List.mem_append_right _ hz))
    rw [stringifyFields_cons]
    simp only [fieldsNodes, List.length_append]
    omega
end

end

/--
**往復。** 鍵の重ならない値で、数がどれも有限で、`std::hex` が立った後に書く 1e15 未満の整数が
どれも 0 から 9 までなら、`Json::parse(v.stringify(pretty))` は `v` を返す。`double` の変換は
`IntReads` と `Show17Reads` の通り読み戻せるとする。`NaN` と無限大は `null` と書かれるので、
`NumberReads` はそれらを除く。
-/
theorem parse_stringify (d : DoubleText) (hint : IntReads d) (v : Json) (pretty : Bool)
    (hwf : WellFormed v) (hsafe : hexSafe false v = true)
    (h17 : ∀ x ∈ numbers v, NumberReads d x) :
    parse d (stringify d v pretty) = some v := by
  obtain ⟨c, t, ht, hcw, -⟩ := stringifyImpl_head d pretty 0 hsafe h17
  have hlen := nodes_le_length d pretty v 0 false h17
  have hv := parseValue_stringifyImpl d pretty hint v 0 false (3 * (c :: t).length + 3) [] hwf
    hsafe h17 (by rw [← ht]; omega) rfl
  rw [List.append_nil, ht] at hv
  unfold parse stringify
  rw [ht, @skipWhitespace_of_peek (c :: t) hcw]
  simp only [reduceCtorEq, if_false, hv]
  rfl

/-! 往復の定理の前提を満たす `double` の変換の一つ。十進の整数を読む。 -/

/-- 十進の数字の並びが表す自然数。 -/
def readDecimal (t : Bytes) : Nat := t.foldl (fun n c => 10 * n + (c.toNat - 48)) 0

/-- 十進の整数だけを読む `std::strtod`。`%.17g` は何も書かない。 -/
def decimalText : DoubleText where
  show17 _ := []
  strtod t := some (.finite (if t.head? = some (byte '-') then -(readDecimal t.tail : ℚ) else readDecimal t))

theorem readDecimal_showNat (m : Nat) : readDecimal (showNat 10 m) = m := by
  unfold showNat
  split_ifs with h0
  · subst h0; rfl
  · have key : ∀ L : List Nat, (∀ d ∈ L, d < 10) →
        (L.map digitChar).foldr (fun c n => 10 * n + (c.toNat - 48)) 0 = Nat.ofDigits 10 L := by
      intro L hL
      induction L with
      | nil => rfl
      | cons d L ih =>
        have hd : (digitChar d).toNat = 48 + d := by
          have := hL d (List.mem_cons_self _ _)
          interval_cases d <;> rfl
        rw [List.map_cons, List.foldr_cons, ih fun e he => hL e (List.mem_cons_of_mem _ he),
          Nat.ofDigits_cons, hd]
        omega
    rw [readDecimal, List.map_reverse, List.foldl_reverse,
      key _ fun d hd => Nat.digits_lt_base (by norm_num) hd, Nat.ofDigits_digits]

theorem showNat_head_ne_minus (m : Nat) : (showNat 10 m).head? ≠ some (byte '-') := by
  rcases showNat_ten m with h | ⟨d, ds, h, hd, -, -⟩ <;> rw [h]
  · decide
  · exact fun he => digitChar_ne_minus d hd (Option.some.inj he)

theorem decimalText_intReads : IntReads decimalText := by
  intro n _
  show some (Double.finite _) = some (.finite _)
  congr 2
  rw [writeInt64, if_neg Bool.false_ne_true]
  by_cases hn : n < 0
  · rw [if_pos hn, List.head?_cons, if_pos rfl, List.tail_cons, readDecimal_showNat]
    exact_mod_cast (by omega : -(n.natAbs : ℤ) = n)
  · rw [if_neg hn, if_neg (showNat_head_ne_minus _), readDecimal_showNat]
    rw [← Int.cast_natCast, Int.natAbs_of_nonneg (by omega)]

theorem parse_stringify_mixed :
    parse decimalText (stringify decimalText
      (.object [(ascii "a", .array [.number 12, .number (.finite (-3))]), (ascii "b", .string (ascii "x"))]) true) =
      some (.object [(ascii "a", .array [.number 12, .number (.finite (-3))]), (ascii "b", .string (ascii "x"))]) :=
  parse_stringify decimalText decimalText_intReads _ true
    ⟨by decide, ⟨trivial, trivial, trivial⟩, trivial, trivial⟩ (by decide)
    (fun x hx => by
      simp [numbers, fieldsNumbers, itemsNumbers] at hx
      rcases hx with rfl | rfl <;> exact fun hs => absurd hs (by decide))

/-! ## `std::hex` が残るとき -/

/-- 一桁の数の書き出し。 -/
theorem showNat_of_lt {b n : Nat} (h0 : 0 < n) (h : n < b) : showNat b n = [digitChar n] := by
  rw [showNat, if_neg (by omega), Nat.digits_of_lt b n (by omega) h]
  rfl

/-- 二桁以上なら、最後の一桁を外した数の書き出しの後に、その一桁が来る。 -/
theorem showNat_of_div_pos {b m : Nat} (hb : 2 ≤ b) (h : 0 < m / b) :
    showNat b m = showNat b (m / b) ++ [digitChar (m % b)] := by
  have hm : m ≠ 0 := by rintro rfl; simp at h
  unfold showNat
  rw [if_neg hm, if_neg (by omega), Nat.digits_def' (by omega) (Nat.pos_of_ne_zero hm)]
  simp

/-- `b^k` 以上の数の書き出しは、`b^k` で割った数の書き出しで始まる。 -/
theorem showNat_prefix {b : Nat} (hb : 2 ≤ b) :
    ∀ (k m : Nat), b ^ k ≤ m → ∃ tail, showNat b m = showNat b (m / b ^ k) ++ tail
  | 0, m, _ => ⟨[], by simp⟩
  | k + 1, m, h => by
    have hk : b ^ k ≤ m := le_trans (Nat.pow_le_pow_right (by omega) (Nat.le_succ k)) h
    obtain ⟨tail, ht⟩ := showNat_prefix hb k m hk
    have hpos : 0 < m / b ^ k / b := by
      rw [Nat.div_div_eq_div_mul, ← pow_succ]
      exact Nat.div_pos h (Nat.pos_pow_of_pos _ (by omega))
    refine ⟨[digitChar (m / b ^ k % b)] ++ tail, ?_⟩
    rw [ht, showNat_of_div_pos hb hpos, Nat.div_div_eq_div_mul, ← pow_succ, List.append_assoc]

/-- `std::hex` の下の負の整数は、2^64 を足して `ff` で始まる 16 進になる。 -/
theorem writeInt64_hex_neg {n : Int} (h1 : -10 ^ 15 < n) (h2 : n < 0) :
    ∃ tail, writeInt64 true n = byte 'f' :: byte 'f' :: tail := by
  set m := (n % 2 ^ 64).toNat with hm
  have hm1 : 2 ^ 64 - 10 ^ 15 < m := by omega
  have hm2 : m < 2 ^ 64 := by omega
  obtain ⟨tail, ht⟩ := showNat_prefix (by norm_num : 2 ≤ 16) 14 m (by omega)
  have h255 : m / 16 ^ 14 = 255 := by omega
  refine ⟨tail, ?_⟩
  rw [writeInt64, if_pos rfl, ← hm, ht, h255, showNat_of_div_pos (by norm_num) (by norm_num),
    showNat_of_lt (by norm_num) (by norm_num)]
  rfl

/-- `std::hex` の下の 10 から 15 は、`a` から `f` の一文字になる。 -/
theorem writeInt64_hex_letter {n : Int} (h1 : 10 ≤ n) (h2 : n < 16) :
    writeInt64 true n = [digitChar n.toNat] := by
  rw [writeInt64, if_pos rfl, Int.emod_eq_of_lt (by omega) (by omega),
    showNat_of_lt (by omega) (by omega)]

/-- `a` から `f` で始まる語は値として読めない。`f` の後が `a` でなければ `false` でもない。 -/
theorem parseValue_hexLetter (d : DoubleText) (fuel : Nat) {c c2 : UInt8} (rest : Bytes)
    (hc : byte 'a' ≤ c ∧ c ≤ byte 'f') (hc2 : c2 ≠ byte 'a') :
    parseValue d (fuel + 1) (c :: c2 :: rest) = .error .nullopt := by
  have h97 : 97 ≤ c.toNat := hc.1
  have h102 : c.toNat ≤ 102 := hc.2
  have hval : ∀ k : Nat, c.toNat = k → c = k.toUInt8 := fun k hk => by rw [← hk, toUInt8_toNat]
  rw [parseValue.eq_2, @skipWhitespace_of_peek (c :: c2 :: rest) (by
    rcases (by omega : c.toNat = 97 ∨ c.toNat = 98 ∨ c.toNat = 99 ∨ c.toNat = 100 ∨
      c.toNat = 101 ∨ c.toNat = 102) with h | h | h | h | h | h <;> rw [hval _ h] <;> rfl)]
  rcases (by omega : c.toNat = 97 ∨ c.toNat = 98 ∨ c.toNat = 99 ∨ c.toNat = 100 ∨
    c.toNat = 101 ∨ c.toNat = 102) with h | h | h | h | h | h
  iterate 5 (· rw [hval _ h]; rfl)
  · -- `f` は `parseBool` に渡り、`true` とも `false` とも合わない
    rw [hval _ h]
    have ht : ¬List.take 4 ((102 : Nat).toUInt8 :: c2 :: rest) = ascii "true" :=
      fun h => absurd (List.cons.inj h).1 (by decide)
    have hf : ¬List.take 5 ((102 : Nat).toUInt8 :: c2 :: rest) = ascii "false" :=
      fun h => hc2 (List.cons.inj (List.cons.inj h).2).1
    simp only [peek_cons]
    rw [if_neg (by decide), if_pos (by decide), parseBool, if_neg ht, if_neg hf]

/-- 1e15 未満の整数は `int64_t` の分岐で書かれる。 -/
theorem writeNumber_int (d : DoubleText) (hex : Bool) {n : Int} (h1 : -10 ^ 15 < n)
    (h2 : n < 10 ^ 15) : writeNumber d hex n = writeInt64 hex n := by
  have hs : isSmallInt n = true := by
    simp only [isSmallInt, Rat.intCast_den, true_and, decide_eq_true_eq]
    constructor <;> exact_mod_cast ‹_›
  rw [Double.intCast_eq, writeNumber_finite, if_pos hs, Rat.intCast_num]

theorem digitChar_letter : ∀ k, k < 16 → 10 ≤ k → byte 'a' ≤ digitChar k ∧ digitChar k ≤ byte 'f' := by
  decide

/-- `std::hex` の下で書いた 10 から 15 と負の整数は、`a` から `f` の文字で始まり、次が `a` でない。 -/
theorem writeNumber_hex_bad (d : DoubleText) (pretty : Bool) {n : Int}
    (hn : (10 ≤ n ∧ n < 16) ∨ (-10 ^ 15 < n ∧ n < 0)) :
    ∃ c c2 t, writeNumber d true n ++ (closing pretty 2 0 ++ [byte ']']) = c :: c2 :: t ∧
      (byte 'a' ≤ c ∧ c ≤ byte 'f') ∧ c2 ≠ byte 'a' := by
  rcases hn with ⟨h1, h2⟩ | ⟨h1, h2⟩
  · rw [writeNumber_int d true (by omega) (by omega), writeInt64_hex_letter h1 h2]
    have hl := digitChar_letter n.toNat (by omega) (by omega)
    cases pretty
    · exact ⟨_, _, [], rfl, hl, by decide⟩
    · exact ⟨_, _, [byte ']'], rfl, hl, by decide⟩
  · obtain ⟨tail, ht⟩ := writeInt64_hex_neg h1 h2
    rw [writeNumber_int d true h1 (by omega), ht]
    exact ⟨_, _, _, rfl, by decide, by decide⟩

/--
**`std::hex` が残ると読み戻せない。** 文字列に `\uXXXX` と書く byte があると、その後に書く整数は
16 進になる。10 から 15 は `a` から `f` の一文字に、負の数は 2^64 を足した `ff` で始まる 16 進に
なる。`["…", n]` の書き出しは、`fuel` が 5 以上ならどれだけあっても `std::nullopt` で止まり、
`Json::parse` は値を返さない。
-/
theorem stringify_hex_breaks_parse (d : DoubleText) (pretty : Bool) {s : Bytes}
    (hs : s.any needsUnicodeEscape = true) {n : Int}
    (hn : (10 ≤ n ∧ n < 16) ∨ (-10 ^ 15 < n ∧ n < 0)) :
    (∀ fuel, 5 ≤ fuel →
      parseValue d fuel (stringify d (.array [.string s, .number n]) pretty) = .error .nullopt) ∧
    parse d (stringify d (.array [.string s, .number n]) pretty) = none := by
  obtain ⟨c, c2, t, hct, hc, hc2⟩ := writeNumber_hex_bad d pretty hn
  have hhex : (escapeString false s).2 = true := by rw [escapeString_snd, hs]; rfl
  have hfail : ∀ f, parseValue d (f + 5) (stringify d (.array [.string s, .number n]) pretty) =
      .error .nullopt := by
    intro f
    unfold stringify
    rw [stringifyImpl_array]
    simp only [List.cons_append]
    rw [parseValue_bracket, parseArray.eq_2]
    simp only [peek_cons, ne_eq, not_true_eq_false, if_false, List.tail_cons, List.append_assoc,
      List.singleton_append]
    have h1 : stringifyImpl d pretty (.string s) (0 + 1) false = escapeString false s := rfl
    have h2 : (stringifyItems d pretty [.number n] 0 false true).1 =
        byte ',' :: (separator pretty true 0 ++ writeNumber d true n) := by
      simp only [stringifyItems_cons, separator_false, stringifyItems_nil, List.append_nil,
        List.cons_append]
      rfl
    have h3 : [Json.string s, .number n].length = 2 := rfl
    rw [stringifyItems_cons, h1, hhex, h2, h3]
    simp only [List.append_assoc, List.cons_append]
    rw [skipWhitespace_append_of_ws (separator_true_ws pretty 0),
      @skipWhitespace_of_peek (_ ++ _) (by rw [peek_escapeString]; rfl), peek_escapeString,
      if_neg (by decide), parseElements.eq_2, parseValue_escapeString]
    simp only [bind, Except.bind, @skipWhitespace_of_peek (byte ',' :: _) rfl, peek_cons,
      List.tail_cons]
    rw [if_neg (by decide), if_pos trivial, parseElements.eq_2,
      parseValue_append_ws d _ (separator_true_ws pretty 0), hct, parseValue_hexLetter d f t hc hc2]
    rfl
  refine ⟨fun fuel h => ?_, ?_⟩
  · obtain ⟨f, rfl⟩ : ∃ f, fuel = f + 5 := ⟨fuel - 5, by omega⟩
    exact hfail f
  · obtain ⟨t', ht'⟩ : ∃ t', stringify d (.array [.string s, .number n]) pretty = byte '[' :: t' :=
      ⟨_, by unfold stringify; rw [stringifyImpl_array]; rfl⟩
    have h := hfail (3 * t'.length + 1)
    rw [ht'] at h
    unfold parse
    rw [ht', @skipWhitespace_of_peek (byte '[' :: t') rfl,
      show 3 * (byte '[' :: t').length + 3 = 3 * t'.length + 1 + 5 by simp; omega]
    simp only [reduceCtorEq, if_false, h]

/-- 仕様の疑った入力。`["\x01", 10]` は `["\u0001",a]` と書かれ、読み戻せない。 -/
theorem stringify_hex_breaks_parse_ctrl_ten :
    stringify ⟨fun _ => [], fun _ => none⟩ (.array [.string [0x01], .number ((10 : Int) : Double)])
        false = ascii "[\"\\u0001\",a]" ∧
    [0x01].any needsUnicodeEscape = true ∧
    ((10 ≤ (10 : Int) ∧ (10 : Int) < 16) ∨ (-10 ^ 15 < (10 : Int) ∧ (10 : Int) < 0)) ∧
    ((∀ fuel, 5 ≤ fuel → parseValue ⟨fun _ => [], fun _ => none⟩ fuel
        (stringify ⟨fun _ => [], fun _ => none⟩
          (.array [.string [0x01], .number ((10 : Int) : Double)]) false) = .error .nullopt) ∧
      parse ⟨fun _ => [], fun _ => none⟩ (stringify ⟨fun _ => [], fun _ => none⟩
          (.array [.string [0x01], .number ((10 : Int) : Double)]) false) = none) := by
  refine ⟨?_, by decide, .inl ⟨by norm_num, by norm_num⟩,
    stringify_hex_breaks_parse _ false (by decide) (.inl ⟨by norm_num, by norm_num⟩)⟩
  have hc : escapeChar false 0x01 = (ascii "\\u" ++ hex4 0x01, true) := rfl
  have hn : writeNumber ⟨fun _ => [], fun _ => none⟩ true ((10 : Int) : Double) = [digitChar 10] := by
    rw [writeNumber_int _ _ (by norm_num) (by norm_num),
      writeInt64_hex_letter (by norm_num) (by norm_num)]
    rfl
  unfold stringify
  rw [stringifyImpl_array]
  simp only [stringifyItems_cons, stringifyItems_nil, stringifyImpl, escapeString_eq,
    escapeBody_cons, escapeBody_nil, hc, hex4_of_lt (by decide : (0x01 : UInt8) < 0x20)]
  rw [hn]
  rfl

end Json

end Gg
