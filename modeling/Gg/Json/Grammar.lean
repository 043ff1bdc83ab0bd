import Gg.Json.Unicode

/-!
# `Json::parse` が受け付ける入力と RFC 8259 の文法

RFC 8259 §2–7 の文法を byte 列の上に書き（`Derives`、`JsonText`）、`Json::parse` が値を返す入力が
ちょうど `JSON-text` であることを示す（`parse_iff_jsonText`）。

## 仕組み

文法は RFC の ABNF を規則ごとに写す。`ws`、`number`、`string` は述語で、入れ子になる
`value`、`array` の中の要素の並び、`object` の中の member の並びは、記号 `Sym` を添字にした
一つの帰納的な述語 `Derives` で書く。`begin-array = ws %x5B ws` などの前後の `ws` は、隣り合う
`ws` を一つにまとめて、括弧と区切りの規則が持つ。

* 健全性（`parse_derives`）：parser の五つの関数を `fuel` についての一つの帰納法で扱う。
  読んだ部分を文法の記号に、読み残しをそのまま残りに対応させる。数と文字列は、それぞれの scanner
  ごとの補題（`scanNumber_number`、`parseStringBody_chars`）で文法に写す。
* 完全性（`derives_reads`）：導出についての帰納法。数は貪欲に読むので、値の後に何が来るかの条件
  （`numberEnd`）が要る。文法の中で値の後に来るのは `ws`、`,`、`]`、`}` か入力の終わりなので、
  この条件はいつも満たされる。`fuel` は読む部分の長さの 2 倍あれば足りる。
* 数の変換 `std::strtod` は `DoubleText` の外から与えた関数なので、数の文法の一語を読めることを
  `StrtodReadsNumbers` として仮定する。C の locale の `strtod` はこれを満たす。
-/

namespace Gg

open Gg.Ws

namespace Json

/-! ## RFC 8259 の文法 -/

/-- `ws = *( %x20 / %x09 / %x0A / %x0D )`：空白、タブ、改行、復帰だけの並び。 -/
def Ws (w : Bytes) : Prop :=
  ∀ c ∈ w, c = byte ' ' ∨ c = byte '\t' ∨ c = byte '\n' ∨ c = byte '\r'

/-- `DIGIT = %x30-39`。 -/
def Digit (c : UInt8) : Prop := byte '0' ≤ c ∧ c ≤ byte '9'

/-- `HEXDIG`：数字と、`A`–`F`（大文字でも小文字でもよい）。 -/
def HexDig (c : UInt8) : Prop :=
  Digit c ∨ (byte 'a' ≤ c ∧ c ≤ byte 'f') ∨ (byte 'A' ≤ c ∧ c ≤ byte 'F')

/-- `1*DIGIT`。 -/
def Digits1 (ds : Bytes) : Prop := ds ≠ [] ∧ ∀ c ∈ ds, Digit c

/-- `int = zero / ( digit1-9 *DIGIT )`。 -/
def IntPart (t : Bytes) : Prop :=
  t = [byte '0'] ∨ ∃ c ds, t = c :: ds ∧ byte '1' ≤ c ∧ c ≤ byte '9' ∧ ∀ c ∈ ds, Digit c

/-- `frac = decimal-point 1*DIGIT`。 -/
def Frac (t : Bytes) : Prop := ∃ ds, t = byte '.' :: ds ∧ Digits1 ds

/-- `exp = e [ minus / plus ] 1*DIGIT`、`e = %x65 / %x45`。 -/
def Exp (t : Bytes) : Prop :=
  ∃ e sign ds, t = e :: sign ++ ds ∧ (e = byte 'e' ∨ e = byte 'E') ∧
    (sign = [] ∨ sign = [byte '-'] ∨ sign = [byte '+']) ∧ Digits1 ds

/-- §6 の `number = [ minus ] int [ frac ] [ exp ]`。 -/
def Number (t : Bytes) : Prop :=
  ∃ m i f e, t = m ++ i ++ f ++ e ∧ (m = [] ∨ m = [byte '-']) ∧ IntPart i ∧
    (f = [] ∨ Frac f) ∧ (e = [] ∨ Exp e)

/-- §7 の `*char`。`unescaped` は byte で言う：0x20 以上で、`"` でも `\` でもない byte。 -/
inductive Chars : Bytes → Prop
  /-- 空の並び。 -/
  | nil : Chars []
  /-- `unescaped`。 -/
  | unescaped {c : UInt8} {t : Bytes} : 0x20 ≤ c → c ≠ byte '"' → c ≠ byte '\\' → Chars t →
      Chars (c :: t)
  /-- `escape ( %x22 / %x5C / %x2F / %x62 / %x66 / %x6E / %x72 / %x74 )`。 -/
  | escape {e : UInt8} {t : Bytes} : e ∈ ascii "\"\\/bfnrt" → Chars t →
      Chars (byte '\\' :: e :: t)
  /-- `escape %x75 4HEXDIG`。 -/
  | unicode {a b c e : UInt8} {t : Bytes} : HexDig a → HexDig b → HexDig c → HexDig e → Chars t →
      Chars (byte '\\' :: byte 'u' :: a :: b :: c :: e :: t)

/-- `string = quotation-mark *char quotation-mark`。 -/
def StringLit (t : Bytes) : Prop := ∃ cs, t = byte '"' :: cs ++ [byte '"'] ∧ Chars cs

/-- 入れ子になる記号：`value`、`array` の中の `value *( value-separator value )`、
`object` の中の `member *( value-separator member )`。 -/
inductive Sym where
  | value
  | elements
  | members
  deriving DecidableEq, Repr

/-- §3–5 の文法。`Derives k t` は、記号 `k` から byte 列 `t` が導かれること。値の前後の `ws` は
外側の規則が持つ。 -/
inductive Derives : Sym → Bytes → Prop
  /-- `null`。 -/
  | nullLit : Derives .value (ascii "null")
  /-- `true`。 -/
  | trueLit : Derives .value (ascii "true")
  /-- `false`。 -/
  | falseLit : Derives .value (ascii "false")
  /-- `number`。 -/
  | number {t : Bytes} : Number t → Derives .value t
  /-- `string`。 -/
  | string {t : Bytes} : StringLit t → Derives .value t
  /-- `array = begin-array end-array`。 -/
  | emptyArray {w : Bytes} : Ws w → Derives .value (byte '[' :: w ++ [byte ']'])
  /-- `array = begin-array value *( value-separator value ) end-array`。 -/
  | array {w₁ t w₂ : Bytes} : Ws w₁ → Derives .elements t → Ws w₂ →
      Derives .value (byte '[' :: w₁ ++ t ++ w₂ ++ [byte ']'])
  /-- `object = begin-object end-object`。 -/
  | emptyObject {w : Bytes} : Ws w → Derives .value (byte '{' :: w ++ [byte '}'])
  /-- `object = begin-object member *( value-separator member ) end-object`。 -/
  | object {w₁ t w₂ : Bytes} : Ws w₁ → Derives .members t → Ws w₂ →
      Derives .value (byte '{' :: w₁ ++ t ++ w₂ ++ [byte '}'])
  /-- 最後の要素。 -/
  | element {v : Bytes} : Derives .value v → Derives .elements v
  /-- 要素と `value-separator = ws %x2C ws` と、その後の要素。 -/
  | elementsCons {v w₁ w₂ t : Bytes} : Derives .value v → Ws w₁ → Ws w₂ → Derives .elements t →
      Derives .elements (v ++ w₁ ++ byte ',' :: w₂ ++ t)
  /-- 最後の `member = string name-separator value`。 -/
  | member {k w₁ w₂ v : Bytes} : StringLit k → Ws w₁ → Ws w₂ → Derives .value v →
      Derives .members (k ++ w₁ ++ byte ':' :: w₂ ++ v)
  /-- member と `value-separator` と、その後の member。 -/
  | membersCons {k w₁ w₂ v w₃ w₄ t : Bytes} : StringLit k → Ws w₁ → Ws w₂ → Derives .value v →
      Ws w₃ → Ws w₄ → Derives .members t →
      Derives .members (k ++ w₁ ++ byte ':' :: w₂ ++ v ++ w₃ ++ byte ',' :: w₄ ++ t)

/-- §2 の `JSON-text = ws value ws`。 -/
def JsonText (s : Bytes) : Prop :=
  ∃ w₁ t w₂, s = w₁ ++ t ++ w₂ ∧ Ws w₁ ∧ Derives .value t ∧ Ws w₂

/-- `std::strtod` が数の文法の一語を最後まで読むこと。C の locale の `strtod` は十進の浮動小数点数の
形をすべて読む（範囲を超えると `HUGE_VAL` を返すが、`end` は末尾まで進む）ので、これを満たす。 -/
def StrtodReadsNumbers (d : DoubleText) : Prop := ∀ t, Number t → (d.strtod t).isSome

/-- どの語も 0 と読む変換。数の語をすべて読むので、`StrtodReadsNumbers` を満たす。 -/
def zeroStrtod : DoubleText := ⟨fun _ => [], fun _ => some 0⟩

/-! ## 空白 -/

theorem isWhitespace_iff (c : UInt8) :
    isWhitespace c = true ↔ c = byte ' ' ∨ c = byte '\t' ∨ c = byte '\n' ∨ c = byte '\r' := by
  simp only [isWhitespace, Bool.or_eq_true, decide_eq_true_eq, or_assoc]

theorem ws_iff {w : Bytes} : Ws w ↔ ∀ c ∈ w, isWhitespace c = true := by
  simp only [Ws, isWhitespace_iff]

theorem Ws.append {w₁ w₂ : Bytes} (h₁ : Ws w₁) (h₂ : Ws w₂) : Ws (w₁ ++ w₂) :=
  List.forall_mem_append.2 ⟨h₁, h₂⟩

theorem ws_nil : Ws [] := fun _ h => nomatch h

/-- `skipWhitespace` が飛ばすのは `ws`。 -/
theorem skipWhitespace_split (s : Bytes) : ∃ w, s = w ++ skipWhitespace s ∧ Ws w :=
  ⟨s.takeWhile isWhitespace, (List.takeWhile_append_dropWhile _ _).symm,
    ws_iff.2 fun _ hc => List.mem_takeWhile_imp hc⟩

/-- 先頭の一文字が `c`（`'\0'` でない）なら、列は `c` で始まる。 -/
theorem eq_cons_of_peek {s : Bytes} {c : UInt8} (h : peek s = c) (hc : c ≠ 0) : s = c :: s.tail := by
  cases s with
  | nil => exact absurd h.symm hc
  | cons c' t => rw [← h]; rfl

/-- `skipWhitespace` の後の一文字が `c`（`'\0'` でない）なら、入力は `ws`、`c`、その後に分かれる。 -/
theorem skipWhitespace_peek {s : Bytes} {c : UInt8} (h : peek (skipWhitespace s) = c) (hc : c ≠ 0) :
    ∃ w u, s = w ++ c :: u ∧ Ws w ∧ (skipWhitespace s).tail = u := by
  obtain ⟨w, hs, hw⟩ := skipWhitespace_split s
  exact ⟨w, _, by rw [← eq_cons_of_peek h hc]; exact hs, hw, rfl⟩

/-- `skipWhitespace` が空を返すなら、入力は `ws`。 -/
theorem ws_of_skipWhitespace {s : Bytes} (h : skipWhitespace s = []) : Ws s := by
  obtain ⟨w, hs, hw⟩ := skipWhitespace_split s
  rw [h, List.append_nil] at hs
  exact hs ▸ hw

/-! ## 数の健全性 -/

theorem isDigit_iff (c : UInt8) : isDigit c = true ↔ Digit c := by
  simp only [isDigit, Digit, Bool.and_eq_true, decide_eq_true_eq]

/-- `span isDigit` は入力を、数字の並びと残りに分ける。 -/
theorem span_isDigit (s : Bytes) :
    s = (s.span isDigit).1 ++ (s.span isDigit).2 ∧ ∀ c ∈ (s.span isDigit).1, Digit c := by
  rw [List.span_eq_take_drop]
  exact ⟨(List.takeWhile_append_dropWhile _ _).symm,
    fun c hc => (isDigit_iff c).1 (List.mem_takeWhile_imp hc)⟩

theorem scanSign_sound (s : Bytes) :
    s = (scanSign s).1 ++ (scanSign s).2 ∧ ((scanSign s).1 = [] ∨ (scanSign s).1 = [byte '-']) := by
  unfold scanSign
  split
  · exact ⟨eq_cons_of_peek ‹_› (by decide), .inr rfl⟩
  · exact ⟨rfl, .inl rfl⟩

theorem scanInt_sound {s i r : Bytes} (h : scanInt s = .ok (i, r)) : s = i ++ r ∧ IntPart i := by
  unfold scanInt at h
  split_ifs at h with h0 h19
  · cases h
    exact ⟨eq_cons_of_peek h0 (by decide), .inl rfl⟩
  · have hsp : s.span isDigit = (i, r) := Except.ok.inj h
    obtain ⟨hs, hd⟩ := span_isDigit s
    rw [hsp] at hs hd
    refine ⟨hs, .inr ?_⟩
    cases s with
    | nil => exact absurd h19.1 (by decide)
    | cons c u =>
      have hc : isDigit c = true :=
        (isDigit_iff c).2 ⟨UInt8.le_trans (by decide) h19.1, h19.2⟩
      rw [List.span_eq_take_drop, List.takeWhile_cons_of_pos hc] at hsp
      cases hsp
      exact ⟨c, _, rfl, h19.1, h19.2, fun d hd' => hd d (List.mem_cons_of_mem c hd')⟩

theorem scanFrac_sound {s f r : Bytes} (h : scanFrac s = .ok (f, r)) :
    s = f ++ r ∧ (f = [] ∨ Frac f) := by
  unfold scanFrac at h
  split_ifs at h with hp
  · obtain ⟨hs, hd⟩ := span_isDigit s.tail
    generalize s.tail.span isDigit = p at h hs hd
    obtain ⟨ds, rest⟩ := p
    dsimp only at h hs hd
    split_ifs at h with hne
    cases h
    exact ⟨by rw [eq_cons_of_peek hp (by decide), hs]; rfl, .inr ⟨ds, rfl, hne, hd⟩⟩
  · cases h
    exact ⟨rfl, .inl rfl⟩

/-- 指数の符号の後の残りと、読んだ符号。 -/
theorem expSign_sound (s : Bytes) :
    ∃ sign s', (if peek s = byte '+' ∨ peek s = byte '-' then ([peek s], s.tail) else ([], s)) =
      (sign, s') ∧ s = sign ++ s' ∧ (sign = [] ∨ sign = [byte '-'] ∨ sign = [byte '+']) := by
  split_ifs with hpm
  · rcases hpm with h | h <;>
      exact ⟨_, _, rfl, eq_cons_of_peek rfl (by rw [h]; decide), by simp [h]⟩
  · exact ⟨[], s, rfl, rfl, .inl rfl⟩

theorem scanExp_sound {s x r : Bytes} (h : scanExp s = .ok (x, r)) :
    s = x ++ r ∧ (x = [] ∨ Exp x) := by
  unfold scanExp at h
  by_cases he : peek s = byte 'e' ∨ peek s = byte 'E'
  · rw [if_pos he] at h
    have hs : s = peek s :: s.tail :=
      eq_cons_of_peek rfl (by rcases he with h | h <;> rw [h] <;> decide)
    obtain ⟨sign, s', hsign, hs', hsg⟩ := expSign_sound s.tail
    rw [hsign] at h
    dsimp only at h
    obtain ⟨hds, hd⟩ := span_isDigit s'
    generalize s'.span isDigit = p at h hds hd
    obtain ⟨ds, rest⟩ := p
    dsimp only at h hds hd
    split_ifs at h with hne
    cases h
    refine ⟨?_, .inr ⟨peek s, sign, ds, rfl, he, hsg, hne, hd⟩⟩
    conv_lhs => rw [hs, hs', hds]
    simp
  · rw [if_neg he] at h
    cases h
    exact ⟨rfl, .inl rfl⟩

/-- `parseNumber()` が文法で読む `numStr` は `number`。 -/
theorem scanNumber_number {s t r : Bytes} (h : scanNumber s = .ok (t, r)) : s = t ++ r ∧ Number t := by
  obtain ⟨hs, hm⟩ := scanSign_sound s
  unfold scanNumber at h
  generalize scanSign s = p at h hs hm
  obtain ⟨m, s₁⟩ := p
  dsimp only at h hs hm
  obtain ⟨⟨i, s₂⟩, hi, h⟩ := bind_eq_ok.1 h
  dsimp only at h
  obtain ⟨⟨f, s₃⟩, hf, h⟩ := bind_eq_ok.1 h
  dsimp only at h
  obtain ⟨⟨e, s₄⟩, he, h⟩ := bind_eq_ok.1 h
  cases h
  obtain ⟨h₁, hi⟩ := scanInt_sound hi
  obtain ⟨h₂, hf⟩ := scanFrac_sound hf
  obtain ⟨h₃, he⟩ := scanExp_sound he
  exact ⟨by rw [hs, h₁, h₂, h₃]; simp, m, i, f, e, rfl, hm, hi, hf, he⟩

theorem parseNumber_number {d : DoubleText} {s : Bytes} {v : Json} {r : Bytes}
    (h : parseNumber d s = .ok (v, r)) : ∃ t, s = t ++ r ∧ Number t := by
  obtain ⟨⟨t, r'⟩, hsc, h⟩ := bind_eq_ok.1 h
  obtain ⟨hs, hn⟩ := scanNumber_number hsc
  dsimp only at h
  split at h
  · cases h
    exact ⟨t, hs, hn⟩
  · cases h

/-! ## 文字列 -/

theorem hexValue_hexDig {c : UInt8} : (hexValue c).isSome ↔ HexDig c := by
  unfold hexValue HexDig Digit
  split_ifs with h1 h2 h3
  · exact iff_of_true rfl (.inl h1)
  · exact iff_of_true rfl (.inr (.inl h2))
  · exact iff_of_true rfl (.inr (.inr h3))
  · exact iff_of_false Bool.false_ne_true (by rintro (h | h | h) <;> contradiction)

theorem hexQuad_hexDig {a b c e : UInt8} :
    (hexQuad a b c e).isSome ↔ HexDig a ∧ HexDig b ∧ HexDig c ∧ HexDig e := by
  simp only [← hexValue_hexDig, hexQuad, Option.pure_def, Option.bind_eq_bind]
  cases hexValue a <;> cases hexValue b <;> cases hexValue c <;> cases hexValue e <;> simp

/-- `\` の後の一文字（`u` を除く）を `unescape` が読むのは、§7 の八つの文字のとき。 -/
theorem unescape_isSome {e : UInt8} : (unescape e).isSome ↔ e ∈ ascii "\"\\/bfnrt" := by
  refine ⟨fun h => ?_, fun h => (by decide : ∀ e ∈ ascii "\"\\/bfnrt", (unescape e).isSome) e h⟩
  -- 八つのどれでもなければ、`if` はすべて外れて `none`
  by_contra hn
  simp only [ascii, String.toList, List.map, List.mem_cons, not_or] at hn
  simp only [unescape, byte, hn, if_false, Option.isSome_none, Bool.false_eq_true] at h

theorem escape_ne_u : ∀ e ∈ ascii "\"\\/bfnrt", e ≠ byte 'u' := by decide

theorem parseStringBody_cons (result : Bytes) (c : UInt8) (rest : Bytes) :
    parseStringBody result (c :: rest) =
      if c = byte '"' then .ok (result, rest)
      else if c = byte '\\' then
        match rest with
        | [] => .error .nullopt
        | e :: rest =>
          if e = byte 'u' then
            match rest with
            | a :: b :: c :: e :: rest =>
              match hexQuad a b c e with
              | some cp => parseStringBody (result ++ utf8Bytes cp) rest
              | none => .error .nullopt
            | _ => .error .nullopt
          else
            match unescape e with
            | some b => parseStringBody (result ++ [b]) rest
            | none => .error .nullopt
      else if c < 0x20 then .error .nullopt
      else parseStringBody (result ++ [c]) rest := by
  rw [parseStringBody.eq_def]
  rfl

/-- `parseStringBody` が読んだ部分は、閉じ引用符の前までが `*char`。 -/
theorem parseStringBody_chars {result s str rest : Bytes}
    (h : parseStringBody result s = .ok (str, rest)) : ∃ cs, s = cs ++ byte '"' :: rest ∧ Chars cs := by
  induction result, s using parseStringBody.induct with
  | case1 => cases h
  | case2 result tail =>
    rw [parseStringBody_cons, if_pos rfl] at h
    cases h
    exact ⟨[], rfl, .nil⟩
  | case3 result hne =>
    rw [parseStringBody_cons, if_neg hne, if_pos rfl] at h
    cases h
  | case4 result a b c e rest' cp hq _ ih =>
    rw [parseStringBody_unicode, hq] at h
    obtain ⟨cs, rfl, hcs⟩ := ih h
    have hd := hexQuad_hexDig.1 (by rw [hq]; rfl)
    exact ⟨_, rfl, .unicode hd.1 hd.2.1 hd.2.2.1 hd.2.2.2 hcs⟩
  | case5 result a b c e rest' hq _ =>
    rw [parseStringBody_unicode, hq] at h
    cases h
  | case6 result rest' hshort hne =>
    rw [parseStringBody_cons, if_neg hne, if_pos rfl] at h
    simp only [if_true] at h
    cases h
  | case7 result e rest' hu b hb hne ih =>
    rw [parseStringBody_cons, if_neg hne, if_pos rfl] at h
    simp only [if_neg hu, hb] at h
    obtain ⟨cs, rfl, hcs⟩ := ih h
    exact ⟨_, rfl, .escape (unescape_isSome.1 (by rw [hb]; rfl)) hcs⟩
  | case8 result e rest' hu hb hne =>
    rw [parseStringBody_cons, if_neg hne, if_pos rfl] at h
    simp only [if_neg hu, hb] at h
    cases h
  | case9 result c tail hq hb hlt =>
    rw [parseStringBody_cons, if_neg hq, if_neg hb, if_pos hlt] at h
    cases h
  | case10 result c tail hq hb hlt ih =>
    rw [parseStringBody_cons, if_neg hq, if_neg hb, if_neg hlt] at h
    obtain ⟨cs, rfl, hcs⟩ := ih h
    exact ⟨_, rfl, .unescaped (UInt8.not_lt.1 hlt) hq hb hcs⟩

/-- `parseString()` が読んだ部分は `string`。 -/
theorem parseString_stringLit {s r : Bytes} {j : Json} (h : parseString s = .ok (j, r)) :
    ∃ t, s = t ++ r ∧ StringLit t := by
  unfold parseString at h
  split at h
  · cases h
  · rename_i hp
    obtain ⟨⟨str, rest⟩, hb, h⟩ := bind_eq_ok.1 h
    cases h
    obtain ⟨cs, hcs, hc⟩ := parseStringBody_chars hb
    refine ⟨byte '"' :: cs ++ [byte '"'], ?_, cs, rfl, hc⟩
    rw [eq_cons_of_peek (not_not.1 hp) (by decide), hcs]
    simp

/-- `*char` は閉じ引用符まで読み切られる。 -/
theorem parseStringBody_of_chars {cs : Bytes} (h : Chars cs) (result rest : Bytes) :
    ∃ str, parseStringBody result (cs ++ byte '"' :: rest) = .ok (str, rest) := by
  induction h generalizing result with
  | nil => exact ⟨result, by rw [List.nil_append, parseStringBody_cons, if_pos rfl]⟩
  | unescaped h20 hq hb _ ih =>
    rw [List.cons_append, parseStringBody_cons, if_neg hq, if_neg hb, if_neg (UInt8.not_lt.2 h20)]
    exact ih _
  | escape he _ ih =>
    obtain ⟨b, hb⟩ := Option.isSome_iff_exists.1 (unescape_isSome.2 he)
    rw [List.cons_append, List.cons_append, parseStringBody_cons, if_neg (by decide), if_pos rfl]
    simp only [if_neg (escape_ne_u _ he), hb]
    exact ih _
  | unicode ha hb hc he _ ih =>
    obtain ⟨cp, hq⟩ := Option.isSome_iff_exists.1 (hexQuad_hexDig.2 ⟨ha, hb, hc, he⟩)
    simp only [List.cons_append]
    rw [parseStringBody_unicode, hq]
    exact ih _

theorem parseString_of_stringLit {t : Bytes} (h : StringLit t) (rest : Bytes) :
    ∃ str, parseString (t ++ rest) = .ok (.string str, rest) := by
  obtain ⟨cs, rfl, hcs⟩ := h
  obtain ⟨str, hb⟩ := parseStringBody_of_chars hcs [] rest
  refine ⟨str, ?_⟩
  simp only [parseString, List.cons_append, List.append_assoc, List.nil_append, peek_cons,
    ne_eq, not_true_eq_false, if_false, List.tail_cons, hb]
  rfl

/-! ## 健全性：parser が読んだものは文法から導かれる -/

theorem parseNull_sound {s r : Bytes} {v : Json} (h : parseNull s = .ok (v, r)) :
    s = ascii "null" ++ r := by
  unfold parseNull at h
  split_ifs at h with h4
  cases h
  rw [← h4, List.take_append_drop]

theorem parseBool_sound {s r : Bytes} {v : Json} (h : parseBool s = .ok (v, r)) :
    s = ascii "true" ++ r ∨ s = ascii "false" ++ r := by
  unfold parseBool at h
  split_ifs at h with h4 h5 <;> cases h
  · exact .inl (by rw [← h4, List.take_append_drop])
  · exact .inr (by rw [← h5, List.take_append_drop])

/-- parser の五つの関数が読んだ部分は、文法の対応する記号から導かれる。読み残しはそのまま返る。 -/
theorem parse_derives (d : DoubleText) : ∀ fuel,
    (∀ s v r, parseValue d fuel s = .ok (v, r) →
      ∃ w t, s = w ++ t ++ r ∧ Ws w ∧ Derives .value t) ∧
    (∀ s v r, parseArray d fuel s = .ok (v, r) → ∃ t, s = t ++ r ∧ Derives .value t) ∧
    (∀ arr s v r, parseElements d fuel arr s = .ok (v, r) →
      ∃ w t w', s = w ++ t ++ w' ++ byte ']' :: r ∧ Ws w ∧ Derives .elements t ∧ Ws w') ∧
    (∀ s v r, parseObject d fuel s = .ok (v, r) → ∃ t, s = t ++ r ∧ Derives .value t) ∧
    (∀ obj s v r, parseMembers d fuel obj s = .ok (v, r) →
      ∃ w t w', s = w ++ t ++ w' ++ byte '}' :: r ∧ Ws w ∧ Derives .members t ∧ Ws w')
  | 0 => ⟨(fun _ _ _ h => nomatch h), (fun _ _ _ h => nomatch h), (fun _ _ _ _ h => nomatch h),
      (fun _ _ _ h => nomatch h), (fun _ _ _ _ h => nomatch h)⟩
  | n + 1 => by
    obtain ⟨ihV, ihA, ihE, ihO, ihM⟩ := parse_derives d n
    refine ⟨fun s v r h => ?_, fun s v r h => ?_, fun arr s v r h => ?_, fun s v r h => ?_,
      fun obj s v r h => ?_⟩
    · -- `parseValue`：空白を飛ばし、先頭の一文字で選んだ関数が読む
      obtain ⟨w, hs, hw⟩ := skipWhitespace_split s
      suffices ∃ t, skipWhitespace s = t ++ r ∧ Derives .value t by
        obtain ⟨t, ht, hd⟩ := this
        exact ⟨w, t, by rw [hs, ht, List.append_assoc], hw, hd⟩
      rcases parseValue_ok h with h | h | h | h | h | h
      · exact ⟨_, parseNull_sound h, .nullLit⟩
      · rcases parseBool_sound h with h | h
        · exact ⟨_, h, .trueLit⟩
        · exact ⟨_, h, .falseLit⟩
      · obtain ⟨t, ht, hl⟩ := parseString_stringLit h
        exact ⟨t, ht, .string hl⟩
      · exact ihA _ _ _ h
      · exact ihO _ _ _ h
      · obtain ⟨t, ht, hn⟩ := parseNumber_number h
        exact ⟨t, ht, .number hn⟩
    · -- `parseArray`：`[`、空白、そして `]` か要素の並び
      rw [parseArray.eq_2] at h
      dsimp only at h
      split_ifs at h with h1 h2
      · obtain ⟨u, rfl⟩ : ∃ u, s = byte '[' :: u := ⟨_, eq_cons_of_peek (not_not.1 h1) (by decide)⟩
        simp only [List.tail_cons] at h h2
        obtain ⟨w, u', rfl, hw, hu⟩ := skipWhitespace_peek h2 (by decide)
        rw [hu] at h
        cases h
        exact ⟨byte '[' :: w ++ [byte ']'], by simp, .emptyArray hw⟩
      · obtain ⟨u, rfl⟩ : ∃ u, s = byte '[' :: u := ⟨_, eq_cons_of_peek (not_not.1 h1) (by decide)⟩
        simp only [List.tail_cons] at h
        obtain ⟨w, hu, hw⟩ := skipWhitespace_split u
        obtain ⟨w₀, t, w', ht, hw₀, hd, hw'⟩ := ihE _ _ _ _ h
        refine ⟨_, ?_, .array (hw.append hw₀) hd hw'⟩
        rw [hu, ht]
        simp
    · -- `parseElements`：値を読み、`]` で閉じるか `,` の後を続けて読む
      rw [parseElements.eq_2] at h
      dsimp only at h
      rw [bind_eq_ok] at h
      obtain ⟨⟨x, s₁⟩, hx, h⟩ := h
      dsimp only at h
      obtain ⟨w₀, t₀, rfl, hw₀, hd₀⟩ := ihV _ _ _ hx
      split_ifs at h with h1 h2
      · obtain ⟨w, u, rfl, hw, hu⟩ := skipWhitespace_peek h1 (by decide)
        rw [hu] at h
        cases h
        exact ⟨w₀, t₀, w, by simp, hw₀, .element hd₀, hw⟩
      · obtain ⟨w, u, rfl, hw, hu⟩ := skipWhitespace_peek h2 (by decide)
        rw [hu] at h
        obtain ⟨w₂, t, w', rfl, hw₂, hd, hw'⟩ := ihE _ _ _ _ h
        exact ⟨w₀, _, w', by simp, hw₀, .elementsCons hd₀ hw hw₂ hd, hw'⟩
    · -- `parseObject`：`{`、空白、そして `}` か member の並び
      rw [parseObject.eq_2] at h
      dsimp only at h
      split_ifs at h with h1 h2
      · obtain ⟨u, rfl⟩ : ∃ u, s = byte '{' :: u := ⟨_, eq_cons_of_peek (not_not.1 h1) (by decide)⟩
        simp only [List.tail_cons] at h h2
        obtain ⟨w, u', rfl, hw, hu⟩ := skipWhitespace_peek h2 (by decide)
        rw [hu] at h
        cases h
        exact ⟨byte '{' :: w ++ [byte '}'], by simp, .emptyObject hw⟩
      · obtain ⟨u, rfl⟩ : ∃ u, s = byte '{' :: u := ⟨_, eq_cons_of_peek (not_not.1 h1) (by decide)⟩
        simp only [List.tail_cons] at h
        obtain ⟨w, hu, hw⟩ := skipWhitespace_split u
        obtain ⟨w₀, t, w', ht, hw₀, hd, hw'⟩ := ihM _ _ _ _ h
        refine ⟨_, ?_, .object (hw.append hw₀) hd hw'⟩
        rw [hu, ht]
        simp
    · -- `parseMembers`：鍵、`:`、値を読み、`}` で閉じるか `,` の後を続けて読む
      rw [parseMembers.eq_2] at h
      dsimp only at h
      rw [bind_eq_ok] at h
      obtain ⟨⟨key, s₁⟩, hk, h⟩ := h
      dsimp only at h
      obtain ⟨w₀, hs, hw₀⟩ := skipWhitespace_split s
      obtain ⟨k, hk', hkl⟩ := parseString_stringLit hk
      split at h
      · split_ifs at h with hc
        obtain ⟨w₁, u, rfl, hw₁, hu⟩ := skipWhitespace_peek (not_not.1 hc) (by decide)
        rw [hu] at h
        rw [bind_eq_ok] at h
        obtain ⟨⟨x, s₂⟩, hx, h⟩ := h
        dsimp only at h
        obtain ⟨w₂, t₀, rfl, hw₂, hd₀⟩ := ihV _ _ _ hx
        split_ifs at h with h1 h2
        · obtain ⟨w₃, u', rfl, hw₃, hu'⟩ := skipWhitespace_peek h1 (by decide)
          rw [hu'] at h
          cases h
          exact ⟨w₀, _, w₃, by rw [hs, hk']; simp, hw₀, .member hkl hw₁ hw₂ hd₀, hw₃⟩
        · obtain ⟨w₃, u', rfl, hw₃, hu'⟩ := skipWhitespace_peek h2 (by decide)
          rw [hu'] at h
          obtain ⟨w₄, t, w', rfl, hw₄, hd, hw'⟩ := ihM _ _ _ _ h
          exact ⟨w₀, _, w', by rw [hs, hk']; simp, hw₀,
            .membersCons hkl hw₁ hw₂ hd₀ hw₃ hw₄ hd, hw'⟩
      · cases h

/-- **健全性。** `Json::parse` が値を返す入力は `JSON-text`。 -/
theorem jsonText_of_parse {d : DoubleText} {s : Bytes} {v : Json} (h : parse d s = some v) :
    JsonText s := by
  unfold parse at h
  dsimp only at h
  split at h
  · cases h
  · split at h
    · rename_i rest hv
      split at h
      · obtain ⟨w, hs, hw⟩ := skipWhitespace_split s
        obtain ⟨w', t, ht, hw', hd⟩ := (parse_derives d _).1 _ _ _ hv
        exact ⟨w ++ w', t, rest, by rw [hs, ht]; simp, hw.append hw', hd,
          ws_of_skipWhitespace ‹_›⟩
      · cases h
    · cases h

/-! ## 完全性：文法から導かれたものは parser が読む -/

/-- 導かれた byte 列は空でなく、空白でも閉じ括弧でもない byte で始まる。 -/
theorem Number.head {t : Bytes} (h : Number t) :
    ∃ c u, t = c :: u ∧ (c = byte '-' ∨ isDigit c = true) := by
  obtain ⟨m, i, f, e, rfl, rfl | rfl, hi, -, -⟩ := h
  · rcases hi with rfl | ⟨c, ds, rfl, h1, h9, -⟩
    · exact ⟨_, _, rfl, .inr rfl⟩
    · exact ⟨c, _, rfl, .inr ((isDigit_iff c).2 ⟨UInt8.le_trans (by decide) h1, h9⟩)⟩
  · exact ⟨_, _, rfl, .inl rfl⟩

theorem Derives.head {k : Sym} {t : Bytes} (h : Derives k t) :
    ∃ c u, t = c :: u ∧ isWhitespace c = false ∧ c ≠ byte ']' ∧ c ≠ byte '}' := by
  induction h with
  | nullLit | trueLit | falseLit | emptyArray | array | emptyObject | object =>
    exact ⟨_, _, rfl, rfl, by decide, by decide⟩
  | number hn =>
    obtain ⟨c, u, rfl, hc⟩ := hn.head
    obtain ⟨hws, hb, -⟩ := numberStart_not c hc
    refine ⟨c, u, rfl, hws, hb, ?_⟩
    rintro rfl
    rcases hc with h | h <;> exact absurd h (by decide)
  | string hs =>
    obtain ⟨cs, rfl, -⟩ := hs
    exact ⟨_, _, rfl, rfl, by decide, by decide⟩
  | element _ ih => exact ih
  | elementsCons _ _ _ _ ih =>
    obtain ⟨c, u, rfl, hc⟩ := ih
    exact ⟨c, _, rfl, hc⟩
  | member hk | membersCons hk =>
    obtain ⟨cs, rfl, -⟩ := hk
    exact ⟨_, _, rfl, rfl, by decide, by decide⟩

/-- `ws` だけの残りも、数を延ばさない。 -/
theorem numberEnd_ws {w : Bytes} (hw : Ws w) : numberEnd w = true := by
  cases w with
  | nil => rfl
  | cons a w => exact numberEnd_cons w (.inr (.inr (.inr (ws_iff.1 hw a (List.mem_cons_self a w)))))

/-- `ws` の後に `,`、`]`、`}` が来る残りは、数を延ばさない。 -/
theorem numberEnd_ws_cons {w : Bytes} (hw : Ws w) {c : UInt8}
    (hc : c = byte ',' ∨ c = byte ']' ∨ c = byte '}') (r : Bytes) :
    numberEnd (w ++ c :: r) = true := by
  cases w with
  | nil => exact numberEnd_cons r (by rcases hc with h | h | h <;> simp [h])
  | cons a w => exact numberEnd_cons _ (.inr (.inr (.inr (ws_iff.1 hw a (List.mem_cons_self a w)))))

/-- 指数部の後は、数字でも `.` でもない。 -/
theorem exp_follow {e r : Bytes} (he : e = [] ∨ Exp e) (hr : numberEnd r = true) :
    isDigit (peek (e ++ r)) = false ∧ peek (e ++ r) ≠ byte '.' := by
  simp only [numberEnd, Bool.and_eq_true, bne_iff_ne, Bool.not_eq_true'] at hr
  rcases he with rfl | ⟨c, sign, ds, rfl, rfl | rfl, -, -⟩
  · exact ⟨hr.1.1.1, hr.1.1.2⟩
  · exact ⟨rfl, (by decide : byte 'e' ≠ byte '.')⟩
  · exact ⟨rfl, (by decide : byte 'E' ≠ byte '.')⟩

theorem scanSign_of_intPart {m i r : Bytes} (hm : m = [] ∨ m = [byte '-']) (hi : IntPart i) :
    scanSign (m ++ (i ++ r)) = (m, i ++ r) := by
  rcases hm with rfl | rfl
  · rcases hi with rfl | ⟨c, ds, rfl, h1, -, -⟩
    · rfl
    · have hc : c ≠ byte '-' := by rintro rfl; exact absurd h1 (by decide)
      rw [scanSign, List.nil_append, List.cons_append, peek_cons, if_neg hc]
  · rfl

theorem scanInt_of_intPart {i r : Bytes} (hi : IntPart i) (hr : isDigit (peek r) = false) :
    scanInt (i ++ r) = .ok (i, r) := by
  rcases hi with rfl | ⟨c, ds, rfl, h1, h9, hds⟩
  · rfl
  · have hne : c ≠ byte '0' := by rintro rfl; exact absurd h1 (by decide)
    have hall : ∀ x ∈ c :: ds, isDigit x = true := by
      simp only [List.mem_cons, forall_eq_or_imp]
      exact ⟨(isDigit_iff c).2 ⟨UInt8.le_trans (by decide) h1, h9⟩,
        fun x hx => (isDigit_iff x).2 (hds x hx)⟩
    rw [scanInt, List.cons_append, peek_cons, if_neg hne, if_pos ⟨h1, h9⟩, ← List.cons_append,
      span_isDigit_append hall hr]

theorem scanFrac_of_frac {f r : Bytes} (hf : f = [] ∨ Frac f) (hr : isDigit (peek r) = false)
    (hd : peek r ≠ byte '.') : scanFrac (f ++ r) = .ok (f, r) := by
  rcases hf with rfl | ⟨ds, rfl, hne, hds⟩
  · rw [List.nil_append, scanFrac, if_neg hd]
  · have hall : ∀ x ∈ ds, isDigit x = true := fun x hx => (isDigit_iff x).2 (hds x hx)
    rw [scanFrac, List.cons_append, peek_cons, if_pos rfl]
    simp only [List.tail_cons, span_isDigit_append hall hr, if_neg hne]

theorem scanExp_of_exp {e r : Bytes} (he : e = [] ∨ Exp e) (hr : numberEnd r = true) :
    scanExp (e ++ r) = .ok (e, r) := by
  rcases he with rfl | ⟨c, sign, ds, rfl, hc, hsign, hne, hds⟩
  · exact scanExp_of_numberEnd hr
  · have hr' : isDigit (peek r) = false := by
      simp only [numberEnd, Bool.and_eq_true, Bool.not_eq_true'] at hr
      exact hr.1.1.1
    have hall : ∀ x ∈ ds, isDigit x = true := fun x hx => (isDigit_iff x).2 (hds x hx)
    obtain ⟨x, u, rfl⟩ := List.exists_cons_of_ne_nil hne
    have hx : x ≠ byte '+' ∧ x ≠ byte '-' := by
      have := hall x (List.mem_cons_self x u)
      constructor <;> rintro rfl <;> exact absurd this (by decide)
    have hsp : List.span isDigit (x :: (u ++ r)) = (x :: u, r) := span_isDigit_append hall hr'
    rw [scanExp, List.cons_append, List.cons_append, peek_cons, if_pos hc]
    rcases hsign with rfl | rfl | rfl <;>
      simp only [List.nil_append, List.cons_append, List.tail_cons, peek_cons, hx.1, hx.2, or_self,
        or_true, true_or, if_true, if_false, hsp, List.cons_ne_nil]

/-- 数の文法の一語の後に数を延ばさない残りが来れば、`parseNumber()` はちょうどその語を読む。 -/
theorem scanNumber_of_number {t r : Bytes} (h : Number t) (hr : numberEnd r = true) :
    scanNumber (t ++ r) = .ok (t, r) := by
  obtain ⟨m, i, f, e, rfl, hm, hi, hf, he⟩ := h
  obtain ⟨hed, hep⟩ := exp_follow he hr
  have hfd : isDigit (peek (f ++ (e ++ r))) = false := by
    rcases hf with rfl | ⟨ds, rfl, -⟩
    · exact hed
    · rfl
  simp only [List.append_assoc]
  simp only [scanNumber, scanSign_of_intPart hm hi, scanInt_of_intPart hi hfd,
    scanFrac_of_frac hf hed hep, scanExp_of_exp he hr, bind, Except.bind, pure, Except.pure,
    List.append_assoc]

theorem parseNumber_of_number {d : DoubleText} (hd : StrtodReadsNumbers d) {t r : Bytes}
    (h : Number t) (hr : numberEnd r = true) : ∃ v, parseNumber d (t ++ r) = .ok (v, r) := by
  obtain ⟨x, hx⟩ := Option.isSome_iff_exists.1 (hd t h)
  exact ⟨.number x, by simp only [parseNumber, scanNumber_of_number h hr, bind, Except.bind, hx]; rfl⟩

theorem parseValue_null (d : DoubleText) (g : Nat) (r : Bytes) :
    parseValue d (g + 1) (ascii "null" ++ r) = .ok (.null, r) := by
  rw [parseValue.eq_2, @skipWhitespace_of_peek (ascii "null" ++ r) rfl, ← parseNull_null r]
  rfl

theorem parseValue_true (d : DoubleText) (g : Nat) (r : Bytes) :
    parseValue d (g + 1) (ascii "true" ++ r) = .ok (.bool true, r) := by
  rw [parseValue.eq_2, @skipWhitespace_of_peek (ascii "true" ++ r) rfl, ← parseBool_true r]
  rfl

theorem parseValue_false (d : DoubleText) (g : Nat) (r : Bytes) :
    parseValue d (g + 1) (ascii "false" ++ r) = .ok (.bool false, r) := by
  rw [parseValue.eq_2, @skipWhitespace_of_peek (ascii "false" ++ r) rfl, ← parseBool_false r]
  rfl

/-- `[` の後の空白を飛ばした先が `]` なら空の `Array`、そうでなければ要素の並び。 -/
theorem parseValue_openBracket (d : DoubleText) (g : Nat) {w : Bytes} (hw : Ws w) {s : Bytes}
    (hs : isWhitespace (peek s) = false) :
    parseValue d (g + 2) (byte '[' :: w ++ s) =
      if peek s = byte ']' then .ok (.array [], s.tail) else parseElements d g [] s := by
  rw [List.cons_append, parseValue_bracket, parseArray.eq_2]
  simp only [peek_cons, ne_eq, not_true_eq_false, if_false, List.tail_cons,
    skipWhitespace_append_of_ws (ws_iff.1 hw), skipWhitespace_of_peek hs]
  rfl

/-- `{` の後の空白を飛ばした先が `}` なら空の `Object`、そうでなければ member の並び。 -/
theorem parseValue_openBrace (d : DoubleText) (g : Nat) {w : Bytes} (hw : Ws w) {s : Bytes}
    (hs : isWhitespace (peek s) = false) :
    parseValue d (g + 2) (byte '{' :: w ++ s) =
      if peek s = byte '}' then .ok (.object [], s.tail) else parseMembers d g [] s := by
  rw [List.cons_append, parseValue_brace, parseObject.eq_2]
  simp only [peek_cons, ne_eq, not_true_eq_false, if_false, List.tail_cons,
    skipWhitespace_append_of_ws (ws_iff.1 hw), skipWhitespace_of_peek hs]
  rfl

/-- 要素の後に空白と `]` が来れば、`Array` を閉じる。 -/
theorem parseElements_close (d : DoubleText) (g : Nat) (arr : List Json) {s w r : Bytes} {x : Json}
    (hx : parseValue d g s = .ok (x, w ++ byte ']' :: r)) (hw : Ws w) :
    parseElements d (g + 1) arr s = .ok (.array (arr ++ [x]), r) := by
  rw [parseElements.eq_2, hx]
  simp only [bind, Except.bind, skipWhitespace_append_of_ws (ws_iff.1 hw),
    @skipWhitespace_of_peek (byte ']' :: r) rfl, peek_cons, if_true, List.tail_cons]
  rfl

/-- 要素の後に空白と `,` が来れば、その後を続けて読む。 -/
theorem parseElements_next (d : DoubleText) (g : Nat) (arr : List Json) {s w u : Bytes} {x : Json}
    (hx : parseValue d g s = .ok (x, w ++ byte ',' :: u)) (hw : Ws w) :
    parseElements d (g + 1) arr s = parseElements d g (arr ++ [x]) u := by
  rw [parseElements.eq_2, hx]
  simp only [bind, Except.bind, skipWhitespace_append_of_ws (ws_iff.1 hw),
    @skipWhitespace_of_peek (byte ',' :: u) rfl, peek_cons, List.tail_cons]
  rw [if_neg (by decide), if_pos trivial]

/-- 鍵と `:` と値を読んだ後の `parseMembers` の一歩。 -/
theorem parseMembers_string (d : DoubleText) (g : Nat) (obj : List (Bytes × Json)) {k w₁ s u : Bytes}
    {x : Json} (hk : StringLit k) (hw₁ : Ws w₁) (hx : parseValue d g s = .ok (x, u)) :
    ∃ key, parseMembers d (g + 1) obj (k ++ w₁ ++ byte ':' :: s) =
      if peek (skipWhitespace u) = byte '}' then
        .ok (.object (setField obj key x), (skipWhitespace u).tail)
      else if peek (skipWhitespace u) = byte ',' then
        parseMembers d g (setField obj key x) (skipWhitespace u).tail
      else .error .nullopt := by
  obtain ⟨key, hkey⟩ := parseString_of_stringLit hk (w₁ ++ byte ':' :: s)
  refine ⟨key, ?_⟩
  obtain ⟨cs, rfl, -⟩ := hk
  rw [parseMembers.eq_2, List.append_assoc,
    @skipWhitespace_of_peek ((byte '"' :: cs ++ [byte '"']) ++ (w₁ ++ byte ':' :: s)) rfl, hkey]
  simp only [bind, Except.bind, skipWhitespace_append_of_ws (ws_iff.1 hw₁),
    @skipWhitespace_of_peek (byte ':' :: s) rfl, peek_cons, ne_eq, not_true_eq_false, if_false,
    List.tail_cons, hx]
  rfl

/-- 完全性の帰納法で、記号ごとに言うこと：導かれた byte 列は、前に `ws` があっても、長さの 2 倍の
`fuel` で読み切られる。値の後には数を延ばさない残りが、並びの後には `ws` と閉じ括弧が来る。 -/
def Reads (d : DoubleText) : Sym → Bytes → Prop
  | .value, t => ∀ fuel, 2 * t.length ≤ fuel → ∀ w r, Ws w → numberEnd r = true →
      ∃ v, parseValue d fuel (w ++ t ++ r) = .ok (v, r)
  | .elements, t => ∀ fuel, 2 * t.length < fuel → ∀ arr w w' r, Ws w → Ws w' →
      ∃ v, parseElements d fuel arr (w ++ t ++ w' ++ byte ']' :: r) = .ok (v, r)
  | .members, t => ∀ fuel, 2 * t.length < fuel → ∀ obj w w' r, Ws w → Ws w' →
      ∃ v, parseMembers d fuel obj (w ++ t ++ w' ++ byte '}' :: r) = .ok (v, r)

/-- 文法から導かれた byte 列は、parser が読み切る。 -/
theorem derives_reads (d : DoubleText) (hd : StrtodReadsNumbers d) {k : Sym} {t : Bytes}
    (h : Derives k t) : Reads d k t := by
  induction h with
  | nullLit =>
    intro fuel hf w r hw _
    obtain ⟨g, rfl⟩ : ∃ g, fuel = g + 1 := ⟨fuel - 1, by change 2 * 4 ≤ fuel at hf; omega⟩
    exact ⟨_, by rw [List.append_assoc, parseValue_append_ws d _ (ws_iff.1 hw), parseValue_null]⟩
  | trueLit =>
    intro fuel hf w r hw _
    obtain ⟨g, rfl⟩ : ∃ g, fuel = g + 1 := ⟨fuel - 1, by change 2 * 4 ≤ fuel at hf; omega⟩
    exact ⟨_, by rw [List.append_assoc, parseValue_append_ws d _ (ws_iff.1 hw), parseValue_true]⟩
  | falseLit =>
    intro fuel hf w r hw _
    obtain ⟨g, rfl⟩ : ∃ g, fuel = g + 1 := ⟨fuel - 1, by change 2 * 5 ≤ fuel at hf; omega⟩
    exact ⟨_, by rw [List.append_assoc, parseValue_append_ws d _ (ws_iff.1 hw), parseValue_false]⟩
  | number hn =>
    intro fuel hf w r hw hr
    obtain ⟨c, u, rfl, hc⟩ := hn.head
    obtain ⟨g, rfl⟩ : ∃ g, fuel = g + 1 := ⟨fuel - 1, by simp only [List.length_cons] at hf; omega⟩
    rw [List.append_assoc, parseValue_append_ws d _ (ws_iff.1 hw), List.cons_append,
      parseValue_number d g _ hc, ← List.cons_append]
    exact parseNumber_of_number hd hn hr
  | string hs =>
    intro fuel hf w r hw _
    obtain ⟨str, hstr⟩ := parseString_of_stringLit hs r
    obtain ⟨cs, rfl, -⟩ := hs
    obtain ⟨g, rfl⟩ : ∃ g, fuel = g + 1 :=
      ⟨fuel - 1, by simp only [List.length_append, List.length_cons] at hf; omega⟩
    exact ⟨_, by rw [List.append_assoc, parseValue_append_ws d _ (ws_iff.1 hw), ← hstr]; rfl⟩
  | @emptyArray w₀ hw₀ =>
    intro fuel hf w r hw _
    simp only [List.length_cons, List.length_append] at hf
    obtain ⟨g, rfl⟩ : ∃ g, fuel = g + 2 := ⟨fuel - 2, by omega⟩
    refine ⟨.array [], ?_⟩
    rw [show w ++ (byte '[' :: w₀ ++ [byte ']']) ++ r = w ++ (byte '[' :: w₀ ++ byte ']' :: r) by simp,
      parseValue_append_ws d _ (ws_iff.1 hw), parseValue_openBracket d g hw₀ (s := byte ']' :: r) rfl]
    rfl
  | @array w₁ t w₂ hw₁ ht hw₂ ih =>
    intro fuel hf w r hw _
    simp only [List.length_cons, List.length_append] at hf
    obtain ⟨g, rfl⟩ : ∃ g, fuel = g + 2 := ⟨fuel - 2, by omega⟩
    obtain ⟨c, u, hcu, hc, hc', -⟩ := ht.head
    obtain ⟨y, hy⟩ := ih g (by omega) [] [] w₂ r ws_nil hw₂
    refine ⟨y, ?_⟩
    rw [show w ++ (byte '[' :: w₁ ++ t ++ w₂ ++ [byte ']']) ++ r =
        w ++ (byte '[' :: w₁ ++ (t ++ w₂ ++ byte ']' :: r)) by simp,
      parseValue_append_ws d _ (ws_iff.1 hw),
      parseValue_openBracket d g hw₁ (by rw [hcu]; exact hc),
      if_neg (by rw [hcu]; exact hc'), ← hy, List.nil_append]
  | @emptyObject w₀ hw₀ =>
    intro fuel hf w r hw _
    simp only [List.length_cons, List.length_append] at hf
    obtain ⟨g, rfl⟩ : ∃ g, fuel = g + 2 := ⟨fuel - 2, by omega⟩
    refine ⟨.object [], ?_⟩
    rw [show w ++ (byte '{' :: w₀ ++ [byte '}']) ++ r = w ++ (byte '{' :: w₀ ++ byte '}' :: r) by simp,
      parseValue_append_ws d _ (ws_iff.1 hw), parseValue_openBrace d g hw₀ (s := byte '}' :: r) rfl]
    rfl
  | @object w₁ t w₂ hw₁ ht hw₂ ih =>
    intro fuel hf w r hw _
    simp only [List.length_cons, List.length_append] at hf
    obtain ⟨g, rfl⟩ : ∃ g, fuel = g + 2 := ⟨fuel - 2, by omega⟩
    obtain ⟨c, u, hcu, hc, -, hc'⟩ := ht.head
    obtain ⟨y, hy⟩ := ih g (by omega) [] [] w₂ r ws_nil hw₂
    refine ⟨y, ?_⟩
    rw [show w ++ (byte '{' :: w₁ ++ t ++ w₂ ++ [byte '}']) ++ r =
        w ++ (byte '{' :: w₁ ++ (t ++ w₂ ++ byte '}' :: r)) by simp,
      parseValue_append_ws d _ (ws_iff.1 hw),
      parseValue_openBrace d g hw₁ (by rw [hcu]; exact hc),
      if_neg (by rw [hcu]; exact hc'), ← hy, List.nil_append]
  | element _ ih =>
    intro fuel hf arr w w' r hw hw'
    obtain ⟨g, rfl⟩ : ∃ g, fuel = g + 1 := ⟨fuel - 1, by omega⟩
    obtain ⟨x, hx⟩ := ih g (by omega) w (w' ++ byte ']' :: r) hw (numberEnd_ws_cons hw' (by simp) r)
    exact ⟨_, by rw [List.append_assoc]; exact parseElements_close d g arr hx hw'⟩
  | @elementsCons v w₁ w₂ t _ hw₁ hw₂ _ ihv iht =>
    intro fuel hf arr w w' r hw hw'
    simp only [List.length_cons, List.length_append] at hf
    obtain ⟨g, rfl⟩ : ∃ g, fuel = g + 1 := ⟨fuel - 1, by omega⟩
    obtain ⟨x, hx⟩ := ihv g (by omega) w (w₁ ++ byte ',' :: (w₂ ++ t ++ w' ++ byte ']' :: r)) hw
      (numberEnd_ws_cons hw₁ (by simp) _)
    obtain ⟨y, hy⟩ := iht g (by omega) (arr ++ [x]) w₂ w' r hw₂ hw'
    refine ⟨y, ?_⟩
    rw [show w ++ (v ++ w₁ ++ byte ',' :: w₂ ++ t) ++ w' ++ byte ']' :: r =
        w ++ v ++ (w₁ ++ byte ',' :: (w₂ ++ t ++ w' ++ byte ']' :: r)) by simp,
      parseElements_next d g arr hx hw₁, hy]
  | @member k w₁ w₂ v hk hw₁ hw₂ _ ihv =>
    intro fuel hf obj w w' r hw hw'
    simp only [List.length_cons, List.length_append] at hf
    obtain ⟨g, rfl⟩ : ∃ g, fuel = g + 1 := ⟨fuel - 1, by omega⟩
    obtain ⟨x, hx⟩ := ihv g (by omega) w₂ (w' ++ byte '}' :: r) hw₂ (numberEnd_ws_cons hw' (by simp) r)
    obtain ⟨key, hstep⟩ := parseMembers_string d g obj hk hw₁ hx
    refine ⟨.object (setField obj key x), ?_⟩
    rw [show w ++ (k ++ w₁ ++ byte ':' :: w₂ ++ v) ++ w' ++ byte '}' :: r =
        w ++ (k ++ w₁ ++ byte ':' :: (w₂ ++ v ++ (w' ++ byte '}' :: r))) by simp,
      parseMembers_append_ws d _ _ (ws_iff.1 hw), hstep]
    simp only [skipWhitespace_append_of_ws (ws_iff.1 hw'), @skipWhitespace_of_peek (byte '}' :: r) rfl,
      peek_cons, if_true, List.tail_cons]
  | @membersCons k w₁ w₂ v w₃ w₄ t hk hw₁ hw₂ _ hw₃ hw₄ _ ihv iht =>
    intro fuel hf obj w w' r hw hw'
    simp only [List.length_cons, List.length_append] at hf
    obtain ⟨g, rfl⟩ : ∃ g, fuel = g + 1 := ⟨fuel - 1, by omega⟩
    obtain ⟨x, hx⟩ := ihv g (by omega) w₂ (w₃ ++ byte ',' :: (w₄ ++ t ++ w' ++ byte '}' :: r)) hw₂
      (numberEnd_ws_cons hw₃ (by simp) _)
    obtain ⟨key, hstep⟩ := parseMembers_string d g obj hk hw₁ hx
    obtain ⟨y, hy⟩ := iht g (by omega) (setField obj key x) w₄ w' r hw₄ hw'
    refine ⟨y, ?_⟩
    rw [show w ++ (k ++ w₁ ++ byte ':' :: w₂ ++ v ++ w₃ ++ byte ',' :: w₄ ++ t) ++ w' ++
        byte '}' :: r = w ++ (k ++ w₁ ++ byte ':' ::
          (w₂ ++ v ++ (w₃ ++ byte ',' :: (w₄ ++ t ++ w' ++ byte '}' :: r)))) by simp,
      parseMembers_append_ws d _ _ (ws_iff.1 hw), hstep]
    simp only [skipWhitespace_append_of_ws (ws_iff.1 hw₃), @skipWhitespace_of_peek (byte ',' :: _) rfl,
      peek_cons, List.tail_cons]
    rw [if_neg (by decide), if_pos trivial, hy]

theorem skipWhitespace_of_ws {w : Bytes} (hw : Ws w) : skipWhitespace w = [] := by
  simpa using skipWhitespace_append_of_ws (ws_iff.1 hw) []

/-- **完全性。** `std::strtod` が数の語を読めるなら、`JSON-text` には `Json::parse` が値を返す。 -/
theorem parse_of_jsonText {d : DoubleText} (hd : StrtodReadsNumbers d) {s : Bytes}
    (h : JsonText s) : ∃ v, parse d s = some v := by
  obtain ⟨w₁, t, w₂, rfl, hw₁, ht, hw₂⟩ := h
  obtain ⟨c, u, hcu, hc, -⟩ := ht.head
  obtain ⟨v, hv⟩ := derives_reads d hd ht (3 * (w₁ ++ t ++ w₂).length + 3)
    (by simp only [List.length_append]; omega) [] w₂ ws_nil (numberEnd_ws hw₂)
  have hsk : skipWhitespace (w₁ ++ t ++ w₂) = t ++ w₂ := by
    rw [List.append_assoc, skipWhitespace_append_of_ws (ws_iff.1 hw₁),
      skipWhitespace_of_peek (by rw [hcu]; exact hc)]
  refine ⟨v, ?_⟩
  unfold parse
  dsimp only
  rw [hsk, if_neg (by rw [hcu]; exact List.cons_ne_nil _ _), ← List.nil_append (t ++ w₂),
    ← List.append_assoc, hv]
  simp only [skipWhitespace_of_ws hw₂, if_true]

/-- 入れ子の値は文法にあり、末尾の `,` と、先頭の `0` に続く数字は文法にない。 -/
example : JsonText (ascii " [1, \x7b\"a\": -0.5e+3\x7d] ") ∧ ¬ JsonText (ascii "[1,]") ∧
    ¬ JsonText (ascii "01") := by
  refine ⟨jsonText_of_parse (d := zeroStrtod) rfl, fun h => ?_, fun h => ?_⟩ <;>
    obtain ⟨v, hv⟩ := parse_of_jsonText (d := zeroStrtod) (fun _ _ => rfl) h <;> cases hv

/-- **`Json::parse` は RFC 8259 の文法そのものを受け付ける。** どの byte 列 `s` についても、
`Json::parse(s)` が値を返すのは、`s` が `ws`、値一つ、`ws` の並びのときで、そのときに限る。
`std::strtod` には、数の文法の一語を最後まで読むことだけを仮定する。 -/
theorem parse_iff_jsonText (d : DoubleText) (hd : StrtodReadsNumbers d) (s : Bytes) :
    (∃ v, parse d s = some v) ↔ JsonText s :=
  ⟨fun ⟨_, h⟩ => jsonText_of_parse h, parse_of_jsonText hd⟩

theorem parse_iff_jsonText_zero :
    StrtodReadsNumbers zeroStrtod ∧
      ((∃ v, parse zeroStrtod (ascii " [1, \x7b\"a\": -0.5e+3\x7d] ") = some v) ↔
        JsonText (ascii " [1, \x7b\"a\": -0.5e+3\x7d] ")) :=
  ⟨fun _ _ => rfl, parse_iff_jsonText zeroStrtod (fun _ _ => rfl) _⟩

end Json

end Gg
