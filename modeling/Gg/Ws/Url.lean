import Gg.Ws.Handshake

/-!
# URL の読み

`parseUrl`（`part_004` 162–201 行）。`WebSocket::Impl` の constructor がこれを呼び、`connect()` は
`valid()` でないとき `InvalidUrl` で止まる（285–301 行）。

## 仕組み

`wss://` か `ws://` を外し、残りを最初の `/` で `host[:port]` と path に分ける。`host[:port]` の
**最後の** `:` の後ろを `std::stoi` で読み、`static_cast<uint16_t>` で port にする。

`std::stoi` は空白と符号を読み飛ばし、数字が一つもなければ `std::invalid_argument`、`int` に
収まらなければ `std::out_of_range` を投げる。数字の後ろは読まない。`parseUrl` も constructor も
例外を捕まえないので、例外は `WebSocket` の外へ出る（`Except`）。

## 文法と比べる

`grammarUrl` は仕様の文法 `scheme host [":" port] path` を読んだもので、source から訳したものではない。
文法どおりの URL には `parseUrl` も同じ答えを返す（`parseUrl_of_grammarUrl`）。逆は成り立たない。
-/

namespace Gg.Ws

/-! ## `std::stoi` -/

/-- `std::stoi` が投げる例外。 -/
inductive StoiError where
  | invalidArgument
  | outOfRange
  deriving DecidableEq, Repr

/-- C の `isspace`。 -/
def isCSpace (c : Char) : Bool :=
  c = ' ' || c = '\t' || c = '\n' || c = '\x0B' || c = '\x0C' || c = '\r'

/-- 10 進の数字の列の値。 -/
def decimalValue (ds : List Char) : Nat := ds.foldl (fun acc c => acc * 10 + (c.toNat - 48)) 0

/-- 符号を読む。`-` なら負。 -/
def readSign : List Char → Bool × List Char
  | '-' :: t => (true, t)
  | '+' :: t => (false, t)
  | t => (false, t)

/--
`std::stoi(str)`。`strtol` と同じく先頭の空白と符号を読み、続く数字だけを読む。数字がなければ
`invalid_argument`、値が `int` に収まらなければ `out_of_range`。
-/
def stoi (str : List Char) : Except StoiError Int :=
  let (neg, s) := readSign (str.dropWhile isCSpace)
  let ds := s.takeWhile Char.isDigit
  if ds = [] then .error .invalidArgument
  else
    let x : Int := if neg then -(decimalValue ds : Int) else decimalValue ds
    if x < -2 ^ 31 ∨ 2 ^ 31 ≤ x then .error .outOfRange else .ok x

/-- `static_cast<uint16_t>(n)`。 -/
def toUInt16 (n : Int) : Nat := (n % 65536).toNat

/-! ## `parseUrl` -/

/-- scheme を外した後。最初の `/` で分け、`host[:port]` の最後の `:` の後ろを port として読む。 -/
def parseAuthorityPath (secure : Bool) (url : List Char) : Except StoiError ParsedUrl :=
  let (hostPort, rest) := url.span (· ≠ '/')
  let path := if rest = [] then ['/'] else rest
  match hostPort.reverse.span (· ≠ ':') with
  | (_, []) => .ok ⟨secure, String.mk hostPort, if secure then 443 else 80, String.mk path⟩
  | (revPort, _ :: revHost) => do
    let n ← stoi revPort.reverse
    return ⟨secure, String.mk revHost.reverse, toUInt16 n, String.mk path⟩

/-- `parseUrl(url)`。scheme が違えば既定の `ParsedUrl`（`valid()` でない）を返す。 -/
def parseUrl (url : List Char) : Except StoiError ParsedUrl :=
  if url.take 6 = "wss://".toList then parseAuthorityPath true (url.drop 6)
  else if url.take 5 = "ws://".toList then parseAuthorityPath false (url.drop 5)
  else .ok {}

/-! ## 文法 -/

/-- 文法の port。空でない数字の列で、値が 1 から 65535。 -/
def portOk (p : List Char) : Bool :=
  p ≠ [] && p.all Char.isDigit && 1 ≤ decimalValue p && decimalValue p ≤ 65535

/-- scheme の後ろを文法で読む。`host` は空でなく、`:port` は `portOk`、path は空なら `/`。 -/
def grammarAuthorityPath (secure : Bool) (url : List Char) : Option ParsedUrl :=
  let (hostPort, rest) := url.span (· ≠ '/')
  let path := if rest = [] then ['/'] else rest
  match hostPort.span (· ≠ ':') with
  | ([], _) => none
  | (host, []) => some ⟨secure, String.mk host, if secure then 443 else 80, String.mk path⟩
  | (host, _ :: p) =>
    if portOk p then some ⟨secure, String.mk host, decimalValue p, String.mk path⟩ else none

/--
仕様の文法 `("ws://" | "wss://") host [":" port] path` で読む。`host` は空でなく `/` も `:` も
含まず、`port` は 1 から 65535 を表す数字の列、`path` は空か `/` で始まる。文法どおりなら、期待される
`ParsedUrl`（path が空なら `/`、port がなければ scheme の既定）を返す。
-/
def grammarUrl (url : List Char) : Option ParsedUrl :=
  if url.take 6 = "wss://".toList then grammarAuthorityPath true (url.drop 6)
  else if url.take 5 = "ws://".toList then grammarAuthorityPath false (url.drop 5)
  else none

/-! ## 文法どおりの URL -/

section
variable {α : Type} {P : α → Bool}

/-- `P` を満たす塊の後に満たさない要素があれば、そこで分かれる。 -/
theorem span_append_of_all {a : List α} (ha : ∀ x ∈ a, P x = true) {b : α} (hb : P b = false)
    (t : List α) : (a ++ b :: t).span P = (a, b :: t) := by
  rw [List.span_eq_take_drop]
  induction a with
  | nil => simp [hb]
  | cons x a ih =>
    have hx := ha x (List.mem_cons_self x a)
    obtain ⟨h₁, h₂⟩ := Prod.mk.inj (ih fun y hy => ha y (List.mem_cons_of_mem x hy))
    simp [hx, h₁, h₂]

theorem span_of_all {a : List α} (ha : ∀ x ∈ a, P x = true) : a.span P = (a, []) := by
  rw [List.span_eq_take_drop, List.takeWhile_eq_self_iff.mpr ha, List.dropWhile_eq_nil_iff.mpr ha]

/-- `span` は、`P` を満たす前半と、`P` を満たさない要素で始まる後半に分ける。 -/
theorem span_spec {l a b : List α} (h : l.span P = (a, b)) :
    l = a ++ b ∧ (∀ x ∈ a, P x = true) ∧ ∀ c t, b = c :: t → P c = false := by
  rw [List.span_eq_take_drop, Prod.mk.injEq] at h
  obtain ⟨rfl, rfl⟩ := h
  refine ⟨(List.takeWhile_append_dropWhile P l).symm, fun x hx => List.mem_takeWhile_imp hx,
    fun c t hct => ?_⟩
  have := List.head_dropWhile_not P l (by rw [hct]; exact List.cons_ne_nil c t)
  simpa [hct] using this

end

theorem isCSpace_of_isDigit {c : Char} (h : c.isDigit = true) : isCSpace c = false := by
  simp only [isCSpace, Bool.or_eq_false_iff, decide_eq_false_iff_not]
  refine ⟨⟨⟨⟨⟨?_, ?_⟩, ?_⟩, ?_⟩, ?_⟩, ?_⟩ <;> (rintro rfl; exact absurd h (by decide))

theorem readSign_of_isDigit {c : Char} (h : c.isDigit = true) (t : List Char) :
    readSign (c :: t) = (false, c :: t) := by
  unfold readSign
  split
  · next e => cases e; exact absurd h (by decide)
  · next e => cases e; exact absurd h (by decide)
  · rfl

/-- 値が `int` に収まる数字の列を、`std::stoi` はその値に読む。 -/
theorem stoi_digits {p : List Char} (hne : p ≠ []) (hd : ∀ c ∈ p, c.isDigit = true)
    (hv : decimalValue p < 2 ^ 31) : stoi p = .ok (decimalValue p) := by
  obtain ⟨c, t, rfl⟩ := List.exists_cons_of_ne_nil hne
  have hc := hd c (List.mem_cons_self c t)
  have hsp : (c :: t).dropWhile isCSpace = c :: t := by simp [isCSpace_of_isDigit hc]
  have htk : (c :: t).takeWhile Char.isDigit = c :: t := List.takeWhile_eq_self_iff.mpr hd
  unfold stoi
  rw [hsp, readSign_of_isDigit hc]
  simp only [htk, reduceCtorEq, if_false, Bool.false_eq_true]
  rw [if_neg (by omega)]

/-- 文法の port は `std::stoi` で読めて、`uint16_t` にしても変わらない。 -/
theorem port_of_portOk {p : List Char} (h : portOk p = true) :
    (∀ c ∈ p, c ≠ ':') ∧ stoi p = .ok (decimalValue p) ∧ toUInt16 (decimalValue p) = decimalValue p ∧
      1 ≤ decimalValue p := by
  simp only [portOk, Bool.and_eq_true, decide_eq_true_eq, List.all_eq_true] at h
  obtain ⟨⟨⟨hne, hd⟩, h1⟩, h2⟩ := h
  refine ⟨fun c hc e => absurd (hd c hc) (by rw [e]; decide), stoi_digits hne hd (by omega), ?_, h1⟩
  unfold toUInt16
  omega

/-- 空でない文字の列の文字列は空でない。 -/
theorem isEmpty_mk_cons (c : Char) (l : List Char) : (String.mk (c :: l)).isEmpty = false := by
  have := Char.utf8Size_pos c
  simp [String.isEmpty, String.Pos.ext_iff, String.endPos, String.utf8ByteSize,
    String.utf8ByteSize.go]
  omega

/-- scheme の後ろが文法どおりなら、`parseUrl` も同じ答えを返し、それは `valid()` である。 -/
theorem parseAuthorityPath_of_grammar {secure : Bool} {url : List Char} {p : ParsedUrl}
    (h : grammarAuthorityPath secure url = some p) :
    parseAuthorityPath secure url = .ok p ∧ p.valid = true := by
  unfold grammarAuthorityPath at h
  unfold parseAuthorityPath
  generalize url.span (· ≠ '/') = hr at h ⊢
  obtain ⟨hostPort, rest⟩ := hr
  dsimp only at h ⊢
  generalize hs : hostPort.span (· ≠ ':') = sp at h
  obtain ⟨host, portPart⟩ := sp
  obtain ⟨rfl, hhost, hhead⟩ := span_spec hs
  have hrev : ∀ x ∈ host.reverse, decide (x ≠ ':') = true := fun x hx => hhost x (List.mem_reverse.mp hx)
  match host, portPart, h with
  | [], _, h => simp at h
  | c :: host', [], h =>
    cases h
    rw [List.append_nil, span_of_all hrev]
    exact ⟨rfl, by cases secure <;> simp [ParsedUrl.valid, isEmpty_mk_cons]⟩
  | c :: host', d :: q, h =>
    have hd : d = ':' := by simpa using hhead d q rfl
    subst hd
    have hq : portOk q = true := by
      by_contra hn
      simp [hn] at h
    obtain ⟨hcolon, hstoi, h16, h1⟩ := port_of_portOk hq
    simp only [hq, if_true, Option.some.injEq] at h
    subst h
    have hrq : ∀ x ∈ q.reverse, decide (x ≠ ':') = true :=
      fun x hx => by simpa using hcolon x (List.mem_reverse.mp hx)
    rw [List.reverse_append, List.reverse_cons, List.append_assoc, List.singleton_append,
      span_append_of_all hrq (by decide)]
    simp only [List.reverse_reverse, hstoi]
    refine ⟨?_, by simp [ParsedUrl.valid, isEmpty_mk_cons]; omega⟩
    conv_rhs => rw [← h16]
    rfl

/-- **文法どおりの URL には、`parseUrl` も文法と同じ答えを返し、それは `valid()` である。** -/
theorem parseUrl_of_grammarUrl {url : List Char} {p : ParsedUrl} (h : grammarUrl url = some p) :
    parseUrl url = .ok p ∧ p.valid = true := by
  unfold grammarUrl at h
  unfold parseUrl
  split at h
  · next h6 => rw [if_pos h6]; exact parseAuthorityPath_of_grammar h
  · next h6 =>
    rw [if_neg h6]
    split at h
    · next h5 => rw [if_pos h5]; exact parseAuthorityPath_of_grammar h
    · cases h

/-! ## 文法の外 -/

/--
**文法どおりの URL には正しく答えるが、文法の外の URL にも `valid()` な答えを返し、例外も投げる。**
`ws://h:/` では `std::stoi("")` が `invalid_argument` を投げ、constructor の外へ出る。
`ws://h:65616/` は `uint16_t` への変換で port 80 になり、`ws://h:-1` は 65535 に、`ws://h:80x` は
数字の後ろを読まずに 80 になる。三つとも文法の外だが `valid()` である。
-/
theorem parseUrl_accepts_outside_grammar :
    (∀ (url : List Char) (p : ParsedUrl), grammarUrl url = some p →
      parseUrl url = .ok p ∧ p.valid = true) ∧
    parseUrl "ws://h:/".toList = .error .invalidArgument ∧
    grammarUrl "ws://h:65616/".toList = none ∧
      parseUrl "ws://h:65616/".toList = .ok ⟨false, "h", 80, "/"⟩ ∧
    grammarUrl "ws://h:-1".toList = none ∧
      parseUrl "ws://h:-1".toList = .ok ⟨false, "h", 65535, "/"⟩ ∧
    grammarUrl "ws://h:80x".toList = none ∧
      parseUrl "ws://h:80x".toList = .ok ⟨false, "h", 80, "/"⟩ ∧
    ParsedUrl.valid ⟨false, "h", 80, "/"⟩ = true ∧ ParsedUrl.valid ⟨false, "h", 65535, "/"⟩ = true :=
  ⟨fun _ _ h => parseUrl_of_grammarUrl h, rfl, rfl, rfl, rfl, rfl, rfl, rfl, rfl, rfl⟩

end Gg.Ws
