import Gg.Json.Parse

/-!
# ggnet の `Json::parse`

`ggnet::Json`（`ggnet/json.hpp` 13–153 行）の `parse`、`skipWhitespace`、`parseInternal`。
`pos` を参照で持ち回る再帰下降の parser で、文法の検査はほとんどしない。

## 仕組み

* `json[pos]` は `pos == json.size()` のとき `'\0'` を返し、それより先は未定義の動作である。
  ここでは `charAt` がそれを `Failure.outOfRange` として返す。
* `throw std::runtime_error(msg)` は `Failure.runtimeError msg`。
* `obj_val` は `std::map<std::string, Json>`。鍵の昇順に並び、`obj_val[key] = val` は同じ鍵の
  値を置き換える（`mapSet`）。鍵の比較は `unsigned char` の辞書式順序。
* 空白、真偽値、数の `while` は、いま読んでいる所から先の byte 列の `takeWhile` と同じ。
  文字列の `while` は `stringBody` で、`\` の次の byte をそのまま取る。入力の最後の byte が `\`
  なら `'\0'` を取って `pos` は `json.size() + 1` になる。

## 停止性

`parseInternal` と二つの `while` は互いに呼び合う再帰で、C++ では深さに限りがない。ここでは
各呼び出しと `while` の一回りが `fuel` を一つ使う。`while` の一回りはかならず一 byte 以上読むので、
入力の長さの 2 倍と 2 の `fuel` で足りる（`parseInternal_ne_outOfFuel`）。
-/

namespace Gg.Ggnet

open Gg.Ws (Bytes ascii)

/-- `Json::Type`。 -/
inductive JsonType where
  | nullVal
  | object
  | array
  | string
  | number
  | boolean
  deriving DecidableEq, Repr

/-- `ggnet::Json`。どの値にも四つの欄がある。 -/
structure Json where
  type : JsonType
  strVal : Bytes
  objVal : List (Bytes × Json)
  arrVal : List Json
  deriving Repr

/-- `Json()`。 -/
def Json.null : Json := ⟨.nullVal, [], [], []⟩

/-- `std::string` の `operator<`。`unsigned char` の辞書式順序。 -/
def keyLt : Bytes → Bytes → Bool
  | [], [] => false
  | [], _ :: _ => true
  | _ :: _, [] => false
  | a :: as, b :: bs => a < b || (a = b && keyLt as bs)

/-- `obj_val[key] = val`。鍵がなければ順序の位置に入れ、あれば値を置き換える。 -/
def mapSet : List (Bytes × Json) → Bytes → Json → List (Bytes × Json)
  | [], k, v => [(k, v)]
  | (k', v') :: rest, k, v =>
    if k = k' then (k, v) :: rest
    else if keyLt k k' then (k, v) :: (k', v') :: rest
    else (k', v') :: mapSet rest k v

/-- parser が止まった理由。 -/
inductive Failure where
  /-- `throw std::runtime_error(what)`。 -/
  | runtimeError (what : String)
  /-- `json[pos]` を `pos > json.size()` で読んだ。未定義の動作。 -/
  | outOfRange (pos : Nat)
  /-- `fuel` が尽きた。C++ にはない。 -/
  | outOfFuel
  deriving DecidableEq, Repr

/-- `json[pos]`。`pos == json.size()` なら `'\0'`。 -/
def charAt (json : Bytes) (pos : Nat) : Except Failure UInt8 :=
  if pos ≤ json.length then .ok (json.getD pos 0) else .error (.outOfRange pos)

/-- `while (pos < json.size() && p(json[pos])) acc += json[pos++];`。読んだ byte と次の `pos`。 -/
def scanWhile (p : UInt8 → Bool) (json : Bytes) (pos : Nat) : Bytes × Nat :=
  let taken := (json.drop pos).takeWhile p
  (taken, pos + taken.length)

/-- `skipWhitespace` が飛ばす文字。 -/
def isWs (c : UInt8) : Bool :=
  c = byte ' ' || c = byte '\t' || c = byte '\n' || c = byte '\r'

/-- `skipWhitespace(json, pos)`。 -/
def skipWhitespace (json : Bytes) (pos : Nat) : Nat := (scanWhile isWs json pos).2

/-- 真偽値の `while` が読む文字。`json[pos] >= 'a' && json[pos] <= 'z'`。 -/
def isLower (c : UInt8) : Bool := byte 'a' ≤ c && c ≤ byte 'z'

/-- 数の `while` が読む文字。`isdigit` は "C" locale の数字。 -/
def isNumChar (c : UInt8) : Bool :=
  (byte '0' ≤ c && c ≤ byte '9') || c = byte '.' || c = byte '-' || c = byte 'e' || c = byte 'E'

/-- 文字列の `while`。開きの `"` の次から読み、取った byte と読んだ byte の数を返す。
`if (json[pos] == '\\') pos++; s += json[pos]; pos++;`。`\` が最後の byte なら `json[json.size()]`
の `'\0'` を取り、二 byte 進む。 -/
def stringBody : Bytes → Bytes × Nat
  | [] => ([], 0)
  | c :: rest =>
    if c = byte '"' then ([], 1)
    else if c = byte '\\' then
      match rest with
      | [] => ([0], 2)
      | d :: rest => ((d :: (stringBody rest).1), (stringBody rest).2 + 2)
    else (c :: (stringBody rest).1, (stringBody rest).2 + 1)

/-- 文字列の `while` の後の `s` と `pos`。 -/
def stringLoop (json : Bytes) (pos : Nat) : Bytes × Nat :=
  ((stringBody (json.drop pos)).1, pos + (stringBody (json.drop pos)).2)

mutual
/-- `parseInternal(json, pos)`。 -/
def parseInternal : Nat → Bytes → Nat → Except Failure (Json × Nat)
  | 0, _, _ => .error .outOfFuel
  | f + 1, json, pos =>
    let pos := skipWhitespace json pos
    if json.length ≤ pos then .ok (Json.null, pos)
    else
      let c := json.getD pos 0
      if c = byte '{' then
        parseObject f json (pos + 1) [] >>= fun (fields, pos) => .ok (⟨.object, [], fields, []⟩, pos)
      else if c = byte '[' then
        parseArray f json (pos + 1) [] >>= fun (items, pos) => .ok (⟨.array, [], [], items⟩, pos)
      else if c = byte '"' then
        .ok (⟨.string, (stringLoop json (pos + 1)).1, [], []⟩, (stringLoop json (pos + 1)).2)
      else if c = byte 't' ∨ c = byte 'f' then
        .ok (⟨.boolean, (scanWhile isLower json pos).1, [], []⟩, (scanWhile isLower json pos).2)
      else
        .ok (⟨.number, (scanWhile isNumChar json pos).1, [], []⟩, (scanWhile isNumChar json pos).2)

/-- `parseInternal` の `'{'` の `while`。`fields` は `obj.obj_val`。一回りの文を順に `>>=` でつなぐ。 -/
def parseObject : Nat → Bytes → Nat → List (Bytes × Json) → Except Failure (List (Bytes × Json) × Nat)
  | 0, _, _, _ => .error .outOfFuel
  | f + 1, json, pos, fields =>
    if json.length ≤ pos then .ok (fields, pos)
    else
      let pos := skipWhitespace json pos
      charAt json pos >>= fun c =>
      if c = byte '}' then .ok (fields, pos + 1)
      else parseInternal f json pos >>= fun (key, pos) =>
      if key.type ≠ .string then .error (.runtimeError "Invalid key")
      else
        let pos := skipWhitespace json pos
        charAt json pos >>= fun c =>
        if c ≠ byte ':' then .error (.runtimeError "Expected :")
        else parseInternal f json (pos + 1) >>= fun (val, pos) =>
        let fields := mapSet fields key.strVal val
        let pos := skipWhitespace json pos
        charAt json pos >>= fun c =>
        if c = byte ',' then parseObject f json (pos + 1) fields
        else if c = byte '}' then .ok (fields, pos + 1)
        else .error (.runtimeError "Expected , or \x7d")

/-- `parseInternal` の `'['` の `while`。`items` は `arr.arr_val`。 -/
def parseArray : Nat → Bytes → Nat → List Json → Except Failure (List Json × Nat)
  | 0, _, _, _ => .error .outOfFuel
  | f + 1, json, pos, items =>
    if json.length ≤ pos then .ok (items, pos)
    else
      let pos := skipWhitespace json pos
      charAt json pos >>= fun c =>
      if c = byte ']' then .ok (items, pos + 1)
      else parseInternal f json pos >>= fun (val, pos) =>
      let items := items ++ [val]
      let pos := skipWhitespace json pos
      charAt json pos >>= fun c =>
      if c = byte ',' then parseArray f json (pos + 1) items
      else if c = byte ']' then .ok (items, pos + 1)
      else .error (.runtimeError "Expected , or ]")
end

/-- `Json::parse(raw)`。`fuel` は入力の長さの 2 倍と 2 で足りる。 -/
def parse (raw : Bytes) : Except Failure Json :=
  (parseInternal (2 * raw.length + 2) raw 0).map (·.1)

example : (parse (ascii "[1,2]")).map (·.arrVal.length) = .ok 2 := by rfl
example : (parse (ascii "\x7b\"b\":1,\"a\":2,\"b\":3\x7d")).map (fun j => j.objVal.map (·.1)) = .ok [ascii "a", ascii "b"] := by rfl
example : (parse (ascii "[\"\\")).map (·.type) = .error (.outOfRange 4) := by rfl

/-! ## 読む位置 -/

theorem scanWhile_snd_ge (p : UInt8 → Bool) (json : Bytes) (pos : Nat) : pos ≤ (scanWhile p json pos).2 :=
  Nat.le_add_right _ _

theorem scanWhile_snd_le (p : UInt8 → Bool) {json : Bytes} {pos : Nat} (h : pos ≤ json.length) :
    (scanWhile p json pos).2 ≤ json.length := by
  have := (List.takeWhile_prefix p (l := json.drop pos)).length_le
  rw [List.length_drop] at this
  exact (Nat.add_le_add_left this pos).trans (by omega)

theorem skipWhitespace_ge (json : Bytes) (pos : Nat) : pos ≤ skipWhitespace json pos := scanWhile_snd_ge _ _ _

theorem skipWhitespace_le {json : Bytes} {pos : Nat} (h : pos ≤ json.length) : skipWhitespace json pos ≤ json.length :=
  scanWhile_snd_le _ h

/-- 入力の最後の byte が `\` でない。このとき文字列の `while` は入力の外へ出ない。 -/
def NoTrail (json : Bytes) : Prop := json.getLast? ≠ some (byte '\\')

theorem getLast?_ne_of_cons {a x : UInt8} : ∀ {l : Bytes}, (a :: l).getLast? ≠ some x → l.getLast? ≠ some x
  | [], _ => Option.noConfusion
  | _ :: _, h => by rwa [List.getLast?_cons_cons] at h

/-- 最後の byte が `\` でなければ、文字列の `while` は読んだ列の長さより先へ進まない。 -/
theorem stringBody_snd_le : ∀ {l : Bytes}, l.getLast? ≠ some (byte '\\') → (stringBody l).2 ≤ l.length
  | [], _ => Nat.le_refl 0
  | [c], h => by
    rw [List.getLast?_singleton] at h
    unfold stringBody
    rw [if_neg (fun hc => h (congrArg some hc))]
    split <;> exact Nat.le_refl 1
  | c :: d :: r, h => by
    have hd := getLast?_ne_of_cons h
    have ih1 := stringBody_snd_le hd
    have ih2 := stringBody_snd_le (getLast?_ne_of_cons hd)
    simp only [List.length_cons] at ih1 ⊢
    unfold stringBody
    split
    · omega
    · split
      · dsimp only; omega
      · omega

theorem stringLoop_snd_le {json : Bytes} (h : NoTrail json) {pos : Nat} (hp : pos ≤ json.length) :
    (stringLoop json pos).2 ≤ json.length := by
  have : (json.drop pos).getLast? ≠ some (byte '\\') := by
    rw [List.getLast?_drop]; split
    · exact Option.noConfusion
    · exact h
  have := stringBody_snd_le this
  rw [List.length_drop] at this
  exact (Nat.add_le_add_left this pos).trans (by omega)

theorem stringLoop_snd_ge (json : Bytes) (pos : Nat) : pos ≤ (stringLoop json pos).2 := Nat.le_add_right _ _

theorem charAt_error {json : Bytes} {pos : Nat} {e : Failure} (h : charAt json pos = .error e) :
    e = .outOfRange pos ∧ json.length < pos := by
  unfold charAt at h
  split at h
  · cases h
  · cases h; exact ⟨rfl, by omega⟩

/-- `'\0'` でない byte が読めたなら、そこは入力の中。 -/
theorem charAt_lt {json : Bytes} {pos : Nat} {c : UInt8} (h : charAt json pos = .ok c) (hc : c ≠ 0) :
    pos < json.length := by
  unfold charAt at h
  split at h
  · cases h
    refine Nat.lt_of_not_le fun hl => hc ?_
    rw [List.getD_eq_getElem?_getD, List.getElem?_eq_none hl]
    rfl
  · cases h

/-! ## 止まり方 -/

/-- `parseInternal` が投げる `runtime_error` の四つの文。 -/
def messages : List String := ["Invalid key", "Expected :", "Expected , or \x7d", "Expected , or ]"]

/-- 許す止まり方。`fuel` は尽きず、最後の byte が `\` でなければ四つの `runtime_error` のどれか。 -/
def Allowed (json : Bytes) (e : Failure) : Prop :=
  e ≠ .outOfFuel ∧ (NoTrail json → ∃ m ∈ messages, e = .runtimeError m)

/-- 位置 `pos` から読んだ結果が許す止まり方で、返した位置は `pos` より前でなく、最後の byte が
`\` でなければ入力の中。 -/
structure Settles {α : Type} (json : Bytes) (pos : Nat) (r : Except Failure (α × Nat)) : Prop where
  error : ∀ e, r = .error e → Allowed json e
  ok : ∀ a p, r = .ok (a, p) → pos ≤ p ∧ (NoTrail json → p ≤ json.length)

section Settles

variable {α β : Type} {json : Bytes} {pos : Nat}

theorem allowed_message {m : String} (h : m ∈ messages) : Allowed json (.runtimeError m) :=
  ⟨Failure.noConfusion, fun _ => ⟨m, h, rfl⟩⟩

theorem allowed_charAt (hp : NoTrail json → pos ≤ json.length) {e : Failure} (h : charAt json pos = .error e) :
    Allowed json e := by
  obtain ⟨rfl, hl⟩ := charAt_error h
  exact ⟨Failure.noConfusion, fun ht => absurd (hp ht) (by omega)⟩

theorem Settles.of_ok {a : α} {p : Nat} (h1 : pos ≤ p) (h2 : NoTrail json → p ≤ json.length) :
    Settles json pos (.ok (a, p)) :=
  ⟨fun _ h => (nomatch h), fun _ _ h => by cases h; exact ⟨h1, h2⟩⟩

theorem Settles.of_error {e : Failure} (h : Allowed json e) : Settles (α := α) json pos (.error e) :=
  ⟨fun _ he => (by cases he; exact h), fun _ _ h => nomatch h⟩

theorem Settles.bind {x : Except Failure β} {g : β → Except Failure (α × Nat)}
    (hx : ∀ e, x = .error e → Allowed json e) (hg : ∀ b, x = .ok b → Settles json pos (g b)) :
    Settles json pos (x >>= g) := by
  cases x with
  | error e => exact Settles.of_error (hx e rfl)
  | ok b => exact hg b rfl

theorem Settles.mono {r : Except Failure (α × Nat)} {pos' : Nat} (h : Settles json pos' r) (hp : pos ≤ pos') :
    Settles json pos r :=
  ⟨h.error, fun a p hr => ⟨hp.trans (h.ok a p hr).1, (h.ok a p hr).2⟩⟩

end Settles

/-- **三つの関数は、許す止まり方でしか止まらない。** `fuel` が読み残しの長さの 2 倍と 2（`while` は 3）
あれば尽きず、返す位置は読み始めより前でない。`json[pos]` を入力の外で読むのは、最後の byte が `\`
のときだけ。 -/
theorem settles (json : Bytes) : ∀ f,
    (∀ pos, pos ≤ json.length → 2 * (json.length - pos) + 2 ≤ f → Settles json pos (parseInternal f json pos)) ∧
    (∀ pos fields, pos ≤ json.length → 2 * (json.length - pos) + 3 ≤ f →
      Settles json pos (parseObject f json pos fields)) ∧
    (∀ pos items, pos ≤ json.length → 2 * (json.length - pos) + 3 ≤ f →
      Settles json pos (parseArray f json pos items))
  | 0 => ⟨fun _ _ h => absurd h (by omega), fun _ _ _ h => absurd h (by omega), fun _ _ _ h => absurd h (by omega)⟩
  | g + 1 => by
    obtain ⟨ihP, ihO, ihA⟩ := settles json g
    refine ⟨fun pos hpos hf => ?_, fun pos fields hpos hf => ?_, fun pos items hpos hf => ?_⟩
    · -- `parseInternal`：空白の後の一文字で振り分ける
      have h1 := skipWhitespace_ge json pos
      have h2 := skipWhitespace_le hpos
      rw [parseInternal]
      dsimp only
      by_cases h0 : json.length ≤ skipWhitespace json pos
      · rw [if_pos h0]; exact Settles.of_ok h1 fun _ => h2
      rw [if_neg h0]
      by_cases hb : json.getD (skipWhitespace json pos) 0 = byte '{'
      · rw [if_pos hb]
        have hO := ihO (skipWhitespace json pos + 1) [] (by omega) (by omega)
        refine Settles.bind hO.error fun ⟨fields, p⟩ hb => ?_
        obtain ⟨hp, hp'⟩ := hO.ok _ _ hb
        exact Settles.of_ok (by omega) hp'
      rw [if_neg hb]
      by_cases hk : json.getD (skipWhitespace json pos) 0 = byte '['
      · rw [if_pos hk]
        have hA := ihA (skipWhitespace json pos + 1) [] (by omega) (by omega)
        refine Settles.bind hA.error fun ⟨items, p⟩ hb => ?_
        obtain ⟨hp, hp'⟩ := hA.ok _ _ hb
        exact Settles.of_ok (by omega) hp'
      rw [if_neg hk]
      by_cases hq : json.getD (skipWhitespace json pos) 0 = byte '"'
      · rw [if_pos hq]
        exact Settles.of_ok (h1.trans ((Nat.le_succ _).trans (stringLoop_snd_ge _ _)))
          fun ht => stringLoop_snd_le ht (by omega)
      rw [if_neg hq]
      split_ifs <;> exact Settles.of_ok (h1.trans (scanWhile_snd_ge _ _ _)) fun _ => scanWhile_snd_le _ h2
    · -- `'{'` の `while` の一回り
      rw [parseObject]
      by_cases h0 : json.length ≤ pos
      · rw [if_pos h0]; exact Settles.of_ok le_rfl fun _ => hpos
      rw [if_neg h0]
      dsimp only
      have h1 := skipWhitespace_ge json pos
      have h2 := skipWhitespace_le hpos
      refine Settles.bind (fun e he => allowed_charAt (fun _ => h2) he) fun c hc => ?_
      by_cases hc1 : c = byte '}'
      · rw [if_pos hc1]; exact Settles.of_ok (by omega) fun _ => charAt_lt hc (by rw [hc1]; decide)
      rw [if_neg hc1]
      have hK := ihP _ h2 (by omega)
      refine Settles.bind hK.error fun ⟨key, p2⟩ hk => ?_
      obtain ⟨hk1, hk2⟩ := hK.ok _ _ hk
      dsimp only
      by_cases hkey : key.type ≠ .string
      · rw [if_pos hkey]; exact Settles.of_error (allowed_message (by decide))
      rw [if_neg hkey]
      have h3 := skipWhitespace_ge json p2
      refine Settles.bind (fun e he => allowed_charAt (fun ht => skipWhitespace_le (hk2 ht)) he) fun c' hc' => ?_
      by_cases hcolon : c' ≠ byte ':'
      · rw [if_pos hcolon]; exact Settles.of_error (allowed_message (by decide))
      rw [if_neg hcolon]
      have hlt := charAt_lt hc' (by rw [not_not.1 hcolon]; decide)
      have hV := ihP (skipWhitespace json p2 + 1) (by omega) (by omega)
      refine Settles.bind hV.error fun ⟨val, p4⟩ hv => ?_
      obtain ⟨hv1, hv2⟩ := hV.ok _ _ hv
      dsimp only
      have h5 := skipWhitespace_ge json p4
      refine Settles.bind (fun e he => allowed_charAt (fun ht => skipWhitespace_le (hv2 ht)) he) fun c'' hc'' => ?_
      split_ifs with hcomma hclose
      · have hlt' := charAt_lt hc'' (by rw [hcomma]; decide)
        exact (ihO _ _ (by omega) (by omega)).mono (by omega)
      · exact Settles.of_ok (by omega) fun _ => charAt_lt hc'' (by rw [hclose]; decide)
      · exact Settles.of_error (allowed_message (by decide))
    · -- `'['` の `while` の一回り
      rw [parseArray]
      by_cases h0 : json.length ≤ pos
      · rw [if_pos h0]; exact Settles.of_ok le_rfl fun _ => hpos
      rw [if_neg h0]
      dsimp only
      have h1 := skipWhitespace_ge json pos
      have h2 := skipWhitespace_le hpos
      refine Settles.bind (fun e he => allowed_charAt (fun _ => h2) he) fun c hc => ?_
      by_cases hc1 : c = byte ']'
      · rw [if_pos hc1]; exact Settles.of_ok (by omega) fun _ => charAt_lt hc (by rw [hc1]; decide)
      rw [if_neg hc1]
      have hV := ihP _ h2 (by omega)
      refine Settles.bind hV.error fun ⟨val, p2⟩ hv => ?_
      obtain ⟨hv1, hv2⟩ := hV.ok _ _ hv
      dsimp only
      have h3 := skipWhitespace_ge json p2
      refine Settles.bind (fun e he => allowed_charAt (fun ht => skipWhitespace_le (hv2 ht)) he) fun c' hc' => ?_
      split_ifs with hcomma hclose
      · have hlt' := charAt_lt hc' (by rw [hcomma]; decide)
        exact (ihA _ _ (by omega) (by omega)).mono (by omega)
      · exact Settles.of_ok (by omega) fun _ => charAt_lt hc' (by rw [hclose]; decide)
      · exact Settles.of_error (allowed_message (by decide))

/-- **`Json::parse` はどの入力でも止まり、`fuel` は尽きない。最後の byte が `\` でなければ、`json[pos]` を
入力の外で読むことはなく、値を返すか、四つの `runtime_error` のどれかを投げる。** -/
theorem parse_outcome (raw : Bytes) :
    parse raw ≠ .error .outOfFuel ∧
      (NoTrail raw → (∃ v, parse raw = .ok v) ∨ ∃ m ∈ messages, parse raw = .error (.runtimeError m)) := by
  have hs := (settles raw (2 * raw.length + 2)).1 0 (Nat.zero_le _) (by omega)
  unfold parse
  cases hr : parseInternal (2 * raw.length + 2) raw 0 with
  | error e =>
    have he := hs.error e hr
    exact ⟨fun h => he.1 (by cases h; rfl), fun ht => .inr (by
      obtain ⟨m, hm, rfl⟩ := he.2 ht
      exact ⟨m, hm, rfl⟩)⟩
  | ok r => exact ⟨Except.noConfusion, fun _ => .inl ⟨r.1, rfl⟩⟩

/-! ## 成功する道筋 -/

section Steps

variable {json : Bytes} {pos p : Nat} {f : Nat}

theorem parseInternal_brace (hp : skipWhitespace json pos = p) (hl : p < json.length) (hc : json.getD p 0 = byte '{') :
    parseInternal (f + 1) json pos = parseObject f json (p + 1) [] >>= fun r => .ok (⟨.object, [], r.1, []⟩, r.2) := by
  rw [parseInternal]
  dsimp only
  rw [hp, if_neg (by omega), hc, if_pos rfl]

theorem parseInternal_bracket (hp : skipWhitespace json pos = p) (hl : p < json.length) (hc : json.getD p 0 = byte '[') :
    parseInternal (f + 1) json pos = parseArray f json (p + 1) [] >>= fun r => .ok (⟨.array, [], [], r.1⟩, r.2) := by
  rw [parseInternal]
  dsimp only
  rw [hp, if_neg (by omega), hc, if_neg (by decide), if_pos rfl]

theorem parseInternal_quote (hp : skipWhitespace json pos = p) (hl : p < json.length) (hc : json.getD p 0 = byte '"') :
    parseInternal (f + 1) json pos =
      .ok (⟨.string, (stringLoop json (p + 1)).1, [], []⟩, (stringLoop json (p + 1)).2) := by
  rw [parseInternal]
  dsimp only
  rw [hp, if_neg (by omega), hc, if_neg (by decide), if_neg (by decide), if_pos rfl]

theorem parseInternal_letter (hp : skipWhitespace json pos = p) (hl : p < json.length)
    (hc : json.getD p 0 = byte 't' ∨ json.getD p 0 = byte 'f') :
    parseInternal (f + 1) json pos =
      .ok (⟨.boolean, (scanWhile isLower json p).1, [], []⟩, (scanWhile isLower json p).2) := by
  have h1 : json.getD p 0 ≠ byte '{' ∧ json.getD p 0 ≠ byte '[' ∧ json.getD p 0 ≠ byte '"' := by
    rcases hc with hc | hc <;> rw [hc] <;> decide
  rw [parseInternal]
  dsimp only
  rw [hp, if_neg (by omega), if_neg h1.1, if_neg h1.2.1, if_neg h1.2.2, if_pos hc]

/-- 数の文字で始まれば数。 -/
theorem parseInternal_number (hp : skipWhitespace json pos = p) (hl : p < json.length)
    (hc : isNumChar (json.getD p 0) = true) :
    parseInternal (f + 1) json pos =
      .ok (⟨.number, (scanWhile isNumChar json p).1, [], []⟩, (scanWhile isNumChar json p).2) := by
  have h2 : json.getD p 0 ≠ byte '{' := fun h => absurd (h ▸ hc) (by decide)
  have h3 : json.getD p 0 ≠ byte '[' := fun h => absurd (h ▸ hc) (by decide)
  have h4 : json.getD p 0 ≠ byte '"' := fun h => absurd (h ▸ hc) (by decide)
  have h5 : ¬(json.getD p 0 = byte 't' ∨ json.getD p 0 = byte 'f') := by
    rintro (h | h) <;> exact absurd (h ▸ hc) (by decide)
  rw [parseInternal]
  dsimp only
  rw [hp, if_neg (by omega), if_neg h2, if_neg h3, if_neg h4, if_neg h5]

theorem parseArray_close {items : List Json} (hl : pos < json.length) (hp : skipWhitespace json pos = p)
    (hc : charAt json p = .ok (byte ']')) : parseArray (f + 1) json pos items = .ok (items, p + 1) := by
  rw [parseArray, if_neg (by omega)]
  dsimp only
  rw [hp, hc]
  rfl

/-- 要素を一つ読んだ後の `'['` の `while`。 -/
theorem parseArray_item {items : List Json} {c : UInt8} {v : Json} {p2 q : Nat} (hl : pos < json.length)
    (hp : skipWhitespace json pos = p) (hc : charAt json p = .ok c) (hne : c ≠ byte ']')
    (hv : parseInternal f json p = .ok (v, p2)) (hq : skipWhitespace json p2 = q) :
    parseArray (f + 1) json pos items = charAt json q >>= fun d =>
      if d = byte ',' then parseArray f json (q + 1) (items ++ [v])
      else if d = byte ']' then .ok (items ++ [v], q + 1)
      else .error (.runtimeError "Expected , or ]") := by
  subst hp hq
  rw [parseArray, if_neg (by omega)]
  dsimp only
  rw [hc]
  show (if c = byte ']' then _ else _) = _
  rw [if_neg hne, hv]
  rfl

theorem parseObject_close {fields : List (Bytes × Json)} (hl : pos < json.length) (hp : skipWhitespace json pos = p)
    (hc : charAt json p = .ok (byte '}')) : parseObject (f + 1) json pos fields = .ok (fields, p + 1) := by
  rw [parseObject, if_neg (by omega)]
  dsimp only
  rw [hp, hc]
  rfl

/-- 鍵と値を一つ読んだ後の `'{'` の `while`。 -/
theorem parseObject_field {fields : List (Bytes × Json)} {c : UInt8} {key v : Json} {p2 q p4 r : Nat}
    (hl : pos < json.length) (hp : skipWhitespace json pos = p) (hc : charAt json p = .ok c) (hne : c ≠ byte '}')
    (hk : parseInternal f json p = .ok (key, p2)) (hks : key.type = .string) (hq : skipWhitespace json p2 = q)
    (hcolon : charAt json q = .ok (byte ':')) (hv : parseInternal f json (q + 1) = .ok (v, p4))
    (hr : skipWhitespace json p4 = r) :
    parseObject (f + 1) json pos fields = charAt json r >>= fun d =>
      if d = byte ',' then parseObject f json (r + 1) (mapSet fields key.strVal v)
      else if d = byte '}' then .ok (mapSet fields key.strVal v, r + 1)
      else .error (.runtimeError "Expected , or \x7d") := by
  subst hp hq hr
  rw [parseObject, if_neg (by omega)]
  dsimp only
  rw [hc]
  show (if c = byte '}' then _ else _) = _
  rw [if_neg hne, hk]
  show (if key.type ≠ .string then _ else _) = _
  rw [if_neg (not_not.2 hks), hcolon]
  simp only [bind, Except.bind, ne_eq, not_true_eq_false, if_false, hv]

end Steps

/-! ## 読める文書の読み戻し -/

/-- ggnet の parser が読める形の JSON 文書。読み戻しの定理の相手で、source にはない。 -/
inductive Doc where
  | str (s : Bytes)
  | num (s : Bytes)
  | bool (s : Bytes)
  | arr (items : List Doc)
  | obj (fields : List (Bytes × Doc))

mutual
/-- 空白を入れずに書いた文書。 -/
def Doc.render : Doc → Bytes
  | .str s => byte '"' :: s ++ [byte '"']
  | .num s => s
  | .bool s => s
  | .arr items => byte '[' :: renderItems items ++ [byte ']']
  | .obj fields => byte '{' :: renderFields fields ++ [byte '}']

/-- 配列の要素を `,` で区切って書く。 -/
def renderItems : List Doc → Bytes
  | [] => []
  | [d] => d.render
  | d :: d' :: ds => d.render ++ byte ',' :: renderItems (d' :: ds)

/-- object の鍵と値を `,` で区切って書く。 -/
def renderFields : List (Bytes × Doc) → Bytes
  | [] => []
  | [(k, d)] => byte '"' :: k ++ byte '"' :: byte ':' :: d.render
  | (k, d) :: kd :: fs => byte '"' :: k ++ byte '"' :: byte ':' :: d.render ++ byte ',' :: renderFields (kd :: fs)
end

mutual
/-- 文書を読んで返るはずの値。object の鍵は `std::map` に順に入れ、同じ鍵は後の値になる。 -/
def Doc.toJson : Doc → Json
  | .str s => ⟨.string, s, [], []⟩
  | .num s => ⟨.number, s, [], []⟩
  | .bool s => ⟨.boolean, s, [], []⟩
  | .arr items => ⟨.array, [], [], itemsToJson items⟩
  | .obj fields => ⟨.object, [], fieldsToJson [] fields, []⟩

def itemsToJson : List Doc → List Json
  | [] => []
  | d :: ds => d.toJson :: itemsToJson ds

def fieldsToJson (acc : List (Bytes × Json)) : List (Bytes × Doc) → List (Bytes × Json)
  | [] => acc
  | (k, d) :: fs => fieldsToJson (mapSet acc k d.toJson) fs
end

/-- `"` も `\` も含まない。文字列と鍵の中身。 -/
def plain (s : Bytes) : Bool := s.all fun c => c ≠ byte '"' && c ≠ byte '\\'

mutual
/-- parser が読める文書。数は空でなく数の文字だけ、真偽値は `t` か `f` で始まる小文字だけ。 -/
def Doc.wf : Doc → Bool
  | .str s => plain s
  | .num s => !s.isEmpty && s.all isNumChar
  | .bool s => (s.head? = some (byte 't') || s.head? = some (byte 'f')) && s.all isLower
  | .arr items => itemsWf items
  | .obj fields => fieldsWf fields

def itemsWf : List Doc → Bool
  | [] => true
  | d :: ds => d.wf && itemsWf ds

def fieldsWf : List (Bytes × Doc) → Bool
  | [] => true
  | (k, d) :: fs => plain k && d.wf && fieldsWf fs
end

/-- 文書の後に続けてよいもの。数と真偽値は、続きの一文字まで読み延ばさない。 -/
def Doc.follows : Doc → Bytes → Bool
  | .num _, c :: _ => !isNumChar c
  | .bool _, c :: _ => !isLower c
  | _, _ => true

section Reads

variable {json rest : Bytes} {pos : Nat}

theorem lt_of_drop_eq_cons {c : UInt8} {t : Bytes} (h : json.drop pos = c :: t) : pos < json.length :=
  Nat.lt_of_not_le fun hl => by rw [List.drop_eq_nil_of_le hl] at h; cases h

theorem drop_succ_of_drop_eq_cons {c : UInt8} {t : Bytes} (h : json.drop pos = c :: t) : json.drop (pos + 1) = t := by
  rw [← List.drop_drop, h]; rfl

theorem drop_add_of_drop_eq_append {a b : Bytes} (h : json.drop pos = a ++ b) : json.drop (pos + a.length) = b := by
  rw [← List.drop_drop, h, List.drop_left]

theorem getD_of_drop_eq_cons {c : UInt8} {t : Bytes} (h : json.drop pos = c :: t) : json.getD pos 0 = c := by
  rw [List.getD_eq_getElem?_getD, ← List.head?_drop, h]; rfl

theorem charAt_of_drop_eq_cons {c : UInt8} {t : Bytes} (h : json.drop pos = c :: t) : charAt json pos = .ok c := by
  rw [charAt, if_pos (lt_of_drop_eq_cons h).le, getD_of_drop_eq_cons h]

theorem skipWhitespace_of_drop_eq_cons {c : UInt8} {t : Bytes} (h : json.drop pos = c :: t) (hc : isWs c = false) :
    skipWhitespace json pos = pos := by
  rw [skipWhitespace, scanWhile, h, List.takeWhile_cons, if_neg (by rw [hc]; exact Bool.false_ne_true)]; rfl

/-- 条件を満たす `s` の後に満たさない byte が来れば、`while` は `s` をちょうど読む。 -/
theorem scanWhile_of_drop_eq_append {p : UInt8 → Bool} {s : Bytes} (h : json.drop pos = s ++ rest)
    (hs : s.all p = true) (hr : ∀ c t, rest = c :: t → p c = false) : scanWhile p json pos = (s, pos + s.length) := by
  have : (s ++ rest).takeWhile p = s := by
    rw [List.takeWhile_append_of_pos (fun a ha => List.all_eq_true.1 hs a ha)]
    cases rest with
    | nil => exact List.append_nil s
    | cons c t => rw [List.takeWhile_cons, if_neg (by rw [hr c t rfl]; exact Bool.false_ne_true), List.append_nil]
  rw [scanWhile, h, this]

theorem stringBody_plain : ∀ {s : Bytes}, plain s = true → stringBody (s ++ byte '"' :: rest) = (s, s.length + 1)
  | [], _ => by rw [List.nil_append, stringBody.eq_def]; exact if_pos rfl
  | c :: s, h => by
    simp only [plain, List.all_cons, Bool.and_eq_true, decide_eq_true_eq] at h
    rw [List.cons_append, stringBody.eq_def]
    dsimp only
    rw [if_neg h.1.1, if_neg h.1.2, stringBody_plain h.2]
    rfl

theorem isWs_of_isNumChar {c : UInt8} (h : isNumChar c = true) : isWs c = false := by
  cases hw : isWs c
  · rfl
  · simp only [isWs, Bool.or_eq_true, decide_eq_true_eq] at hw
    rcases hw with ((rfl | rfl) | rfl) | rfl <;> exact absurd h (by decide)

theorem isWs_of_isLower {c : UInt8} (h : isLower c = true) : isWs c = false := by
  cases hw : isWs c
  · rfl
  · simp only [isWs, Bool.or_eq_true, decide_eq_true_eq] at hw
    rcases hw with ((rfl | rfl) | rfl) | rfl <;> exact absurd h (by decide)

/-- 読める文書は空でなく、最初の byte は空白でも閉じ括弧でもない。 -/
theorem Doc.render_head {d : Doc} (h : d.wf = true) :
    ∃ c t, d.render = c :: t ∧ isWs c = false ∧ c ≠ byte ']' ∧ c ≠ byte '}' := by
  cases d with
  | str s => exact ⟨_, _, rfl, rfl, by decide, by decide⟩
  | num s =>
    obtain ⟨c, t, rfl⟩ : ∃ c t, s = c :: t := by
      cases s with
      | nil => simp [Doc.wf] at h
      | cons c t => exact ⟨c, t, rfl⟩
    have hc : isNumChar c = true := by simp only [Doc.wf, Bool.and_eq_true, List.all_cons] at h; exact h.2.1
    exact ⟨c, t, rfl, isWs_of_isNumChar hc, fun he => absurd (he ▸ hc) (by decide),
      fun he => absurd (he ▸ hc) (by decide)⟩
  | bool s =>
    obtain ⟨c, t, rfl⟩ : ∃ c t, s = c :: t := by
      cases s with
      | nil => simp [Doc.wf] at h
      | cons c t => exact ⟨c, t, rfl⟩
    have hc : isLower c = true := by simp only [Doc.wf, Bool.and_eq_true, List.all_cons] at h; exact h.2.1
    exact ⟨c, t, rfl, isWs_of_isLower hc, fun he => absurd (he ▸ hc) (by decide),
      fun he => absurd (he ▸ hc) (by decide)⟩
  | arr items => exact ⟨_, _, rfl, rfl, by decide, by decide⟩
  | obj fields => exact ⟨_, _, rfl, rfl, by decide, by decide⟩

/-- 区切りと閉じ括弧の前では、数も真偽値も読み延ばさない。 -/
theorem Doc.follows_sep (d : Doc) {c : UInt8} (hc : c = byte ',' ∨ c = byte ']' ∨ c = byte '}') (t : Bytes) :
    d.follows (c :: t) = true := by
  rcases hc with rfl | rfl | rfl <;> cases d <;> rfl

/-- 文字列の読み戻し。 -/
theorem parseInternal_str {s : Bytes} {f : Nat} (hs : plain s = true)
    (hd : json.drop pos = byte '"' :: (s ++ byte '"' :: rest)) :
    parseInternal (f + 1) json pos = .ok (⟨.string, s, [], []⟩, pos + (s.length + 2)) := by
  rw [parseInternal_quote (skipWhitespace_of_drop_eq_cons hd rfl) (lt_of_drop_eq_cons hd) (getD_of_drop_eq_cons hd),
    stringLoop, drop_succ_of_drop_eq_cons hd, stringBody_plain hs]
  congr 2
  omega

/-- 鍵の文字列と `:` と値を読んだ後の `'{'` の `while`。 -/
theorem parseObject_after_field {acc : List (Bytes × Json)} {k tail t : Bytes} {v : Json} {g r : Nat} {c : UInt8}
    (hk : plain k = true) (hd : json.drop pos = byte '"' :: (k ++ byte '"' :: byte ':' :: tail))
    (hv : parseInternal (g + 1) json (pos + k.length + 3) = .ok (v, r)) (hr : json.drop r = c :: t) (hc : isWs c = false) :
    parseObject (g + 2) json pos acc =
      if c = byte ',' then parseObject (g + 1) json (r + 1) (mapSet acc k v)
      else if c = byte '}' then .ok (mapSet acc k v, r + 1)
      else .error (.runtimeError "Expected , or \x7d") := by
  have hq : json.drop (pos + (k.length + 2)) = byte ':' :: tail := by
    have := drop_add_of_drop_eq_append (a := byte '"' :: k ++ [byte '"']) (b := byte ':' :: tail) (by rw [hd]; simp)
    simpa using this
  rw [parseObject_field (lt_of_drop_eq_cons hd) (skipWhitespace_of_drop_eq_cons hd rfl) (charAt_of_drop_eq_cons hd)
    (by decide) (parseInternal_str hk hd) rfl (skipWhitespace_of_drop_eq_cons hq rfl)
    (charAt_of_drop_eq_cons hq) (by rw [← hv, show pos + (k.length + 2) + 1 = pos + k.length + 3 by omega])
    (skipWhitespace_of_drop_eq_cons hr hc),
    charAt_of_drop_eq_cons hr]
  rfl

mutual
/-- 文書を書いた所から読むと、文書の値と、書いた byte 列の後の位置が返る。 -/
theorem parseInternal_render : ∀ (d : Doc) {json rest : Bytes} {pos f : Nat}, d.wf = true →
    json.drop pos = d.render ++ rest → d.follows rest = true → 2 * (json.length - pos) + 2 ≤ f →
    parseInternal f json pos = .ok (d.toJson, pos + d.render.length)
  | .str s, json, rest, pos, f, hw, hd, _, hf => by
    obtain ⟨g, rfl⟩ : ∃ g, f = g + 1 := ⟨f - 1, by omega⟩
    have hd' : json.drop pos = byte '"' :: (s ++ byte '"' :: rest) := by rw [hd]; simp [Doc.render]
    rw [parseInternal_str hw hd']
    congr 2
    simp only [Doc.render, List.length_cons, List.length_append, List.length_singleton, List.length_nil]
  | .num s, json, rest, pos, f, hw, hd, hr, hf => by
    obtain ⟨g, rfl⟩ : ∃ g, f = g + 1 := ⟨f - 1, by omega⟩
    obtain ⟨c, t, hct, hc⟩ : ∃ c t, s = c :: t ∧ isNumChar c = true := by
      cases s with
      | nil => simp [Doc.wf] at hw
      | cons c t => simp only [Doc.wf, Bool.and_eq_true, List.all_cons] at hw; exact ⟨c, t, rfl, hw.2.1⟩
    subst hct
    have hd' : json.drop pos = c :: (t ++ rest) := hd
    rw [parseInternal_number (skipWhitespace_of_drop_eq_cons hd' (isWs_of_isNumChar hc)) (lt_of_drop_eq_cons hd')
      (by rw [getD_of_drop_eq_cons hd']; exact hc),
      scanWhile_of_drop_eq_append hd (by simp only [Doc.wf, Bool.and_eq_true] at hw; exact hw.2)
        fun c' t' he => by subst he; simpa [Doc.follows] using hr]
    rfl
  | .bool s, json, rest, pos, f, hw, hd, hr, hf => by
    obtain ⟨g, rfl⟩ : ∃ g, f = g + 1 := ⟨f - 1, by omega⟩
    obtain ⟨c, t, hct, hc, htf⟩ : ∃ c t, s = c :: t ∧ isLower c = true ∧ (c = byte 't' ∨ c = byte 'f') := by
      cases s with
      | nil => simp [Doc.wf] at hw
      | cons c t =>
        simp only [Doc.wf, Bool.and_eq_true, List.all_cons, List.head?_cons, Bool.or_eq_true, decide_eq_true_eq,
          Option.some.injEq] at hw
        exact ⟨c, t, rfl, hw.2.1, hw.1⟩
    subst hct
    have hd' : json.drop pos = c :: (t ++ rest) := hd
    rw [parseInternal_letter (skipWhitespace_of_drop_eq_cons hd' (isWs_of_isLower hc)) (lt_of_drop_eq_cons hd')
      (by rw [getD_of_drop_eq_cons hd']; exact htf),
      scanWhile_of_drop_eq_append hd (by simp only [Doc.wf, Bool.and_eq_true] at hw; exact hw.2)
        fun c' t' he => by subst he; simpa [Doc.follows] using hr]
    rfl
  | .arr items, json, rest, pos, f, hw, hd, _, hf => by
    obtain ⟨g, rfl⟩ : ∃ g, f = g + 1 := ⟨f - 1, by omega⟩
    have hd' : json.drop pos = byte '[' :: (renderItems items ++ byte ']' :: rest) := by rw [hd]; simp [Doc.render]
    have hl := lt_of_drop_eq_cons hd'
    rw [parseInternal_bracket (skipWhitespace_of_drop_eq_cons hd' rfl) hl (getD_of_drop_eq_cons hd'),
      parseArray_renderItems items [] hw (drop_succ_of_drop_eq_cons hd') (f := g) (by omega)]
    simp only [bind, Except.bind, Doc.render, Doc.toJson, List.nil_append, List.length_cons, List.length_append,
      List.length_singleton, List.length_nil]
    congr 2
    omega
  | .obj fields, json, rest, pos, f, hw, hd, _, hf => by
    obtain ⟨g, rfl⟩ : ∃ g, f = g + 1 := ⟨f - 1, by omega⟩
    have hd' : json.drop pos = byte '{' :: (renderFields fields ++ byte '}' :: rest) := by rw [hd]; simp [Doc.render]
    have hl := lt_of_drop_eq_cons hd'
    rw [parseInternal_brace (skipWhitespace_of_drop_eq_cons hd' rfl) hl (getD_of_drop_eq_cons hd'),
      parseObject_renderFields fields [] hw (drop_succ_of_drop_eq_cons hd') (f := g) (by omega)]
    simp only [bind, Except.bind, Doc.render, Doc.toJson, List.length_cons, List.length_append, List.length_singleton,
      List.length_nil]
    congr 2
    omega

/-- 要素の列を書いた所から `'['` の `while` で読むと、要素の値が `acc` の後に並ぶ。 -/
theorem parseArray_renderItems : ∀ (items : List Doc) (acc : List Json) {json rest : Bytes} {pos f : Nat},
    itemsWf items = true → json.drop pos = renderItems items ++ byte ']' :: rest → 2 * (json.length - pos) + 3 ≤ f →
    parseArray f json pos acc = .ok (acc ++ itemsToJson items, pos + (renderItems items).length + 1)
  | [], acc, json, rest, pos, f, _, hd, hf => by
    obtain ⟨g, rfl⟩ : ∃ g, f = g + 1 := ⟨f - 1, by omega⟩
    rw [parseArray_close (lt_of_drop_eq_cons hd) (skipWhitespace_of_drop_eq_cons hd rfl) (charAt_of_drop_eq_cons hd)]
    simp only [itemsToJson, renderItems, List.append_nil, List.length_nil, Nat.add_zero]
  | [d], acc, json, rest, pos, f, hw, hd, hf => by
    obtain ⟨g, rfl⟩ : ∃ g, f = g + 1 := ⟨f - 1, by omega⟩
    have hdw : d.wf = true := by simpa [itemsWf] using hw
    obtain ⟨c, t, hct, hws, hc1, -⟩ := d.render_head hdw
    have hd2 : json.drop pos = d.render ++ byte ']' :: rest := hd
    have hd0 : json.drop pos = c :: (t ++ byte ']' :: rest) := by rw [hd2, hct]; rfl
    have hv := parseInternal_render d hdw hd2 (d.follows_sep (.inr (.inl rfl)) rest) (f := g) (by omega)
    have hq := drop_add_of_drop_eq_append hd2
    rw [parseArray_item (lt_of_drop_eq_cons hd0) (skipWhitespace_of_drop_eq_cons hd0 hws) (charAt_of_drop_eq_cons hd0) hc1
      hv (skipWhitespace_of_drop_eq_cons hq rfl), charAt_of_drop_eq_cons hq]
    rfl
  | d :: d' :: ds, acc, json, rest, pos, f, hw, hd, hf => by
    obtain ⟨g, rfl⟩ : ∃ g, f = g + 1 := ⟨f - 1, by omega⟩
    replace hw := Bool.and_eq_true _ _ ▸ hw
    obtain ⟨c, t, hct, hws, hc1, -⟩ := d.render_head hw.1
    have hd1 : json.drop pos = d.render ++ byte ',' :: (renderItems (d' :: ds) ++ byte ']' :: rest) := by
      rw [hd, renderItems]; simp
    have hd0 : json.drop pos = c :: (t ++ byte ',' :: (renderItems (d' :: ds) ++ byte ']' :: rest)) := by rw [hd1, hct]; rfl
    have hlen : 0 < d.render.length := by rw [hct]; exact Nat.succ_pos _
    have hv := parseInternal_render d hw.1 hd1 (d.follows_sep (.inl rfl) _) (f := g) (by omega)
    have hq := drop_add_of_drop_eq_append hd1
    have ht := drop_succ_of_drop_eq_cons hq
    rw [parseArray_item (lt_of_drop_eq_cons hd0) (skipWhitespace_of_drop_eq_cons hd0 hws) (charAt_of_drop_eq_cons hd0) hc1
      hv (skipWhitespace_of_drop_eq_cons hq rfl), charAt_of_drop_eq_cons hq]
    show parseArray g json (pos + d.render.length + 1) (acc ++ [d.toJson]) = _
    rw [parseArray_renderItems (d' :: ds) _ hw.2 ht (f := g) (by have := lt_of_drop_eq_cons hq; omega)]
    simp only [itemsToJson, renderItems, List.append_assoc, List.singleton_append, List.length_append, List.length_cons]
    congr 2
    omega

/-- 鍵と値の列を書いた所から `'{'` の `while` で読むと、鍵と値が `acc` に順に `mapSet` される。 -/
theorem parseObject_renderFields : ∀ (fields : List (Bytes × Doc)) (acc : List (Bytes × Json)) {json rest : Bytes}
    {pos f : Nat}, fieldsWf fields = true → json.drop pos = renderFields fields ++ byte '}' :: rest →
    2 * (json.length - pos) + 3 ≤ f →
    parseObject f json pos acc = .ok (fieldsToJson acc fields, pos + (renderFields fields).length + 1)
  | [], acc, json, rest, pos, f, _, hd, hf => by
    obtain ⟨g, rfl⟩ : ∃ g, f = g + 1 := ⟨f - 1, by omega⟩
    rw [parseObject_close (lt_of_drop_eq_cons hd) (skipWhitespace_of_drop_eq_cons hd rfl) (charAt_of_drop_eq_cons hd)]
    rfl
  | [(k, d)], acc, json, rest, pos, f, hw, hd, hf => by
    obtain ⟨g, rfl⟩ : ∃ g, f = g + 2 := ⟨f - 2, by omega⟩
    obtain ⟨hk, hdw⟩ : plain k = true ∧ d.wf = true := by simpa [fieldsWf] using hw
    have hd2 : json.drop pos = byte '"' :: (k ++ byte '"' :: byte ':' :: (d.render ++ byte '}' :: rest)) := by
      rw [hd]; simp [renderFields]
    have hv0 : json.drop (pos + k.length + 3) = d.render ++ byte '}' :: rest := by
      have := drop_add_of_drop_eq_append (a := byte '"' :: k ++ [byte '"', byte ':'])
        (b := d.render ++ byte '}' :: rest) (by rw [hd2]; simp)
      simpa [Nat.add_assoc] using this
    have hv := parseInternal_render d hdw hv0 (d.follows_sep (.inr (.inr rfl)) rest) (f := g + 1) (by
      have := lt_of_drop_eq_cons hd2; omega)
    rw [parseObject_after_field hk hd2 hv (drop_add_of_drop_eq_append hv0) rfl, if_neg (by decide), if_pos rfl]
    simp only [fieldsToJson, renderFields, List.length_cons, List.length_append]
    congr 2
    omega
  | (k, d) :: kd :: fs, acc, json, rest, pos, f, hw, hd, hf => by
    obtain ⟨g, rfl⟩ : ∃ g, f = g + 2 := ⟨f - 2, by omega⟩
    obtain ⟨⟨hk, hdw⟩, hfs⟩ := (Bool.and_eq_true _ _ ▸ (Bool.and_eq_true _ _ ▸ hw) : (plain k = true ∧ d.wf = true) ∧ fieldsWf (kd :: fs) = true)
    have hd2 : json.drop pos =
        byte '"' :: (k ++ byte '"' :: byte ':' :: (d.render ++ byte ',' :: (renderFields (kd :: fs) ++ byte '}' :: rest))) := by
      rw [hd]; simp [renderFields]
    have hv0 : json.drop (pos + k.length + 3) = d.render ++ byte ',' :: (renderFields (kd :: fs) ++ byte '}' :: rest) := by
      have := drop_add_of_drop_eq_append (a := byte '"' :: k ++ [byte '"', byte ':'])
        (b := d.render ++ byte ',' :: (renderFields (kd :: fs) ++ byte '}' :: rest)) (by rw [hd2]; simp)
      simpa [Nat.add_assoc] using this
    have hv := parseInternal_render d hdw hv0 (d.follows_sep (.inl rfl) _) (f := g + 1) (by
      have := lt_of_drop_eq_cons hd2; omega)
    have hr := drop_add_of_drop_eq_append hv0
    rw [parseObject_after_field hk hd2 hv hr rfl, if_pos rfl,
      parseObject_renderFields (kd :: fs) _ hfs (drop_succ_of_drop_eq_cons hr) (f := g + 1) (by
        have := lt_of_drop_eq_cons hr; omega)]
    simp only [fieldsToJson, renderFields, List.length_cons, List.length_append]
    congr 2
    omega
end

end Reads

/-- **読める文書を書いたものは、`Json::parse` で読み戻せる。** object の鍵は `std::map` の順に並び、同じ鍵は
後の値が残る。値の後に何が続いても読まない（数と真偽値は、続きの一文字まで読み延ばさないとき）。 -/
theorem parse_render (d : Doc) (hd : d.wf = true) (rest : Bytes) (hr : d.follows rest = true) :
    parse (d.render ++ rest) = .ok d.toJson := by
  unfold parse
  rw [parseInternal_render d hd (List.drop_zero (d.render ++ rest)) hr (by omega)]
  rfl

/-- 鍵 `b` が二度ある object の後にごみが続く。鍵は昇順になり、`b` は後の値になる。 -/
theorem parse_render_duplicate_key :
    (parse ((Doc.obj [(ascii "b", .num (ascii "1")), (ascii "a", .arr [.str (ascii "x"), .bool (ascii "true")]),
        (ascii "b", .num (ascii "3"))]).render ++ ascii " ]")).map (fun j => j.objVal.map fun kv => (kv.1, kv.2.strVal)) =
      .ok [(ascii "a", []), (ascii "b", ascii "3")] := by
  refine (congrArg (Except.map _) (parse_render _ ?_ _ ?_)).trans ?_
  · decide
  · rfl
  · rfl

/-! ## 入力の外を読む -/

/-- 閉じの `"` に当たらずに読み切れる文字列の中身。`"` でも `\` でもない byte と、`\` と任意の
一 byte の escape の並び。 -/
inductive Unclosed : Bytes → Prop
  | nil : Unclosed []
  | plain {c : UInt8} {t : Bytes} (hq : c ≠ byte '"') (hb : c ≠ byte '\\') (ht : Unclosed t) : Unclosed (c :: t)
  | escape (c : UInt8) {t : Bytes} (ht : Unclosed t) : Unclosed (byte '\\' :: c :: t)

/-- そういう中身の後に `\` が一つ来て入力が終わると、文字列の `while` は `'\0'` を取り、入力の終わりの
一つ先まで進む。 -/
theorem stringBody_unclosed {t : Bytes} (ht : Unclosed t) : (stringBody (t ++ [byte '\\'])).2 = t.length + 2 := by
  induction ht with
  | nil => rfl
  | plain hq hb _ ih =>
    rw [List.cons_append, stringBody.eq_def]
    dsimp only
    rw [if_neg hq, if_neg hb, List.length_cons, ih]
  | escape c _ ih =>
    rw [List.cons_append, List.cons_append, stringBody.eq_def]
    dsimp only
    rw [if_neg (by decide), if_pos rfl]
    simp only [ih, List.length_cons]

/-- 要素の後に `,` を付けて並べた列に、閉じない文字列が `\` で入力の終わりまで続くと、`'['` の `while` は
`json[json.size() + 1]` を読む。 -/
theorem parseArray_reads_past_end {t : Bytes} (ht : Unclosed t) :
    ∀ (pre : List Doc) (acc : List Json) {json : Bytes} {pos f : Nat}, (∀ d ∈ pre, d.wf = true) →
      json.drop pos = (pre.map fun d => d.render ++ [byte ',']).flatten ++ byte '"' :: t ++ [byte '\\'] →
      2 * (json.length - pos) + 3 ≤ f → parseArray f json pos acc = .error (.outOfRange (json.length + 1))
  | [], acc, json, pos, f, _, hd, hf => by
    obtain ⟨g, rfl⟩ : ∃ g, f = g + 2 := ⟨f - 2, by omega⟩
    have hd0 : json.drop pos = byte '"' :: (t ++ [byte '\\']) := by simpa using hd
    have hlen : json.length = pos + t.length + 2 := by
      have := congrArg List.length hd0
      have := lt_of_drop_eq_cons hd0
      simp only [List.length_drop, List.length_cons, List.length_append, List.length_nil] at *
      omega
    have hs : (stringLoop json (pos + 1)).2 = json.length + 1 := by
      show pos + 1 + (stringBody (json.drop (pos + 1))).2 = _
      rw [drop_succ_of_drop_eq_cons hd0, stringBody_unclosed ht]
      omega
    have hv : parseInternal (g + 1) json pos = .ok (⟨.string, (stringLoop json (pos + 1)).1, [], []⟩, json.length + 1) := by
      rw [parseInternal_quote (skipWhitespace_of_drop_eq_cons hd0 rfl) (lt_of_drop_eq_cons hd0)
        (getD_of_drop_eq_cons hd0), hs]
    have hq : skipWhitespace json (json.length + 1) = json.length + 1 := by
      rw [skipWhitespace, scanWhile, List.drop_eq_nil_of_le (by omega)]; rfl
    rw [parseArray_item (lt_of_drop_eq_cons hd0) (skipWhitespace_of_drop_eq_cons hd0 rfl) (charAt_of_drop_eq_cons hd0)
      (by decide) hv hq, show charAt json (json.length + 1) = .error (.outOfRange (json.length + 1)) by
        rw [charAt, if_neg (by omega)]]
    rfl
  | d :: pre, acc, json, pos, f, hw, hd, hf => by
    obtain ⟨g, rfl⟩ : ∃ g, f = g + 1 := ⟨f - 1, by omega⟩
    have hdw := hw d (List.mem_cons_self _ _)
    obtain ⟨c, t', hct, hws, hc1, -⟩ := d.render_head hdw
    have hd1 : json.drop pos = d.render ++ byte ',' ::
        ((pre.map fun d => d.render ++ [byte ',']).flatten ++ byte '"' :: t ++ [byte '\\']) := by
      rw [hd]; simp
    have hd0 : json.drop pos = c :: (t' ++ byte ',' ::
        ((pre.map fun d => d.render ++ [byte ',']).flatten ++ byte '"' :: t ++ [byte '\\'])) := by
      rw [hd1, hct]; rfl
    have hlen : 0 < d.render.length := by rw [hct]; exact Nat.succ_pos _
    have hv := parseInternal_render d hdw hd1 (d.follows_sep (.inl rfl) _) (f := g) (by omega)
    have hq := drop_add_of_drop_eq_append hd1
    rw [parseArray_item (lt_of_drop_eq_cons hd0) (skipWhitespace_of_drop_eq_cons hd0 hws) (charAt_of_drop_eq_cons hd0) hc1
      hv (skipWhitespace_of_drop_eq_cons hq rfl), charAt_of_drop_eq_cons hq]
    show parseArray g json (pos + d.render.length + 1) (acc ++ [d.toJson]) = _
    exact parseArray_reads_past_end ht pre _ (fun d' h => hw d' (List.mem_cons_of_mem _ h)) (drop_succ_of_drop_eq_cons hq)
      (by have := lt_of_drop_eq_cons hq; omega)

/-- **配列の最後の要素が、閉じない文字列として `\` で入力の終わりに達すると、`Json::parse` は
`json[json.size() + 1]` を読む。** 前に読める要素がいくつあってもよく、文字列の中身には `"` と `\` 以外の
byte と escape が並んでよい。 -/
theorem parse_reads_past_end (pre : List Doc) (hw : ∀ d ∈ pre, d.wf = true) {t : Bytes} (ht : Unclosed t) :
    parse (byte '[' :: (pre.map fun d => d.render ++ [byte ',']).flatten ++ byte '"' :: t ++ [byte '\\']) =
      .error (.outOfRange ((pre.map fun d => d.render ++ [byte ',']).flatten.length + t.length + 4)) := by
  generalize hj : byte '[' :: (pre.map fun d => d.render ++ [byte ',']).flatten ++ byte '"' :: t ++ [byte '\\'] = json
  have hl : json.length = (pre.map fun d => d.render ++ [byte ',']).flatten.length + t.length + 3 := by
    rw [← hj]; simp only [List.length_cons, List.length_append, List.length_nil]; omega
  have hd : json.drop 1 = (pre.map fun d => d.render ++ [byte ',']).flatten ++ byte '"' :: t ++ [byte '\\'] := by
    rw [← hj]; rfl
  unfold parse
  rw [parseInternal_bracket (p := 0) (by rw [← hj]; rfl) (by omega) (by rw [← hj]; rfl),
    parseArray_reads_past_end ht pre [] hw hd (by omega), hl]
  rfl

/-- 読める数の後に、escape を含んだ閉じない文字列が続く。 -/
theorem parse_reads_past_end_escaped : parse (ascii "[1,\"a\\\"b\\") = .error (.outOfRange 10) :=
  @parse_reads_past_end [.num (ascii "1")] (by decide) [byte 'a', byte '\\', byte '"', byte 'b']
    (.plain (by decide) (by decide) (.escape (byte '"') (.plain (by decide) (by decide) .nil)))

/-! ## null を返さない -/

mutual
/-- どこにも `NULL_VAL` のない値。 -/
def Json.nullFree : Json → Bool
  | ⟨t, _, fields, items⟩ => t ≠ .nullVal && fieldsNullFree fields && itemsNullFree items

def itemsNullFree : List Json → Bool
  | [] => true
  | j :: js => j.nullFree && itemsNullFree js

def fieldsNullFree : List (Bytes × Json) → Bool
  | [] => true
  | (_, j) :: fs => j.nullFree && fieldsNullFree fs
end

theorem itemsNullFree_append {items : List Json} {v : Json} (h : itemsNullFree items = true) (hv : v.nullFree = true) :
    itemsNullFree (items ++ [v]) = true := by
  induction items with
  | nil => simp [itemsNullFree, hv]
  | cons j js ih =>
    simp only [itemsNullFree, Bool.and_eq_true] at h ⊢
    exact ⟨h.1, ih h.2⟩

theorem fieldsNullFree_mapSet {k : Bytes} {v : Json} (hv : v.nullFree = true) :
    ∀ {fields : List (Bytes × Json)}, fieldsNullFree fields = true → fieldsNullFree (mapSet fields k v) = true
  | [], _ => by simp [mapSet, fieldsNullFree, hv]
  | (k', v') :: rest, h => by
    simp only [fieldsNullFree, Bool.and_eq_true] at h
    unfold mapSet
    split_ifs
    · simp [fieldsNullFree, hv, h.2]
    · simp [fieldsNullFree, hv, h.1, h.2]
    · simp only [fieldsNullFree, Bool.and_eq_true]
      exact ⟨h.1, fieldsNullFree_mapSet hv h.2⟩

/-- `Json()` の値を返した要素の後では、区切りも閉じ括弧も読めない。 -/
theorem charAt_after_end {json : Bytes} {p : Nat} {c : UInt8} (hp : json.length ≤ p)
    (h : charAt json (skipWhitespace json p) = .ok c) : c = 0 := by
  have := skipWhitespace_ge json p
  by_contra hc
  have := charAt_lt h hc
  omega

/-- **三つの関数は、入力の終わりでしか `Json()` を作らず、配列の要素にも object の値にも置かない。** -/
theorem parse_nullFree : ∀ f,
    (∀ json pos v p, parseInternal f json pos = .ok (v, p) →
      v.nullFree = true ∨ (v = Json.null ∧ p = skipWhitespace json pos ∧ json.length ≤ p)) ∧
    (∀ json pos fields r, fieldsNullFree fields = true → parseObject f json pos fields = .ok r →
      fieldsNullFree r.1 = true) ∧
    (∀ json pos items r, itemsNullFree items = true → parseArray f json pos items = .ok r → itemsNullFree r.1 = true)
  | 0 => ⟨fun _ _ _ _ h => (nomatch h), fun _ _ _ _ _ h => (nomatch h), fun _ _ _ _ _ h => (nomatch h)⟩
  | g + 1 => by
    obtain ⟨ihP, ihO, ihA⟩ := parse_nullFree g
    -- 要素が `Json()` なら、その後の区切りは読めない
    have hsep : ∀ {json pos v p c}, parseInternal g json pos = .ok (v, p) →
        charAt json (skipWhitespace json p) = .ok c → c ≠ 0 → v.nullFree = true := fun hv hc h0 =>
      (ihP _ _ _ _ hv).resolve_right fun ⟨_, _, hp⟩ => h0 (charAt_after_end hp hc)
    refine ⟨fun json pos v p h => ?_, fun json pos fields r hf h => ?_, fun json pos items r hi h => ?_⟩
    · rw [parseInternal] at h
      dsimp only at h
      by_cases h0 : json.length ≤ skipWhitespace json pos
      · rw [if_pos h0] at h; cases h; exact .inr ⟨rfl, rfl, h0⟩
      rw [if_neg h0] at h
      by_cases hb : json.getD (skipWhitespace json pos) 0 = byte '{'
      · rw [if_pos hb] at h
        obtain ⟨⟨fields, p'⟩, hr, h⟩ := Gg.Json.bind_eq_ok.1 h
        cases h
        simp [Json.nullFree, ihO _ _ [] _ rfl hr, itemsNullFree]
      rw [if_neg hb] at h
      by_cases hk : json.getD (skipWhitespace json pos) 0 = byte '['
      · rw [if_pos hk] at h
        obtain ⟨⟨items, p'⟩, hr, h⟩ := Gg.Json.bind_eq_ok.1 h
        cases h
        simp [Json.nullFree, ihA _ _ [] _ rfl hr, fieldsNullFree]
      rw [if_neg hk] at h
      split_ifs at h <;> cases h <;> exact .inl rfl
    · rw [parseObject] at h
      by_cases h0 : json.length ≤ pos
      · rw [if_pos h0] at h; cases h; exact hf
      rw [if_neg h0] at h
      dsimp only at h
      obtain ⟨c, -, h⟩ := Gg.Json.bind_eq_ok.1 h
      by_cases hc : c = byte '}'
      · rw [if_pos hc] at h; cases h; exact hf
      rw [if_neg hc] at h
      obtain ⟨⟨key, p2⟩, -, h⟩ := Gg.Json.bind_eq_ok.1 h
      dsimp only at h
      by_cases hk : key.type ≠ .string
      · rw [if_pos hk] at h; cases h
      rw [if_neg hk] at h
      obtain ⟨c', -, h⟩ := Gg.Json.bind_eq_ok.1 h
      by_cases hcolon : c' ≠ byte ':'
      · rw [if_pos hcolon] at h; cases h
      rw [if_neg hcolon] at h
      obtain ⟨⟨v, p4⟩, hv, h⟩ := Gg.Json.bind_eq_ok.1 h
      dsimp only at h
      obtain ⟨c'', hc'', h⟩ := Gg.Json.bind_eq_ok.1 h
      split_ifs at h with hcomma hclose
      · exact ihO _ _ _ _ (fieldsNullFree_mapSet (hsep hv hc'' (by rw [hcomma]; decide)) hf) h
      · cases h; exact fieldsNullFree_mapSet (hsep hv hc'' (by rw [hclose]; decide)) hf
    · rw [parseArray] at h
      by_cases h0 : json.length ≤ pos
      · rw [if_pos h0] at h; cases h; exact hi
      rw [if_neg h0] at h
      dsimp only at h
      obtain ⟨c, -, h⟩ := Gg.Json.bind_eq_ok.1 h
      by_cases hc : c = byte ']'
      · rw [if_pos hc] at h; cases h; exact hi
      rw [if_neg hc] at h
      obtain ⟨⟨v, p2⟩, hv, h⟩ := Gg.Json.bind_eq_ok.1 h
      dsimp only at h
      obtain ⟨c', hc', h⟩ := Gg.Json.bind_eq_ok.1 h
      split_ifs at h with hcomma hclose
      · exact ihA _ _ _ _ (itemsNullFree_append hi (hsep hv hc' (by rw [hcomma]; decide))) h
      · cases h; exact itemsNullFree_append hi (hsep hv hc' (by rw [hclose]; decide))

/-- **`Json::parse` の返す値のどこにも `NULL_VAL` はない。ただし空白だけの入力には `Json()` を返す。**
`null` と書いても `NULL_VAL` にはならない。 -/
theorem parse_never_null (raw : Bytes) (v : Json) (h : parse raw = .ok v) :
    v.nullFree = true ∨ (v = Json.null ∧ ∀ c ∈ raw, isWs c = true) := by
  unfold parse at h
  cases hr : parseInternal (2 * raw.length + 2) raw 0 with
  | error e => rw [hr] at h; cases h
  | ok r =>
    rw [hr] at h
    cases h
    refine ((parse_nullFree _).1 _ _ _ _ hr).imp id fun ⟨hv, hp, hl⟩ => ⟨hv, fun c hc => ?_⟩
    have : (raw.takeWhile isWs).length = raw.length := by
      have := (List.takeWhile_prefix isWs (l := raw)).length_le
      rw [hp, skipWhitespace, scanWhile, List.drop_zero, Nat.zero_add] at hl
      omega
    rw [← (List.takeWhile_prefix isWs).eq_of_length this] at hc
    exact List.mem_takeWhile_imp hc

theorem parse_never_null_array : ∃ v, parse (ascii "[1,\"a\"]") = .ok v ∧
    (v.nullFree = true ∨ (v = Json.null ∧ ∀ c ∈ ascii "[1,\"a\"]", isWs c = true)) :=
  ⟨_, rfl, parse_never_null _ _ rfl⟩

end Gg.Ggnet
