import Gg.Ws.Types

/-!
# `tgui::internal::put_string` の切り詰め

`utf8_char_bytes`、`utf8_strlen`、`has_utf8`、`put_string` の UTF-8 の分岐（`part_011` 553–637 行）、
それと `text` が渡す `max_width`（777–811 行）。

## 仕組み

UTF-8 を含む文字列が `max_len` 文字より長いとき、`put_string` は `char truncated[256]` に先頭の
文字を写し、`...` と NUL を足す。model は `truncated` への書き込みを (index, byte) の列として
記録する（`putStringWrites`）。

* 写すループは `byte_pos < 250` の間だけ次の文字に進むが、一文字は 4 byte まであるので、
  ループを出たときの `byte_pos` は 253 までになる（`truncLoop_inv`）。
* その後の `.` 三つは 255 まで、NUL は `byte_pos + 3` で 256 まで届く。
  `putStringWrites_index` は、どの文字列と幅でも、書き込みは 255 までか、index 256 への NUL か
  のどちらかであることを示す。
* 249 から始まる 4 byte の文字を写すと `byte_pos` は 253 になり、NUL が `truncated[256]` に
  落ちる。`putString_writes_past_truncated` はその形の文字列の族である。
-/

namespace Gg.Tgui

open Gg.Ws (Bytes)

/-- NUL で終わる `const char*`。`bytes` は終端の NUL の手前までで、NUL を含まない。 -/
structure CStr where
  bytes : Bytes
  noNul : 0 ∉ bytes

/-- `str[i]`。`bytes` の後ろは終端の NUL。 -/
def CStr.at (s : CStr) (i : Nat) : UInt8 := s.bytes.getD i 0

/-- `utf8_char_bytes`。 -/
def utf8CharBytes (c : UInt8) : Nat :=
  if c &&& 0x80 = 0 then 1
  else if c &&& 0xE0 = 0xC0 then 2
  else if c &&& 0xF0 = 0xE0 then 3
  else if c &&& 0xF8 = 0xF0 then 4
  else 1

/-- `utf8_strlen`。継続 byte（`10xxxxxx`）でない byte を数える。 -/
def utf8Strlen (s : CStr) : Nat := s.bytes.countP fun b => b &&& 0xC0 != 0x80

/-- `has_utf8`。 -/
def hasUtf8 (s : CStr) : Bool := s.bytes.any fun b => b ≥ 128

/-- `truncated` への書き込み。(index, byte)。 -/
abbrev Writes := List (Nat × UInt8)

/-- 内側の `for (int b = 0; b < bytes && str[byte_pos]; b++)`。`k` は残りの回数。 -/
def copyChar (s : CStr) : Nat → Nat → Writes → Nat × Writes
  | 0, pos, w => (pos, w)
  | k + 1, pos, w => if s.at pos = 0 then (pos, w) else copyChar s k (pos + 1) (w ++ [(pos, s.at pos)])

theorem copyChar_fst_le (s : CStr) : ∀ k pos w, (copyChar s k pos w).1 ≤ pos + k
  | 0, _, _ => Nat.le_refl _
  | k + 1, pos, w => by
    rw [copyChar]
    split
    · exact Nat.le_add_right _ _
    · have := copyChar_fst_le s k (pos + 1) (w ++ [(pos, s.at pos)]); omega

theorem copyChar_fst_ge (s : CStr) : ∀ k pos w, pos ≤ (copyChar s k pos w).1
  | 0, _, _ => Nat.le_refl _
  | k + 1, pos, w => by
    rw [copyChar]
    split
    · exact Nat.le_refl _
    · exact Nat.le_of_succ_le (copyChar_fst_ge s k (pos + 1) _)

/-- 今の位置が NUL でなければ、少なくとも一 byte 進む。 -/
theorem copyChar_fst_gt (s : CStr) {k pos : Nat} (w : Writes) (hk : 0 < k) (hc : s.at pos ≠ 0) :
    pos < (copyChar s k pos w).1 := by
  obtain ⟨k, rfl⟩ : ∃ k', k = k' + 1 := ⟨k - 1, by omega⟩
  rw [copyChar, if_neg hc]
  exact copyChar_fst_ge s k (pos + 1) _

/-- 写した byte の index は、入口の位置から出口の位置の手前まで。 -/
theorem copyChar_writes (s : CStr) : ∀ k pos w, ∀ p ∈ (copyChar s k pos w).2,
    p ∈ w ∨ pos ≤ p.1 ∧ p.1 < (copyChar s k pos w).1
  | 0, _, _, _, hp => .inl hp
  | k + 1, pos, w, p, hp => by
    rw [copyChar] at hp ⊢
    split at hp
    · exact .inl hp
    · rename_i hc
      rw [if_neg hc]
      rcases copyChar_writes s k (pos + 1) _ p hp with h | h
      · rcases List.mem_append.1 h with h | h
        · exact .inl h
        · rw [List.mem_singleton.1 h]
          exact .inr ⟨Nat.le_refl _, copyChar_fst_ge s k (pos + 1) _⟩
      · exact .inr ⟨Nat.le_of_succ_le h.1, h.2⟩

theorem utf8CharBytes_pos (c : UInt8) : 0 < utf8CharBytes c := by
  unfold utf8CharBytes; split_ifs <;> decide

theorem utf8CharBytes_le (c : UInt8) : utf8CharBytes c ≤ 4 := by
  unfold utf8CharBytes; split_ifs <;> decide

/-- 外側の `while (str[byte_pos] && char_count < target_chars && byte_pos < 250)`。
`byte_pos -= bytes; byte_pos += bytes;` は `int` の上で打ち消し合う。 -/
def truncLoop (s : CStr) (targetChars : Int) (pos charCount : Nat) (w : Writes) : Nat × Writes :=
  if h : s.at pos ≠ 0 ∧ (charCount : Int) < targetChars ∧ pos < 250 then
    let bytes := utf8CharBytes (s.at pos)
    let r := copyChar s bytes pos w
    truncLoop s targetChars (((r.1 : Int) - bytes + bytes).toNat) (charCount + 1) r.2
  else (pos, w)
termination_by 250 - pos
decreasing_by
  simp only [Int.sub_add_cancel, Int.toNat_ofNat]
  have := copyChar_fst_gt s w (utf8CharBytes_pos (s.at pos)) h.1
  omega

/-- `put_string` が `truncated` に書くもの。ループで写した byte、`...`、NUL。 -/
def truncateWrites (s : CStr) (maxLen : Int) : Writes :=
  let r := truncLoop s (maxLen - 3) 0 0 []
  r.2 ++ [(r.1, 0x2E), (r.1 + 1, 0x2E), (r.1 + 2, 0x2E), (r.1 + 3, 0)]

/-- `put_string` の UTF-8 の分岐が `truncated` に書くもの。切り詰めないときは何も書かない。 -/
def putStringWrites (s : CStr) (maxLen : Int) : Writes :=
  if hasUtf8 s ∧ maxLen > 0 ∧ (utf8Strlen s : Int) > maxLen then truncateWrites s maxLen else []

/-- `text` が `put_string` に渡す `max_width`。`box` は一番内側の box の `opts.width`
（box の外なら `none`）、`cursorX` は `layout.cursor_x`。 -/
def textMaxWidth (box : Option Int) (cursorX : Int) : Int :=
  match box with
  | some width => if width > 0 then width - 2 - cursorX else -1
  | none => -1

/-! ## どの文字列でも書き込みは 256 まで -/

/-- ループの不変条件。書いた index は今の位置より前で、位置は 253 を超えない。 -/
def LoopInv (pos : Nat) (w : Writes) : Prop := (∀ p ∈ w, p.1 < pos) ∧ pos ≤ 253

theorem truncLoop_inv (s : CStr) (t : Int) (pos count : Nat) (w : Writes) (h : LoopInv pos w) :
    LoopInv (truncLoop s t pos count w).1 (truncLoop s t pos count w).2 := by
  induction pos, count, w using truncLoop.induct s t with
  | case1 pos count w hc bytes r ih =>
    rw [truncLoop, dif_pos hc]
    apply ih
    simp only [Int.sub_add_cancel, Int.toNat_ofNat]
    have hle : r.1 ≤ pos + bytes := copyChar_fst_le s bytes pos w
    have hgt : pos < r.1 := copyChar_fst_gt s w (utf8CharBytes_pos _) hc.1
    have hb : bytes ≤ 4 := utf8CharBytes_le (s.at pos)
    refine ⟨fun p hp => ?_, by omega⟩
    rcases copyChar_writes s bytes pos w p hp with h' | h'
    · exact Nat.lt_trans (h.1 p h') hgt
    · exact h'.2
  | case2 pos count w hc =>
    rw [truncLoop, dif_neg hc]
    exact h

/-- **どの文字列と幅でも、`truncated` への書き込みは index 255 までか、index 256 への NUL。**
写した byte と `...` は配列に収まり、はみ出しうるのは終端の NUL の一 byte だけである。 -/
theorem putStringWrites_index (s : CStr) (maxLen : Int) :
    ∀ p ∈ putStringWrites s maxLen, p.1 < 256 ∨ p = (256, 0) := by
  intro p hp
  unfold putStringWrites at hp
  split at hp
  · obtain ⟨hw, hpos⟩ := truncLoop_inv s (maxLen - 3) 0 0 [] ⟨by simp, by omega⟩
    rcases List.mem_append.1 hp with h | h
    · exact .inl (by have := hw p h; omega)
    · simp only [List.mem_cons, List.mem_singleton, List.not_mem_nil, or_false] at h
      rcases h with rfl | rfl | rfl | rfl
      · exact .inl (by dsimp only; omega)
      · exact .inl (by dsimp only; omega)
      · exact .inl (by dsimp only; omega)
      · by_cases h253 : (truncLoop s (maxLen - 3) 0 0 []).1 = 253
        · exact .inr (by rw [h253])
        · exact .inl (by dsimp only; omega)
  · exact absurd hp (List.not_mem_nil p)

/-- `"ééé"` を幅 2 で切り詰める。文字は一つも写らず、`...` と NUL だけが書かれる。 -/
theorem putStringWrites_index_dots :
    (3, 0) ∈ putStringWrites ⟨[0xC3, 0xA9, 0xC3, 0xA9, 0xC3, 0xA9], by decide⟩ 2 ∧
      ((3 : Nat) < 256 ∨ ((3 : Nat), (0 : UInt8)) = (256, 0)) := by
  have h : (3, 0) ∈ putStringWrites ⟨[0xC3, 0xA9, 0xC3, 0xA9, 0xC3, 0xA9], by decide⟩ 2 := by
    rw [putStringWrites, if_pos (by decide), truncateWrites, truncLoop, dif_neg (by decide)]
    decide
  exact ⟨h, putStringWrites_index _ _ _ h⟩

/-! ## 249 から始まる 4 byte の文字 -/

theorem CStr.at_ne_zero (s : CStr) {i : Nat} (h : i < s.bytes.length) : s.at i ≠ 0 := by
  rw [CStr.at, List.getD_eq_getElem?_getD, List.getElem?_eq_getElem h, Option.getD_some]
  exact fun h0 => s.noNul (h0 ▸ List.getElem_mem h)

/-- 文字列の中に収まる文字は、全部の byte が写される。 -/
theorem copyChar_fst_of_le (s : CStr) : ∀ k pos w, pos + k ≤ s.bytes.length →
    (copyChar s k pos w).1 = pos + k
  | 0, _, _, _ => rfl
  | k + 1, pos, w, h => by
    rw [copyChar, if_neg (s.at_ne_zero (by omega)), copyChar_fst_of_le s k (pos + 1) _ (by omega)]
    omega

/-- ループの一周。文字列の中に収まる文字を一つ写して、その byte 数だけ進む。 -/
theorem truncLoop_step (s : CStr) (t : Int) {pos count : Nat} (w : Writes)
    (hlen : pos + utf8CharBytes (s.at pos) ≤ s.bytes.length) (hp : pos < 250)
    (hc : (count : Int) < t) :
    ∃ w', truncLoop s t pos count w = truncLoop s t (pos + utf8CharBytes (s.at pos)) (count + 1) w' := by
  have h0 : s.at pos ≠ 0 := s.at_ne_zero (by have := utf8CharBytes_pos (s.at pos); omega)
  rw [truncLoop, dif_pos ⟨h0, hc, hp⟩]
  refine ⟨(copyChar s (utf8CharBytes (s.at pos)) pos w).2, ?_⟩
  dsimp only
  rw [copyChar_fst_of_le s _ pos w hlen, Int.sub_add_cancel, Int.toNat_ofNat]

/-- U+1F600 の UTF-8 を `k` 個。 -/
def emojis : Nat → Bytes
  | 0 => []
  | k + 1 => 0xF0 :: 0x9F :: 0x98 :: 0x80 :: emojis k

/-- `'a'` の後に U+1F600 を `k` 個並べた文字列。 -/
def aThenEmojis (k : Nat) : CStr where
  bytes := 0x61 :: emojis k
  noNul := by
    induction k with
    | zero => decide
    | succ k ih => simpa [emojis] using ih

theorem emojis_length (k : Nat) : (emojis k).length = 4 * k := by
  induction k with
  | zero => rfl
  | succ k ih => simp only [emojis, List.length_cons, ih]; omega

theorem emojis_getD : ∀ {k j : Nat}, j < k → (emojis k).getD (4 * j) 0 = 0xF0
  | k + 1, 0, _ => rfl
  | k + 1, j + 1, h => by
    rw [show 4 * (j + 1) = 4 * j + 4 by omega]
    exact emojis_getD (k := k) (by omega)

theorem utf8Strlen_aThenEmojis (k : Nat) : utf8Strlen (aThenEmojis k) = k + 1 := by
  have h : ∀ k, (emojis k).countP (fun b => b &&& 0xC0 != 0x80) = k := by
    intro k
    induction k with
    | zero => rfl
    | succ k ih => simp only [emojis, List.countP_cons, ih]; rfl
  simp only [utf8Strlen, aThenEmojis, List.countP_cons, h]
  rfl

/-- `'a'` と U+1F600 を `j` 個写した後の位置は `1 + 4 * j`。 -/
theorem truncLoop_aThenEmojis (k : Nat) (t : Int) (ht : 64 ≤ t) : ∀ j, j ≤ 63 → j ≤ k →
    ∃ w, truncLoop (aThenEmojis k) t 0 0 [] = truncLoop (aThenEmojis k) t (1 + 4 * j) (1 + j) w
  | 0, _, _ => by
    have h61 : utf8CharBytes ((aThenEmojis k).at 0) = 1 := by
      rw [show (aThenEmojis k).at 0 = 0x61 from rfl]; decide
    have h := @truncLoop_step (aThenEmojis k) t 0 0 []
      (by rw [h61]; show 1 ≤ (emojis k).length + 1; omega) (by omega) (by omega)
    rw [h61] at h
    exact h
  | j + 1, hj, hk => by
    obtain ⟨w, hw⟩ := truncLoop_aThenEmojis k t ht j (by omega) (by omega)
    have hat : (aThenEmojis k).at (1 + 4 * j) = 0xF0 := by
      rw [CStr.at, show 1 + 4 * j = 4 * j + 1 by omega]
      exact emojis_getD (by omega)
    have hlen : (aThenEmojis k).bytes.length = 4 * k + 1 := by
      simp only [aThenEmojis, List.length_cons, emojis_length]
    obtain ⟨w', hw'⟩ := @truncLoop_step (aThenEmojis k) t (1 + 4 * j) (1 + j) w
      (by rw [hat, hlen]; show 1 + 4 * j + 4 ≤ _; omega) (by omega) (by omega)
    rw [hat, show utf8CharBytes 0xF0 = 4 by decide] at hw'
    refine ⟨w', hw.trans (hw'.trans ?_)⟩
    congr 1

/-- **`'a'` の後に U+1F600 を 67 個以上並べ、幅 67 以上で切り詰めると、NUL が
`truncated[256]` に書かれる。** 幅は `text` が box の `opts.width` と `cursor_x` から作るもの。 -/
theorem putString_writes_past_truncated (k : Nat) (width cursorX : Int) (hw : 0 < width)
    (h67 : 67 ≤ width - 2 - cursorX) (hk : width - 2 - cursorX ≤ k) :
    (256, 0) ∈ putStringWrites (aThenEmojis k) (textMaxWidth (some width) cursorX) := by
  have hmax : textMaxWidth (some width) cursorX = width - 2 - cursorX := if_pos hw
  rw [hmax]
  obtain ⟨w, hrun⟩ := truncLoop_aThenEmojis k (width - 2 - cursorX - 3) (by omega) 63 (le_refl _)
    (by omega)
  have hend : truncLoop (aThenEmojis k) (width - 2 - cursorX - 3) 0 0 [] = (253, w) := by
    rw [hrun, truncLoop, dif_neg (by omega)]
  have hutf : hasUtf8 (aThenEmojis k) = true := by
    obtain ⟨k', rfl⟩ : ∃ k', k = k' + 1 := ⟨k - 1, by omega⟩
    rfl
  rw [putStringWrites, if_pos ⟨hutf, by omega, by rw [utf8Strlen_aThenEmojis]; push_cast; omega⟩,
    truncateWrites, hend]
  simp

/-- 幅 69 の box の先頭で、`'a'` と U+1F600 を 70 個。 -/
theorem putString_writes_past_truncated_seventy :
    (0 : Int) < 69 ∧ (67 : Int) ≤ 69 - 2 - 0 ∧ (69 : Int) - 2 - 0 ≤ (70 : Nat) ∧
      (256, 0) ∈ putStringWrites (aThenEmojis 70) (textMaxWidth (some 69) 0) :=
  ⟨by decide, by decide, by decide, putString_writes_past_truncated 70 69 0 (by decide) (by decide) (by decide)⟩

end Gg.Tgui
