import Gg.Ws.Frame

/-!
# 送受信の呼び出しに渡す byte 数

`rawSend` と `rawRecv`（`part_004` 739–763 行）が `SSL_write`、`SSL_read`、`send`、`recv` に渡す数。

平文の socket では残りの byte 数をそのまま `size_t` で渡すので、書き込みの loop は受け取られた分だけ
進み、最後まで書いて `true` を返す（`rawSend_plain`）。TLS の道では残りを `static_cast<int>` で
`int` にしてから渡す。`size_t` の下位 32 bit を 2 の補数で読むので、残りが `2 ^ 31` 以上のところで
負や 0 になりうる。`SSL_write` と `SSL_read` は `num <= 0` を失敗として返し、loop はそこで
止まる（`rawSend_tls_nonpositive`、`readPayload_intCount_nonpositive`）。
-/

namespace Gg.Ws

/-- `static_cast<int>(n)`。`size_t` の下位 32 bit を 2 の補数で読む。 -/
def toInt32 (n : Nat) : Int :=
  if n % 2 ^ 32 < 2 ^ 31 then ((n % 2 ^ 32 : Nat) : Int) else ((n % 2 ^ 32 : Nat) : Int) - 2 ^ 32

/-- `2 ^ 31` 未満はそのまま読む。 -/
theorem toInt32_of_lt {n : Nat} (h : n < 2 ^ 31) : toInt32 n = n := by
  have : n % 2 ^ 32 = n := Nat.mod_eq_of_lt (by omega)
  rw [toInt32, this, if_pos h]

/-- 下位 32 bit が `2 ^ 31` 以上か 0 なら、正でない。 -/
theorem toInt32_nonpos {n : Nat} (h : 2 ^ 31 ≤ n % 2 ^ 32 ∨ n % 2 ^ 32 = 0) : toInt32 n ≤ 0 := by
  have hlt : n % 2 ^ 32 < 2 ^ 32 := Nat.mod_lt _ (by decide)
  unfold toInt32
  split <;> omega

/-! ## 書き込み -/

/-- 書き込みの呼び出しに渡す数。TLS では `int` にする。 -/
def writeCount (ssl : Bool) (remaining : Nat) : Int := if ssl then toInt32 remaining else remaining

/--
書き込みを受ける側。`k` 回目の呼び出しに正の数 `c` を頼むと、1 以上 `c` 以下を受け取る。
-/
structure Writer where
  accept : Nat → Nat → Nat
  accept_pos : ∀ k c, 0 < c → 0 < accept k c
  accept_le : ∀ k c, accept k c ≤ c

/-- `SSL_write` / `send` の一回の戻り値。0 以下を頼まれれば失敗を返す。 -/
def Writer.call (w : Writer) (k : Nat) (count : Int) : Int :=
  if count ≤ 0 then -1 else w.accept k count.toNat

/-- 書き込みの一回。そのときの残りの byte 数、渡した数、受け取られた byte。 -/
structure WriteCall where
  remaining : Nat
  count : Int
  written : Bytes
  deriving DecidableEq, Repr

/-- `rawSend` の loop。`k` は呼び出しの番号、`totalSent` はここまでに受け取られた byte 数。 -/
def rawSendLoop (ssl : Bool) (w : Writer) (data : Bytes) (k totalSent : Nat) :
    Bool × List WriteCall :=
  if totalSent < data.length then
    if w.call k (writeCount ssl (data.length - totalSent)) ≤ 0 then
      (false, [⟨data.length - totalSent, writeCount ssl (data.length - totalSent), []⟩])
    else
      let sent := (w.call k (writeCount ssl (data.length - totalSent))).toNat
      let r := rawSendLoop ssl w data (k + 1) (totalSent + sent)
      (r.1, ⟨data.length - totalSent, writeCount ssl (data.length - totalSent),
        (data.drop totalSent).take sent⟩ :: r.2)
  else (true, [])
termination_by data.length - totalSent
decreasing_by omega

/-- `rawSend(data, len)`。`ssl` は TLS の道か。戻り値と、呼び出しの列。 -/
def rawSend (ssl : Bool) (w : Writer) (data : Bytes) : Bool × List WriteCall :=
  rawSendLoop ssl w data 0 0

/-- どの呼び出しも、1 以上、そのときの残り以下を頼む。 -/
def WriteCall.inRange (c : WriteCall) : Prop := 1 ≤ c.count ∧ c.count ≤ c.remaining

section
variable {ssl : Bool} {w : Writer} {data : Bytes} {k t : Nat}

theorem rawSendLoop_done (h : ¬t < data.length) : rawSendLoop ssl w data k t = (true, []) := by
  rw [rawSendLoop, if_neg h]

theorem rawSendLoop_fail (h : t < data.length) (hs : w.call k (writeCount ssl (data.length - t)) ≤ 0) :
    rawSendLoop ssl w data k t =
      (false, [⟨data.length - t, writeCount ssl (data.length - t), []⟩]) := by
  rw [rawSendLoop, if_pos h, if_pos hs]

/-- 受け取られた `n` byte だけ進む。 -/
theorem rawSendLoop_sent {n : Nat} (h : t < data.length)
    (hs : w.call k (writeCount ssl (data.length - t)) = (n : Int)) (hn : 0 < n) :
    rawSendLoop ssl w data k t =
      ((rawSendLoop ssl w data (k + 1) (t + n)).1,
        ⟨data.length - t, writeCount ssl (data.length - t), (data.drop t).take n⟩ ::
          (rawSendLoop ssl w data (k + 1) (t + n)).2) := by
  rw [rawSendLoop, if_pos h, if_neg (by omega), hs, Int.toNat_ofNat]

end

/-- 渡す数が残りそのものなら、loop は残りをすべて順に書いて `true` を返す。 -/
theorem rawSendLoop_complete (ssl : Bool) (w : Writer) (data : Bytes)
    (hcount : ∀ t < data.length, writeCount ssl (data.length - t) = ((data.length - t : Nat) : Int))
    (k t : Nat) (ht : t ≤ data.length) :
    (rawSendLoop ssl w data k t).1 = true ∧
      ((rawSendLoop ssl w data k t).2.map WriteCall.written).flatten = data.drop t ∧
      ∀ c ∈ (rawSendLoop ssl w data k t).2, c.inRange := by
  induction k, t using rawSendLoop.induct ssl w data with
  | case1 k t hlt hs =>
    have hpos := w.accept_pos k (data.length - t) (by omega)
    rw [hcount t hlt, Writer.call, if_neg (by omega), Int.toNat_ofNat] at hs
    omega
  | case2 k t hlt _ sent ih =>
    have hpos := w.accept_pos k (data.length - t) (by omega)
    have hle := w.accept_le k (data.length - t)
    have hcall : w.call k (writeCount ssl (data.length - t)) = (w.accept k (data.length - t) : Int) := by
      rw [hcount t hlt, Writer.call, if_neg (by omega), Int.toNat_ofNat]
    have hsent : sent = w.accept k (data.length - t) := by
      simp only [sent, hcall, Int.toNat_ofNat]
    rw [hsent] at ih
    obtain ⟨h1, h2, h3⟩ := ih (by omega)
    rw [rawSendLoop_sent hlt hcall hpos]
    refine ⟨h1, ?_, ?_⟩
    · rw [List.map_cons, List.flatten_cons, h2, ← List.drop_drop, List.take_append_drop]
    · rintro c (_ | ⟨_, hc⟩)
      · simp only [WriteCall.inRange, hcount t hlt]
        omega
      · exact h3 c hc
  | case3 k t hlt =>
    rw [rawSendLoop_done hlt, List.drop_eq_nil_of_le (by omega)]
    exact ⟨rfl, rfl, nofun⟩

/-- **平文の socket では、どの transport でも全部を順に書いて `true` を返す。** -/
theorem rawSend_plain (w : Writer) (data : Bytes) :
    (rawSend false w data).1 = true ∧
      ((rawSend false w data).2.map WriteCall.written).flatten = data ∧
      ∀ c ∈ (rawSend false w data).2, c.inRange := by
  simpa using rawSendLoop_complete false w data (fun _ _ => rfl) 0 0 (Nat.zero_le _)

/-- TLS でも、全体が `2 ^ 31` byte 未満なら同じである。 -/
theorem rawSend_tls_small (w : Writer) {data : Bytes} (h : data.length < 2 ^ 31) :
    (rawSend true w data).1 = true ∧
      ((rawSend true w data).2.map WriteCall.written).flatten = data ∧
      ∀ c ∈ (rawSend true w data).2, c.inRange := by
  simpa using rawSendLoop_complete true w data (fun t _ => toInt32_of_lt (by omega)) 0 0
    (Nat.zero_le _)

/-- 長さの下位 32 bit が `2 ^ 31` 以上か 0 なら、最初の `SSL_write` で何も書かずに `false` を返す。 -/
theorem rawSend_tls_nonpositive (w : Writer) {data : Bytes} (hpos : 0 < data.length)
    (h : 2 ^ 31 ≤ data.length % 2 ^ 32 ∨ data.length % 2 ^ 32 = 0) :
    rawSend true w data = (false, [⟨data.length, toInt32 data.length, []⟩]) := by
  have hc : w.call 0 (writeCount true (data.length - 0)) ≤ 0 := by
    simp [Writer.call, writeCount, toInt32_nonpos h]
  simpa using rawSendLoop_fail hpos hc

/-! ## 読み -/

variable {σ : Type}

/-- TLS の `rawRecv`。`SSL_read(ssl, buffer, static_cast<int>(len))` は 0 以下を頼まれると何も返さない。 -/
def Recv.intCount (r : Recv σ) : Recv σ where
  rawRecv s len := if toInt32 len ≤ 0 then ([], s) else r.rawRecv s (toInt32 len).toNat

/-- 宣言された長さの下位 32 bit が `2 ^ 31` 以上か 0 なら、TLS の payload の読みは最初の回で失敗する。 -/
theorem readPayload_intCount_nonpositive (r : Recv σ) (s : σ) {n : Nat} (hn : 0 < n)
    (h : 2 ^ 31 ≤ n % 2 ^ 32 ∨ n % 2 ^ 32 = 0) (acc : Bytes) :
    readPayload r.intCount s n acc = (none, s) := by
  rw [readPayload, if_neg (by omega)]
  simp [Recv.intCount, toInt32_nonpos h]

/-- `chunked` の一回の読みは、byte 流の先頭を取る。空でない塊の列なら、頼めば 1 byte 以上を返す。 -/
theorem chunked_rawRecv_prefix {cs s₁ : List Bytes} {n : Nat} {b : Bytes}
    (hne : ∀ c ∈ cs, c ≠ []) (h : chunked.rawRecv cs n = (b, s₁)) :
    b = cs.flatten.take b.length ∧ s₁.flatten = cs.flatten.drop b.length ∧
      (∀ c ∈ s₁, c ≠ []) ∧ b.length ≤ n ∧ (0 < n → cs ≠ [] → 0 < b.length) := by
  cases cs with
  | nil =>
    cases h
    exact ⟨rfl, rfl, nofun, Nat.zero_le _, fun _ h => absurd rfl h⟩
  | cons c cs =>
    have hc : c ≠ [] := hne c (List.mem_cons_self c cs)
    have hc0 : 0 < c.length := List.length_pos.mpr hc
    simp only [chunked, Prod.mk.injEq] at h
    obtain ⟨rfl, rfl⟩ := h
    have hlen : (c.take n).length = min n c.length := List.length_take _ _
    refine ⟨?_, ?_, ?_, by omega, fun hn _ => by omega⟩
    · rw [List.flatten_cons, hlen, List.take_append_of_le_length (by omega), ← List.take_take,
        List.take_length]
    · split
      · next hlt =>
        rw [List.flatten_cons, List.flatten_cons, hlen, Nat.min_eq_left hlt.le,
          List.drop_append_of_le_length hlt.le]
      · next hge =>
        rw [List.flatten_cons, hlen, Nat.min_eq_right (by omega), List.drop_left]
    · split
      · next hlt =>
        rintro d (_ | ⟨_, hd⟩)
        · exact List.ne_nil_of_length_pos (by simp; omega)
        · exact hne d (List.mem_cons_of_mem c hd)
      · exact fun d hd => hne d (List.mem_cons_of_mem c hd)

/-- **平文の socket の payload の読みは、短い読みを重ねて、ちょうど宣言された長さを読む。** -/
theorem readPayload_chunked (cs : List Bytes) (n : Nat) (acc : Bytes) :
    (∀ c ∈ cs, c ≠ []) → n ≤ cs.flatten.length →
      ∃ rest, readPayload chunked cs n acc = (some (acc ++ cs.flatten.take n), rest) ∧
        rest.flatten = cs.flatten.drop n := by
  induction cs, n, acc using readPayload.induct chunked with
  | case1 cs acc => exact fun _ _ => ⟨cs, by rw [readPayload, if_pos rfl]; simp, by simp⟩
  | case2 cs n acc hn b s₁ hr hb =>
    intro hne hle
    obtain ⟨-, -, -, -, hpos⟩ := chunked_rawRecv_prefix hne hr
    have hcs : cs ≠ [] := by rintro rfl; simp at hle; omega
    exact absurd hb (by have := hpos (Nat.pos_of_ne_zero hn) hcs; omega)
  | case3 cs n acc hn b s₁ hr hb ih =>
    intro hne hle
    obtain ⟨hpre, hrest, hne₁, hbn, -⟩ := chunked_rawRecv_prefix hne hr
    obtain ⟨rest, h₁, h₂⟩ := ih hne₁ (by rw [hrest, List.length_drop]; omega)
    refine ⟨rest, ?_, ?_⟩
    · rw [readPayload, if_neg hn]
      simp only [hr, if_neg hb, h₁, hrest, List.append_assoc]
      conv_rhs => rw [show n = b.length + (n - b.length) by omega, List.take_add, ← hpre]
    · rw [h₂, hrest, List.drop_drop, Nat.add_sub_cancel' hbn]

/-! ## 呼び出しに渡す数 -/

/--
**TLS の道では、残りが `2 ^ 31` byte 以上のところで、呼び出しに渡す数が正でなくなる。** 平文の
socket では、どの transport でも `rawSend` は全部を順に書いて `true` を返し、どの呼び出しも 1 以上、
残り以下を頼む。TLS でも全体が `2 ^ 31` byte 未満なら同じである。しかし長さの下位 32 bit が
`2 ^ 31` 以上か 0 の data では、最初の `SSL_write` に正でない数（`2 ^ 31` byte なら `-2 ^ 31`、
`2 ^ 32` byte なら 0）を渡し、何も書かずに `false` を返す。payload の読みも同じで、平文の socket では
短い読みを重ねてちょうど宣言された長さを読むが、TLS では宣言された長さがそうなら最初の `SSL_read` で
失敗する。
-/
theorem transport_counts_overflow_int :
    (∀ (w : Writer) (data : Bytes), (rawSend false w data).1 = true ∧
      ((rawSend false w data).2.map WriteCall.written).flatten = data ∧
      ∀ c ∈ (rawSend false w data).2, c.inRange) ∧
    (∀ (w : Writer) (data : Bytes), data.length < 2 ^ 31 → (rawSend true w data).1 = true ∧
      ((rawSend true w data).2.map WriteCall.written).flatten = data ∧
      ∀ c ∈ (rawSend true w data).2, c.inRange) ∧
    (∀ (w : Writer) (data : Bytes), 0 < data.length →
      (2 ^ 31 ≤ data.length % 2 ^ 32 ∨ data.length % 2 ^ 32 = 0) →
      rawSend true w data = (false, [⟨data.length, toInt32 data.length, []⟩]) ∧
        ¬(⟨data.length, toInt32 data.length, []⟩ : WriteCall).inRange) ∧
    toInt32 (2 ^ 31) = -2 ^ 31 ∧ toInt32 (2 ^ 32) = 0 ∧
    (∀ (cs : List Bytes) (n : Nat), (∀ c ∈ cs, c ≠ []) → n ≤ cs.flatten.length →
      ∃ rest, readPayload chunked cs n [] = (some (cs.flatten.take n), rest)) ∧
    (∀ {σ : Type} (r : Recv σ) (s : σ) (n : Nat), 0 < n →
      (2 ^ 31 ≤ n % 2 ^ 32 ∨ n % 2 ^ 32 = 0) → readPayload r.intCount s n [] = (none, s)) :=
  ⟨rawSend_plain, fun w _ h => rawSend_tls_small w h,
    fun w _ hp h => ⟨rawSend_tls_nonpositive w hp h,
      fun hr => absurd (show 1 ≤ toInt32 _ from hr.1) (by have := toInt32_nonpos h; omega)⟩,
    by decide, by decide,
    fun cs n hne hle => (readPayload_chunked cs n [] hne hle).imp fun _ h => by simpa using h.1,
    fun r s _ hn h => readPayload_intCount_nonpositive r s hn h []⟩

end Gg.Ws
