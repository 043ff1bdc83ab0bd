import Gg.Ws.Frame
import Mathlib.Tactic.Ring

/-!
# RFC 6455 の frame と、その読み

`readFrame` が受け取りうる frame を RFC 6455 §5.2 の語彙で書き（`WireFrame`）、
`decodeFrame` がそれをどう読むかを一つの定理にまとめる（`decodeFrame_encode`）。
FIN、RSV、opcode、mask の有無、長さのどれをとっても、読みは

* 宣言された長さが `maxMessageSize` を超えれば、mask key と payload に手を付けずに `tooLarge`、
* そうでなければ frame をちょうど読み切って、FIN、下位 4 bit の opcode、unmask した payload

である。`sendFrameBytes` はこの frame の FIN = 1、RSV = 0、mask 付きの場合にあたる
（`sendFrameBytes_eq_encode`）。

## 鍵になる三つ

* mask は XOR なので、同じ key でもう一度かけると消える（`applyMask_applyMask`）。
* 長さ欄は三つの形のどれかで、どれも `readLength` が元の長さに読み戻す（`lenField_form`）。
  64 bit の形は `uint64_t` の畳み込みで、`Nat.mod_pow_succ` で一桁ずつ繋ぐ。
* `exact` な transport は `take` / `drop` なので、読んだ分だけ前から削れる。
-/

namespace Gg.Ws

/-! ## byte の算術 -/

@[simp] theorem xor_xor_cancel (a b : UInt8) : a ^^^ b ^^^ b = a := by
  cases a; cases b
  show UInt8.mk (_ ^^^ _ ^^^ _) = _
  rw [BitVec.xor_assoc, BitVec.xor_self, BitVec.xor_zero]

/-- 下位 `k` bit に収まる値との OR は足し算である。 -/
theorem shiftLeft_or_of_lt {a b k : Nat} (h : b < 2 ^ k) : a <<< k ||| b = 2 ^ k * a + b := by
  rw [Nat.shiftLeft_eq, Nat.mul_comm, Nat.mul_add_lt_is_or h]

/-- `(x & 0xFF)` を `uint8_t` にしたもの。 -/
theorem toNat_and_ff (x : Nat) : (x &&& 0xFF).toUInt8.toNat = x % 256 := by
  rw [toNat_toUInt8, show (0xFF : Nat) = 2 ^ 8 - 1 from rfl, Nat.and_pow_two_sub_one_eq_mod]
  omega

/-! ## mask -/

@[simp] theorem length_maskFrom (k : MaskKey) (i : Nat) (p : Bytes) :
    (maskFrom k i p).length = p.length := by
  induction p generalizing i with
  | nil => rfl
  | cons b bs ih => simp [maskFrom, ih]

@[simp] theorem length_applyMask (k : MaskKey) (p : Bytes) :
    (applyMask k p).length = p.length :=
  length_maskFrom k 0 p

theorem maskFrom_maskFrom (k : MaskKey) (i : Nat) (p : Bytes) :
    maskFrom k i (maskFrom k i p) = p := by
  induction p generalizing i with
  | nil => rfl
  | cons b bs ih => simp [maskFrom, ih]

/-- **同じ key でもう一度 mask すると元に戻る。** -/
theorem applyMask_applyMask (k : MaskKey) (p : Bytes) : applyMask k (applyMask k p) = p :=
  maskFrom_maskFrom k 0 p

/-- `i` 番目の byte は `P[i] ^ maskKey[i % 4]` である。 -/
theorem getElem?_maskFrom (k : MaskKey) (i : Nat) (p : Bytes) (j : Nat) :
    (maskFrom k i p)[j]? = p[j]?.map (· ^^^ k.get (i + j)) := by
  induction p generalizing i j with
  | nil => rfl
  | cons b bs ih =>
    cases j with
    | zero => simp [maskFrom]
    | succ j => simp [maskFrom, ih, Nat.add_assoc, Nat.add_comm 1 j]

theorem getElem?_applyMask (k : MaskKey) (p : Bytes) (j : Nat) :
    (applyMask k p)[j]? = p[j]?.map (· ^^^ k.get j) := by
  simpa using getElem?_maskFrom k 0 p j

/-! ## 長さ欄 -/

/-- mask bit。 -/
def maskBit (masked : Bool) : UInt8 := if masked then 0x80 else 0

/-- RFC 6455 §5.2 の長さ欄。mask bit と、最小の長さ表現。 -/
def lenField (masked : Bool) (n : Nat) : Bytes :=
  if n < 126 then [maskBit masked ||| n.toUInt8]
  else if n ≤ 65535 then (maskBit masked ||| 126) :: beBytes n 2
  else (maskBit masked ||| 127) :: beBytes n 8

/--
長さ欄の読み方での最小の形。mask bit、7 bit の値、拡張部の幅が長さの範囲で決まり、
拡張部は big-endian で長さを表す。
-/
def LengthForm (masked : Bool) (n : Nat) (field : Bytes) : Prop :=
  ∃ b ext, field = b :: ext ∧ (b &&& 0x80 != 0) = masked ∧
    (n < 126 ∧ (b &&& 0x7F).toNat = n ∧ ext = [] ∨
     126 ≤ n ∧ n ≤ 65535 ∧ (b &&& 0x7F).toNat = 126 ∧ ext.length = 2 ∧ extLen16 ext = n ∨
     65535 < n ∧ (b &&& 0x7F).toNat = 127 ∧ ext.length = 8 ∧ extLen64 ext = n)

/--
`readFrame` が読める長さ欄。7 bit、16 bit、64 bit のどの形でもよく、最小でなくてよい。
RFC の形（`LengthForm`）はその一つである。
-/
def LengthEncodes (masked : Bool) (n : Nat) (field : Bytes) : Prop :=
  ∃ b ext, field = b :: ext ∧ (b &&& 0x80 != 0) = masked ∧
    ((b &&& 0x7F).toNat = n ∧ n < 126 ∧ ext = [] ∨
     (b &&& 0x7F).toNat = 126 ∧ ext.length = 2 ∧ extLen16 ext = n ∨
     (b &&& 0x7F).toNat = 127 ∧ ext.length = 8 ∧ extLen64 ext = n)

theorem LengthForm.encodes {masked : Bool} {n : Nat} {field : Bytes}
    (h : LengthForm masked n field) : LengthEncodes masked n field := by
  obtain ⟨b, ext, he, hm, hf⟩ := h
  refine ⟨b, ext, he, hm, ?_⟩
  rcases hf with ⟨h1, h7, rfl⟩ | ⟨-, -, h7, hl, hv⟩ | ⟨-, h7, hl, hv⟩
  exacts [.inl ⟨h7, h1, rfl⟩, .inr (.inl ⟨h7, hl, hv⟩), .inr (.inr ⟨h7, hl, hv⟩)]

theorem shortByte_ok : ∀ (masked : Bool), ∀ n, n < 126 →
    ((maskBit masked ||| n.toUInt8) &&& 0x80 != 0) = masked ∧
      ((maskBit masked ||| n.toUInt8) &&& 0x7F).toNat = n := by
  decide

theorem markerByte_ok (masked : Bool) :
    ((maskBit masked ||| 126) &&& 0x80 != 0) = masked ∧ ((maskBit masked ||| 126) &&& 0x7F).toNat = 126 ∧
    ((maskBit masked ||| 127) &&& 0x80 != 0) = masked ∧ ((maskBit masked ||| 127) &&& 0x7F).toNat = 127 := by
  cases masked <;> decide

theorem length_beBytes (n k : Nat) : (beBytes n k).length = k := by
  induction k with
  | zero => rfl
  | succ k ih => simp [beBytes, ih]

theorem extLen16_beBytes {n : Nat} (h : n < 65536) : extLen16 (beBytes n 2) = n := by
  have hlt : n % 256 < 2 ^ 8 := Nat.mod_lt n (by decide)
  simp only [beBytes, extLen16, List.getD_cons_zero, List.getD_cons_succ, toNat_and_ff,
    Nat.shiftRight_eq_div_pow, Nat.zero_mul, Nat.pow_zero, Nat.div_one]
  rw [shiftLeft_or_of_lt hlt]
  omega

theorem mod_mul_add_mod (a c d m : Nat) : (a % m * c + d) % m = (a * c + d) % m := by
  simp [Nat.add_mod, Nat.mul_mod, Nat.mod_mod]

/-- 畳み込みは一桁ずつ `256` 倍して足す。`uint64_t` の桁あふれは最後の `% 2 ^ 64` にまとまる。 -/
theorem foldl_extLen64Step_beBytes (n : Nat) :
    ∀ (k acc : Nat), acc < 2 ^ 64 →
      (beBytes n k).foldl extLen64Step acc = (acc * 256 ^ k + n % 256 ^ k) % 2 ^ 64
  | 0, acc, h => by
    simp only [beBytes, List.foldl_nil, Nat.pow_zero, Nat.mul_one, Nat.mod_one, Nat.add_zero]
    exact (Nat.mod_eq_of_lt h).symm
  | k + 1, acc, h => by
    have hlt : n / 256 ^ k % 256 < 2 ^ 8 := Nat.mod_lt _ (by decide)
    have hstep : extLen64Step acc ((n >>> (k * 8)) &&& 0xFF).toUInt8
        = (2 ^ 8 * acc + n / 256 ^ k % 256) % 2 ^ 64 := by
      rw [extLen64Step, toNat_and_ff, Nat.shiftRight_eq_div_pow, Nat.mul_comm, Nat.pow_mul,
        shiftLeft_or_of_lt hlt]
    rw [beBytes, List.foldl_cons, hstep, foldl_extLen64Step_beBytes n k _ (Nat.mod_lt _ (by decide)),
      mod_mul_add_mod, @Nat.mod_pow_succ n 256 k]
    congr 1
    ring

theorem extLen64_beBytes (n : Nat) : extLen64 (beBytes n 8) = n % 2 ^ 64 := by
  simp [extLen64, foldl_extLen64Step_beBytes n 8 0 (by decide)]

/-- **長さ欄は最小の形である。** -/
theorem lenField_form (masked : Bool) {n : Nat} (h : n < 2 ^ 64) :
    LengthForm masked n (lenField masked n) := by
  obtain ⟨h126, v126, h127, v127⟩ := markerByte_ok masked
  unfold lenField
  split
  · next h1 =>
    exact ⟨_, [], rfl, (shortByte_ok masked n h1).1, .inl ⟨h1, (shortByte_ok masked n h1).2, rfl⟩⟩
  · next h1 =>
    split
    · next h2 =>
      exact ⟨_, _, rfl, h126, .inr (.inl ⟨by omega, h2, v126, length_beBytes n 2,
        extLen16_beBytes (by omega)⟩)⟩
    · next h2 =>
      exact ⟨_, _, rfl, h127, .inr (.inr ⟨by omega, v127, length_beBytes n 8,
        by rw [extLen64_beBytes, Nat.mod_eq_of_lt h]⟩)⟩

/-- `sendFrame` の長さ欄は、mask bit を立てた RFC の長さ欄である。 -/
theorem lengthField_eq_lenField (n : Nat) : lengthField n = lenField true n := by
  unfold lengthField lenField
  split
  · rfl
  · split <;> simp [beBytes, maskBit]

/-! ## `exact` な transport での読み -/

theorem exact_rawRecv_append (a rest : Bytes) : exact.rawRecv (a ++ rest) a.length = (a, rest) := by
  simp [exact]

theorem readLength_exact_of_encodes {masked : Bool} {n : Nat} {b : UInt8} {ext : Bytes}
    (h : LengthEncodes masked n (b :: ext)) (rest : Bytes) :
    (b &&& 0x80 != 0) = masked ∧
      readLength exact (ext ++ rest) (b &&& 0x7F).toNat = (some n, rest) := by
  obtain ⟨b', ext', he, hm, hf⟩ := h
  cases he
  refine ⟨hm, ?_⟩
  rcases hf with ⟨h7, h1, rfl⟩ | ⟨h7, hl, hv⟩ | ⟨h7, hl, hv⟩
  · simp [readLength, h7, show n ≠ 126 by omega, show n ≠ 127 by omega]
  · rw [h7, readLength, if_pos rfl, ← hl, exact_rawRecv_append]
    simp [hl, hv]
  · rw [h7, readLength, if_neg (by decide), if_pos rfl, ← hl, exact_rawRecv_append]
    simp [hl, hv]

theorem readMaskKey_exact (k : MaskKey) (rest : Bytes) :
    readMaskKey exact (k.toBytes ++ rest) true = (some k, rest) := by
  simp [readMaskKey, exact, MaskKey.toBytes, MaskKey.ofBytes]

theorem readPayload_exact (p rest acc : Bytes) :
    readPayload exact (p ++ rest) p.length acc = (some (acc ++ p), rest) := by
  rw [readPayload]
  split
  · next h => simp_all
  · next h =>
    simp only [exact_rawRecv_append, if_neg h, Nat.sub_self]
    rw [readPayload, if_pos rfl]

/-! ## RFC 6455 の frame -/

/-- RFC 6455 §5.2 の frame。各欄の幅は型が持つ。長さは 64 bit で書ける範囲に限る。 -/
structure WireFrame where
  fin : Bool
  rsv : Fin 8
  opcode : Fin 16
  key : Option MaskKey
  payload : Bytes
  short : payload.length < 2 ^ 64
  deriving DecidableEq

namespace WireFrame

/-- 1 byte 目。FIN、RSV1–3、opcode。 -/
def byte0 (f : WireFrame) : UInt8 :=
  (if f.fin then (0x80 : UInt8) else 0) ||| (f.rsv.val <<< 4).toUInt8 ||| f.opcode.val.toUInt8

def keyBytes (f : WireFrame) : Bytes :=
  match f.key with
  | some k => k.toBytes
  | none => []

/-- 線上の payload。mask 付きなら mask したもの。 -/
def body (f : WireFrame) : Bytes :=
  match f.key with
  | some k => applyMask k f.payload
  | none => f.payload

def encode (f : WireFrame) : Bytes :=
  f.byte0 :: (lenField f.key.isSome f.payload.length ++ f.keyBytes ++ f.body)

/-- 長さ欄を `field` で書いた frame。`encode` は RFC の最小の長さ欄を使う。 -/
def encodeWith (f : WireFrame) (field : Bytes) : Bytes := f.byte0 :: (field ++ f.keyBytes ++ f.body)

end WireFrame

/-- 1 byte 目から FIN と opcode が読み戻せる。RSV は読みに影響しない。 -/
theorem byte0_ok : ∀ (fin : Bool), ∀ r, r < 8 → ∀ o, o < 16 →
    let b : UInt8 := (if fin then (0x80 : UInt8) else 0) ||| (r <<< 4).toUInt8 ||| o.toUInt8
    (b &&& 0x80 != 0) = fin ∧ b &&& 0x0F = o.toUInt8 := by
  decide

theorem readMaskKey_exact_frame (f : WireFrame) (rest : Bytes) :
    readMaskKey exact (f.keyBytes ++ rest) f.key.isSome
      = (some (f.key.getD MaskKey.zero), rest) := by
  rcases f with ⟨fin, rsv, o, _ | k, p, h⟩
  · rfl
  · exact readMaskKey_exact k rest

theorem unmask_body (f : WireFrame) :
    (if f.key.isSome then applyMask (f.key.getD MaskKey.zero) f.body else f.body) = f.payload := by
  rcases f with ⟨fin, rsv, o, _ | k, p, h⟩
  · rfl
  · exact applyMask_applyMask k p

@[simp] theorem length_body (f : WireFrame) : f.body.length = f.payload.length := by
  rcases f with ⟨fin, rsv, o, _ | k, p, h⟩ <;> simp [WireFrame.body]

/--
**`readFrame` の読み。** どの frame でも、長さ欄がどの形でも、宣言された長さが `maxMessageSize` を
超えれば mask key と payload の手前で `tooLarge`、そうでなければちょうど読み切って FIN、opcode、
payload を返す。
-/
theorem decodeFrame_encodeWith (f : WireFrame) {field : Bytes}
    (hfield : LengthEncodes f.key.isSome f.payload.length field) (maxMessageSize : Nat)
    (rest : Bytes) :
    decodeFrame exact maxMessageSize (f.encodeWith field ++ rest) =
      if maxMessageSize < f.payload.length then (.tooLarge, f.keyBytes ++ (f.body ++ rest))
      else (.frame f.fin f.opcode.val.toUInt8 f.payload, rest) := by
  obtain ⟨b, ext, rfl, -⟩ := id hfield
  obtain ⟨hmask, hlen⟩ := readLength_exact_of_encodes hfield (f.keyBytes ++ (f.body ++ rest))
  obtain ⟨hfin, hop⟩ := byte0_ok f.fin f.rsv.val f.rsv.isLt f.opcode.val f.opcode.isLt
  have h2 : exact.rawRecv (f.encodeWith (b :: ext) ++ rest) 2
      = ([f.byte0, b], ext ++ (f.keyBytes ++ (f.body ++ rest))) := by
    simp [exact, WireFrame.encodeWith]
  have hpay := readPayload_exact f.body rest []
  rw [length_body] at hpay
  unfold decodeFrame
  simp only [h2, List.length_cons, List.length_nil, ne_eq, not_true_eq_false, if_false,
    List.getD_cons_zero, List.getD_cons_succ, WireFrame.byte0, hfin, hop, hmask, hlen, gt_iff_lt]
  split
  · rfl
  · simp [readMaskKey_exact_frame, hpay, unmask_body]

/-- RFC の最小の長さ欄で書いた frame も同じように読む。 -/
theorem decodeFrame_encode (f : WireFrame) (maxMessageSize : Nat) (rest : Bytes) :
    decodeFrame exact maxMessageSize (f.encode ++ rest) =
      if maxMessageSize < f.payload.length then (.tooLarge, f.keyBytes ++ (f.body ++ rest))
      else (.frame f.fin f.opcode.val.toUInt8 f.payload, rest) :=
  decodeFrame_encodeWith f (lenField_form f.key.isSome f.short).encodes maxMessageSize rest

/-- **`sendFrame` の frame は、FIN = 1、RSV = 0、mask 付きの RFC の frame である。** -/
theorem sendFrameBytes_eq_encode {o : UInt8} (ho : o < 16) {p : Bytes} (hp : p.length < 2 ^ 64)
    (k : MaskKey) :
    sendFrameBytes o p k = WireFrame.encode ⟨true, 0, ⟨o.toNat, ho⟩, some k, p, hp⟩ := by
  have key : ∀ n, n < 16 →
      (0x80 : UInt8) ||| n.toUInt8 = (0x80 : UInt8) ||| ((0 : Nat) <<< 4).toUInt8 ||| n.toUInt8 := by
    decide
  have hb := key o.toNat ho
  rw [toUInt8_toNat] at hb
  simp [sendFrameBytes, WireFrame.encode, WireFrame.byte0, WireFrame.keyBytes, WireFrame.body,
    lengthField_eq_lenField, hb, toUInt8_toNat]

end Gg.Ws
