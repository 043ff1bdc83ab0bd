import Gg.Ws.Wire

/-!
# `sendFrame` と `readFrame` の往復

client が送る frame は、FIN = 1、RSV = 0、mask 付きの RFC の frame である
（`sendFrameBytes_eq_encode`）。だから往復は `decodeFrame_encode` の特別な場合になる。
ここでは frame の並び（header、最小の長さ欄、key、mask した payload）と読み戻しを一つにまとめる。
-/

namespace Gg.Ws

/--
`sendFrame` の書く frame の法則。FIN を立てた header、最小の長さ欄、mask key、
`P[i] ^ k[i % 4]` の順に並び、`exact` な transport の上の `readFrame` はちょうどそれを読み切って
FIN、opcode、payload を返す。
-/
def FrameLaws (o : UInt8) (p : Bytes) (k : MaskKey) (maxMessageSize : Nat) : Prop :=
  ∃ field, sendFrameBytes o p k = (0x80 ||| o) :: (field ++ k.toBytes ++ applyMask k p) ∧
    LengthForm true p.length field ∧
    (∀ i, (applyMask k p)[i]? = p[i]?.map (· ^^^ k.get i)) ∧
    ∀ rest, decodeFrame exact maxMessageSize (sendFrameBytes o p k ++ rest)
      = (.frame true o p, rest)

/-- **4 bit の opcode、`2 ^ 63` byte 未満の payload、任意の mask key で法則が成り立つ。** -/
theorem sendFrame_roundtrip {o : UInt8} (ho : o < 16) (p : Bytes) (k : MaskKey)
    {maxMessageSize : Nat} (hp : p.length < 2 ^ 63) (hmax : p.length ≤ maxMessageSize) :
    FrameLaws o p k maxMessageSize := by
  have hp64 : p.length < 2 ^ 64 := Nat.lt_trans hp (by decide)
  refine ⟨lengthField p.length, rfl, lengthField_eq_lenField _ ▸ lenField_form true hp64,
    getElem?_applyMask k p, fun rest => ?_⟩
  rw [sendFrameBytes_eq_encode ho hp64, decodeFrame_encode, if_neg (Nat.not_lt.mpr hmax)]
  simp [toUInt8_toNat]

theorem sendFrame_roundtrip_hi :
    Opcode.text < 16 ∧ [0x68, 0x69].length < 2 ^ 63 ∧ [0x68, 0x69].length ≤ 16 ∧
      FrameLaws Opcode.text [0x68, 0x69] ⟨1, 2, 3, 4⟩ 16 :=
  ⟨by decide, by decide, by decide, sendFrame_roundtrip (by decide) _ _ (by decide) (by decide)⟩

end Gg.Ws
