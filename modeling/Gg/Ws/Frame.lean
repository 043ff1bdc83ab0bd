import Gg.Ws.Types

/-!
# frame の符号化と復号

`WebSocket::Impl::sendFrame` が組み立てる byte 列と、`readFrame` の header から payload までの
読み方（`part_004` 600–654 行）。opcode ごとの振り分けは `Gg/Ws/Session.lean` に置く。

## 受信側の transport

`readFrame` は `rawRecv` を何度も呼ぶ。`rawRecv` の中身（`recv` か `SSL_read` か）は
`Recv` として外から与える。二つを用意する。

* `exact` — 要求した数だけ返す。残りが足りなければ残り全部。
* `chunked` — byte 流を塊の列として持ち、一回の読みは先頭の塊からしか取らない。
  塊の切り方を任意にとれば、各回が 1 から要求数までのどれを返すかを任意に選べる。
-/

namespace Gg.Ws

/-! ## mask -/

/-- `uint8_t maskKey[4]`。 -/
structure MaskKey where
  b0 : UInt8
  b1 : UInt8
  b2 : UInt8
  b3 : UInt8
  deriving DecidableEq, Repr

/-- `maskKey[i % 4]`。 -/
def MaskKey.get (k : MaskKey) (i : Nat) : UInt8 :=
  match i % 4 with
  | 0 => k.b0
  | 1 => k.b1
  | 2 => k.b2
  | _ => k.b3

def MaskKey.toBytes (k : MaskKey) : Bytes := [k.b0, k.b1, k.b2, k.b3]

/-- 受信した 4 byte を mask key として読む。 -/
def MaskKey.ofBytes (b : Bytes) : MaskKey := ⟨b.getD 0 0, b.getD 1 0, b.getD 2 0, b.getD 3 0⟩

/-- `masked` でない frame の key。`uint8_t maskKey[4] = {0}`。 -/
def MaskKey.zero : MaskKey := ⟨0, 0, 0, 0⟩

/-- `b ^ maskKey[i % 4]` を添字 `i` から順に。送信の mask も受信の unmask もこれである。 -/
def maskFrom (k : MaskKey) : Nat → Bytes → Bytes
  | _, [] => []
  | i, b :: bs => (b ^^^ k.get i) :: maskFrom k (i + 1) bs

def applyMask (k : MaskKey) (p : Bytes) : Bytes := maskFrom k 0 p

/-! ## 送信 -/

/-- 長さの big-endian 表現の下位 `n` byte。`for (int i = 7; i >= 0; --i)` の `i` が `n - 1` から下る。 -/
def beBytes (len : Nat) : Nat → Bytes
  | 0 => []
  | n + 1 => ((len >>> (n * 8)) &&& 0xFF).toUInt8 :: beBytes len n

/-- `sendFrame` の長さ欄。client は必ず mask するので mask bit が立つ。 -/
def lengthField (len : Nat) : Bytes :=
  if len < 126 then [0x80 ||| len.toUInt8]
  else if len ≤ 65535 then [0x80 ||| 126, ((len >>> 8) &&& 0xFF).toUInt8, (len &&& 0xFF).toUInt8]
  else (0x80 ||| 127) :: beBytes len 8

/--
`sendFrame` が組み立てる `frame`。FIN を立てた header、長さ欄、mask key、mask した payload。

mask key は `std::random_device` から来るので引数にとる。
-/
def sendFrameBytes (opcode : UInt8) (payload : Bytes) (key : MaskKey) : Bytes :=
  (0x80 ||| opcode) :: (lengthField payload.length ++ key.toBytes ++ applyMask key payload)

/-! ## 受信 -/

/-- `rawRecv` だけを見せる transport。返した byte 列の長さが C++ の戻り値にあたる。 -/
structure Recv (σ : Type) where
  rawRecv : σ → Nat → Bytes × σ

/-- 要求した数だけ返す transport。 -/
def exact : Recv Bytes where
  rawRecv s len := (s.take len, s.drop len)

/-- 塊の列として届く byte 流。一回の読みは先頭の塊からしか取らない。 -/
def chunked : Recv (List Bytes) where
  rawRecv
    | [], _ => ([], [])
    | c :: cs, len => (c.take len, if len < c.length then c.drop len :: cs else cs)

/-- `readFrame` が payload までを読んだ結果。 -/
inductive Decoded where
  /-- どこかの `rawRecv` が要求どおりの数を返さなかった（`return false`）。 -/
  | recvFailed
  /-- 宣言された長さが `maxMessageSize` を超えた（`MessageTooLarge`）。 -/
  | tooLarge
  /-- 読み切った frame。payload は unmask 済み。 -/
  | frame (fin : Bool) (opcode : UInt8) (payload : Bytes)
  deriving DecidableEq, Repr

variable {σ : Type} (r : Recv σ)

/-- `(lenBytes[0] << 8) | lenBytes[1]`。 -/
def extLen16 (b : Bytes) : Nat := (b.getD 0 0).toNat <<< 8 ||| (b.getD 1 0).toNat

/-- `payloadLen = (payloadLen << 8) | lenBytes[i]` を `uint64_t` で繰り返す。 -/
def extLen64Step (acc : Nat) (x : UInt8) : Nat := (acc <<< 8 ||| x.toNat) % 2 ^ 64

def extLen64 (b : Bytes) : Nat := b.foldl extLen64Step 0

/-- 7 bit の長さが `126` / `127` なら拡張長を読む。`rawRecv(lenBytes, k) != k` で失敗。 -/
def readLength (s : σ) (len7 : Nat) : Option Nat × σ :=
  if len7 = 126 then
    let (b, s) := r.rawRecv s 2
    (if b.length = 2 then some (extLen16 b) else none, s)
  else if len7 = 127 then
    let (b, s) := r.rawRecv s 8
    (if b.length = 8 then some (extLen64 b) else none, s)
  else (some len7, s)

/-- mask bit が立っていれば 4 byte の key を読む。 -/
def readMaskKey (s : σ) (masked : Bool) : Option MaskKey × σ :=
  if masked then
    let (b, s) := r.rawRecv s 4
    (if b.length = 4 then some (MaskKey.ofBytes b) else none, s)
  else (some MaskKey.zero, s)

/-- payload を読むループ。`n <= 0` なら失敗、そうでなければ `totalRead += n`。 -/
def readPayload (s : σ) (remaining : Nat) (acc : Bytes) : Option Bytes × σ :=
  if remaining = 0 then (some acc, s)
  else
    let (got, s) := r.rawRecv s remaining
    if got.length = 0 then (none, s)
    else readPayload s (remaining - got.length) (acc ++ got)
termination_by remaining
decreasing_by omega

/-- `readFrame` の header から unmask まで。振り分けの前で止める。 -/
def decodeFrame (maxMessageSize : Nat) (s : σ) : Decoded × σ :=
  let (header, s) := r.rawRecv s 2
  if header.length ≠ 2 then (.recvFailed, s) else
  let b0 := header.getD 0 0
  let b1 := header.getD 1 0
  let fin := b0 &&& 0x80 != 0
  let opcode := b0 &&& 0x0F
  let masked := b1 &&& 0x80 != 0
  match readLength r s (b1 &&& 0x7F).toNat with
  | (none, s) => (.recvFailed, s)
  | (some payloadLen, s) =>
    if payloadLen > maxMessageSize then (.tooLarge, s) else
    match readMaskKey r s masked with
    | (none, s) => (.recvFailed, s)
    | (some key, s) =>
      match readPayload r s payloadLen [] with
      | (none, s) => (.recvFailed, s)
      | (some p, s) => (.frame fin opcode (if masked then applyMask key p else p), s)

end Gg.Ws
