import Mathlib.Data.List.Basic
import Mathlib.Algebra.Group.Nat.Basic
import Mathlib.Algebra.Group.Int

/-!
# gg-ws の型と定数

`gg_ws/types.hpp` のうち、model に入れた関数が読むものだけを置く。

* `Opcode` / `ErrorCode` / `CloseCode` は C++ の `constexpr` 定数。
* `PingConfig` / `WebSocketConfig` は既定値ごと写す。`connectTimeout` はどの関数も読まないので
  置かない（`MODEL_MAP.json`）。
-/

namespace Gg.Ws

/-- byte 列。`std::string_view` の payload も `uint8_t` として読む。 -/
abbrev Bytes := List UInt8

/-- ASCII の文字列を byte 列にする。 -/
def ascii (s : String) : Bytes := s.toList.map fun c => c.toNat.toUInt8

theorem toNat_toUInt8 (n : Nat) : n.toUInt8.toNat = n % 256 := by
  simp [Nat.toUInt8, UInt8.ofNat, UInt8.toNat, BitVec.toNat_ofNat]

theorem toUInt8_toNat (b : UInt8) : b.toNat.toUInt8 = b := by
  cases b with
  | mk v => simp [Nat.toUInt8, UInt8.ofNat, UInt8.toNat]

/-! ## 定数 -/

namespace Opcode
def continuation : UInt8 := 0x0
def text : UInt8 := 0x1
def binary : UInt8 := 0x2
def close : UInt8 := 0x8
def ping : UInt8 := 0x9
def pong : UInt8 := 0xA
end Opcode

namespace ErrorCode
def connectionFailed : Int := 1001
def handshakeFailed : Int := 1002
def invalidUrl : Int := 1004
def tlsError : Int := 1005
def messageTooLarge : Int := 1008
def invalidFrame : Int := 1009
def pingTimeout : Int := 1010
end ErrorCode

namespace CloseCode
def normal : Int := 1000
def goingAway : Int := 1001
def protocolError : Int := 1002
def noStatusReceived : Int := 1005
def abnormalClosure : Int := 1006
def messageTooBig : Int := 1009
end CloseCode

/-! ## 設定 -/

/-- `PingMode`。 -/
inductive PingMode where
  | disabled
  | opcode
  | textMessage
  deriving DecidableEq, Repr

/-- `PingConfig`。時間は millisecond。 -/
structure PingConfig where
  mode : PingMode := .opcode
  interval : Nat := 30000
  timeout : Nat := 10000
  textMessage : Bytes := "ping".toUTF8.toList
  autoPong : Bool := true
  deriving DecidableEq, Repr

/-- `WebSocketConfig`。`maxMessageSize` は `size_t`、`maxReconnectAttempts` は `int`。 -/
structure WebSocketConfig where
  maxMessageSize : Nat := 16 * 1024 * 1024
  autoReconnect : Bool := true
  maxReconnectAttempts : Int := 5
  ping : PingConfig := {}
  deriving DecidableEq, Repr

end Gg.Ws
