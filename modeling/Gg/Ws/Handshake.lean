import Gg.Ws.Session

/-!
# HTTP Upgrade の handshake

`ParsedUrl`、`performHandshake` が組み立てる request、応答の読みと検査（`part_004` 153–160 行、
505–546 行）。

応答は `rawRecv(buffer, 1023)` の一度だけで読む。その一回が返した byte 列の中に `101` と
`Upgrade` が部分列として現れれば受け入れる。行や header の構造は見ない。
-/

namespace Gg.Ws

/-- `ParsedUrl`。`port` は `uint16_t`。 -/
structure ParsedUrl where
  secure : Bool := false
  host : String := ""
  port : Nat := 0
  path : String := ""
  deriving DecidableEq, Repr

/-- `ParsedUrl::valid`。 -/
def ParsedUrl.valid (u : ParsedUrl) : Bool := !u.host.isEmpty && u.port > 0

/-- `performHandshake` の request。既定でない port のときだけ `Host` に `:port` を付ける。 -/
def handshakeRequest (u : ParsedUrl) (key : String) : String :=
  "GET " ++ u.path ++ " HTTP/1.1\r\n" ++
  "Host: " ++ u.host ++
    (if (u.secure && u.port != 443) || (!u.secure && u.port != 80) then ":" ++ toString u.port
     else "") ++ "\r\n" ++
  "Upgrade: websocket\r\n" ++
  "Connection: Upgrade\r\n" ++
  "Sec-WebSocket-Key: " ++ key ++ "\r\n" ++
  "Sec-WebSocket-Version: 13\r\n" ++
  "\r\n"

/-- `haystack.find(needle) != std::string::npos`。 -/
def findSub (needle : Bytes) : Bytes → Bool
  | [] => needle.isEmpty
  | b :: bs => needle.isPrefixOf (b :: bs) || findSub needle bs

/-- 前半に見つかれば、後ろに何を足しても見つかる。 -/
theorem findSub_append_of_left (needle : Bytes) {a : Bytes} (b : Bytes)
    (h : findSub needle a = true) : findSub needle (a ++ b) = true := by
  induction a with
  | nil => cases needle <;> cases b <;> simp_all [findSub]
  | cons x a ih =>
    rw [findSub, Bool.or_eq_true] at h
    rw [List.cons_append, findSub, Bool.or_eq_true, ← List.cons_append]
    exact h.imp (fun hp => List.isPrefixOf_iff_prefix.mpr
      ((List.isPrefixOf_iff_prefix.mp hp).trans (List.prefix_append _ _))) ih

namespace Session

variable {σ : Type} (r : Recv σ)

/--
`performHandshake`。request の `rawSend` の成否は `sent` で与える。応答は一度だけ、
1023 byte まで読む。
-/
def performHandshake (s : Session) (sent : Bool) (t : σ) : (Session × Bool) × σ :=
  if !sent then ((s.triggerError ErrorCode.handshakeFailed "Falha ao enviar handshake", false), t)
  else
    let (response, t) := r.rawRecv t 1023
    if response.length = 0 then
      ((s.triggerError ErrorCode.handshakeFailed "Sem resposta do servidor", false), t)
    else if !findSub (ascii "101") response || !findSub (ascii "Upgrade") response then
      ((s.triggerError ErrorCode.handshakeFailed "Handshake rejeitado pelo servidor", false), t)
    else ((s, true), t)

/-- 一度の読みが空でなく、`101` と `Upgrade` を含めば受け入れる。その読みの残りから I/O loop が始まる。 -/
theorem performHandshake_accepts (s : Session) {t t' : σ} {c : Bytes}
    (hr : r.rawRecv t 1023 = (c, t')) (hc : c ≠ []) (h101 : findSub (ascii "101") c = true)
    (hup : findSub (ascii "Upgrade") c = true) :
    performHandshake r s true t = ((s, true), t') := by
  simp [performHandshake, hr, hc, h101, hup]

end Session

/-! ## 応答の受け入れ

`performHandshake` の検査と、RFC 9112 の読み方で「status code 101 の status line で始まり、
header 部に `Upgrade` field がある」応答とを比べる。`upgradeResponseOk` はその読み方を書いたもので、
source から訳したものではない。
-/

namespace Session

variable {σ : Type} (r : Recv σ)

/-- 受け入れるのは、一度の読みが空でなく、`101` と `Upgrade` を部分列として含むときに限る。 -/
theorem performHandshake_true_iff (s : Session) {t t' : σ} {R : Bytes}
    (hr : r.rawRecv t 1023 = (R, t')) :
    (performHandshake r s true t).1.2 = true ↔
      R ≠ [] ∧ findSub (ascii "101") R = true ∧ findSub (ascii "Upgrade") R = true := by
  by_cases hR : R = []
  · simp [performHandshake, hr, hR]
  · by_cases h1 : findSub (ascii "101") R = true <;> by_cases h2 : findSub (ascii "Upgrade") R = true <;>
      simp_all [performHandshake]

end Session

/-- CRLF で切った行。最後の CRLF の後の残りも一行である。 -/
def crlfLines : Bytes → List Bytes
  | [] => [[]]
  | [b] => [[b]]
  | b :: c :: rest =>
    if b = 13 ∧ c = 10 then [] :: crlfLines rest
    else
      match crlfLines (c :: rest) with
      | [] => [[b]]
      | l :: ls => (b :: l) :: ls

def isDigitByte (b : UInt8) : Bool := 48 ≤ b && b ≤ 57

/-- RFC 9112 §4 の status-line `HTTP/x.y SP 3DIGIT SP reason` で、status code が `101`。 -/
def isStatusLine101 (line : Bytes) : Bool :=
  line.take 5 == ascii "HTTP/" && isDigitByte (line.getD 5 0) && line.getD 6 0 == 46 &&
    isDigitByte (line.getD 7 0) && line.getD 8 0 == 32 && (line.drop 9).take 3 == ascii "101" &&
    line.getD 12 0 == 32

/-- ASCII の大文字を小文字にする。 -/
def lowerAscii (b : UInt8) : UInt8 := if 65 ≤ b ∧ b ≤ 90 then b + 32 else b

/-- field 名が `Upgrade` の header 行。名前は大文字と小文字を区別しない。 -/
def isUpgradeField (line : Bytes) : Bool := (line.take 8).map lowerAscii == ascii "upgrade:"

/-- status code 101 の status line で始まり、最初の空行までの header 部に `Upgrade` field がある。 -/
def upgradeResponseOk (R : Bytes) : Bool :=
  match crlfLines R with
  | [] => false
  | first :: rest => isStatusLine101 first && (rest.takeWhile (!·.isEmpty)).any isUpgradeField

/-- 403 の応答。header の値に `101` が、本文に `Upgrade` がある。 -/
def forbiddenResponse : Bytes := ascii "HTTP/1.1 403 Forbidden\r\nX-Id: 101\r\n\r\nUpgrade required"

/-- field 名を小文字で書いた 101 応答。 -/
def lowercaseUpgradeResponse : Bytes :=
  ascii "HTTP/1.1 101 Switching Protocols\r\nupgrade: websocket\r\nconnection: upgrade\r\n\r\n"

/--
**受け入れは部分列の検査で、応答の構造を見ない。** 一度の読みが返した `R` を受け入れるのは、
`R` が空でなく `101` と `Upgrade` を部分列として含むときに限る。だから header の値に `101` があり
本文に `Upgrade` がある 403 の応答を受け入れ、field 名を `upgrade:` と書いた 101 応答を拒む。
-/
theorem handshake_accepts_substrings :
    (∀ {σ : Type} (r : Recv σ) (s : Session) {t t' : σ} {R : Bytes}, r.rawRecv t 1023 = (R, t') →
      ((Session.performHandshake r s true t).1.2 = true ↔
        R ≠ [] ∧ findSub (ascii "101") R = true ∧ findSub (ascii "Upgrade") R = true)) ∧
    (∀ s : Session, (Session.performHandshake exact s true forbiddenResponse).1.2 = true) ∧
      upgradeResponseOk forbiddenResponse = false ∧
    (∀ s : Session, (Session.performHandshake exact s true lowercaseUpgradeResponse).1.2 = false) ∧
      upgradeResponseOk lowercaseUpgradeResponse = true := by
  refine ⟨fun r s _ _ _ hr => Session.performHandshake_true_iff r s hr, fun s => ?_, by decide,
    fun s => ?_, by decide⟩
  · exact (Session.performHandshake_true_iff exact s rfl).mpr ⟨by decide, by decide, by decide⟩
  · rw [← Bool.not_eq_true, Session.performHandshake_true_iff exact s rfl]
    decide

end Gg.Ws
