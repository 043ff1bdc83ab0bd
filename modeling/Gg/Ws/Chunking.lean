import Gg.Ws.Handshake
import Gg.Ws.Dispatch

/-!
# 受信の切れ目への依存

`performHandshake` は応答を `rawRecv(buffer, 1023)` の一度で読み、その後の `readFrame` は
header を `rawRecv(header, 2)` の一度で読む。どちらも短い読みを繰り返さない。繰り返すのは
payload の読みだけである。このため、同じ byte 流でも transport がどこで切るかで結果が変わる。

* 先頭の塊が応答と frame を一緒に運ぶと、handshake がその frame を読み捨てる
  （`performHandshake_chunk`）。
* header の 1 byte 目だけを返す読みで `readFrame` は失敗し、I/O loop は切断へ進む
  （`readFrame_short_read`）。
-/

namespace Gg.Ws

open Session

variable (isJson : Bytes → Bool)

/-- `chunked` な transport での `waitForData`。まだ届いた塊が残っていれば読める。 -/
def chunkedReady (cs : List Bytes) : Bool := !cs.isEmpty

/--
TLS の上の `SSL_read`。状態は SSL の中の読み残しと、socket に届いている record の列。
読み残しがなければ次の record を取り込んで、そこから読む。
-/
def tls : Recv (Bytes × List Bytes) where
  rawRecv s len :=
    match s with
    | ([], []) => ([], ([], []))
    | ([], c :: cs) => (c.take len, (c.drop len, cs))
    | (b :: p, cs) => ((b :: p).take len, ((b :: p).drop len, cs))

/-- TLS での `waitForData`。`poll` は socket を見るので、SSL の中の読み残しは数えない。 -/
def tlsReady (s : Bytes × List Bytes) : Bool := !s.2.isEmpty

variable {σ : Type} (r : Recv σ)

/--
`connect()` の handshake から先。受け入れれば `connected`、`running`、`reconnectAttempts = 0` を
立てて `onConnect` を呼び、I/O thread が `ioLoop` を回す。
-/
def handshakeThenLoop (readable : σ → Bool) (rc : ConnectOutcome) (fuel : Nat) (s : Session)
    (t : σ) : Session × σ :=
  match performHandshake r s true t with
  | ((s, true), t) =>
    ioLoop isJson r readable rc fuel
      ({ s with connected := true, running := true, reconnectAttempts := 0 } : Session).triggerConnect t
  | ((s, false), t) => (s, t)

/-- handshake が受け入れれば、`onConnect` の後に残りの byte 流で I/O loop が回る。 -/
theorem handshakeThenLoop_of_accepts (readable : σ → Bool) (rc : ConnectOutcome) (fuel : Nat)
    (config : WebSocketConfig) {t t' : σ}
    (h : performHandshake r (initial config) true t = ((initial config, true), t')) :
    handshakeThenLoop isJson r readable rc fuel (initial config) t
      = ioLoop isJson r readable rc fuel (opened config) t' := by
  rw [handshakeThenLoop, h]
  rfl

/-! ## 一度きりの読み -/

@[simp] theorem chunked_rawRecv_nil (len : Nat) : chunked.rawRecv [] len = ([], []) := rfl

@[simp] theorem chunked_rawRecv_cons (c : Bytes) (cs : List Bytes) (len : Nat) :
    chunked.rawRecv (c :: cs) len = (c.take len, if len < c.length then c.drop len :: cs else cs) :=
  rfl

/-- 1023 byte までの先頭の塊に `101` と `Upgrade` があれば、handshake はその塊を丸ごと読む。 -/
theorem performHandshake_chunk (s : Session) {c : Bytes} (cs : List Bytes) (hc : c ≠ [])
    (hlen : c.length ≤ 1023) (h101 : findSub (ascii "101") c = true)
    (hup : findSub (ascii "Upgrade") c = true) :
    performHandshake chunked s true (c :: cs) = ((s, true), cs) :=
  performHandshake_accepts chunked s
    (by simp [List.take_of_length_le hlen, Nat.not_lt.mpr hlen]) hc h101 hup

/-- header の読みが 2 byte を返さなければ、`readFrame` は何も振り分けずに `false` を返す。 -/
theorem readFrame_short_read (s : Session) {t t₁ : σ} {header : Bytes}
    (hh : r.rawRecv t 2 = (header, t₁)) (hlen : header.length ≠ 2) :
    readFrame isJson r s t = ((s, false), t₁) := by
  simp [readFrame, decodeFrame, hh, hlen]

theorem short_len7 : ∀ n, n < 126 →
    (n.toUInt8 &&& 0x7F).toNat = n ∧ (n.toUInt8 &&& 0x80 != 0) = false := by
  decide

/--
mask しない短い frame を、header の 2 byte と payload をそれぞれ一度の読みで受け取ったとき、
`readFrame` はその opcode で振り分ける。
-/
theorem readFrame_unmasked_short (s : Session) {t t₁ t₂ : σ} {b0 : UInt8} {p : Bytes}
    (hh : r.rawRecv t 2 = ([b0, p.length.toUInt8], t₁)) (hp : r.rawRecv t₁ p.length = (p, t₂))
    (hpos : 0 < p.length) (hshort : p.length < 126) (hmax : p.length ≤ s.config.maxMessageSize) :
    readFrame isJson r s t = (dispatch isJson s (b0 &&& 0x0F) p, t₂) := by
  obtain ⟨h7, hm⟩ := short_len7 p.length hshort
  have hpay : readPayload r t₁ p.length [] = (some p, t₂) := by
    rw [readPayload, if_neg (by omega)]
    simp only [hp, Nat.sub_self, if_neg (Nat.pos_iff_ne_zero.mp hpos)]
    simp [readPayload]
  simp [readFrame, decodeFrame, hh, h7, hm, readLength, readMaskKey, hpay,
    Nat.not_lt.mpr hmax, show ¬p.length = 126 by omega, show ¬p.length = 127 by omega]

/-! ## 同じ byte 流、違う切り方 -/

/-- server の `101` 応答。空行で終わる。 -/
def upgradeResponse : Bytes :=
  ascii "HTTP/1.1 101 Switching Protocols\r\nUpgrade: websocket\r\nConnection: Upgrade\r\n\r\n"

/-- mask しない `Text` frame。payload は `a`、`b`。 -/
def textA : Bytes := [0x81, 0x01, 0x61]

def textB : Bytes := [0x81, 0x01, 0x62]

/-- 再接続しない設定。 -/
def noReconnect : WebSocketConfig := { autoReconnect := false }

/-- 応答の後に 3 byte までが同じ塊で続いても、handshake は塊ごと受け入れる。 -/
theorem performHandshake_upgradeResponse (tail : Bytes) (cs : List Bytes) (h : tail.length ≤ 3) :
    performHandshake chunked (initial noReconnect) true ((upgradeResponse ++ tail) :: cs)
      = ((initial noReconnect, true), cs) :=
  performHandshake_chunk _ cs (by simp [upgradeResponse, ascii])
    (by simp [upgradeResponse, ascii]; omega)
    (findSub_append_of_left _ tail (by decide)) (findSub_append_of_left _ tail (by decide))

/-- 1 byte 目 `0x81` の frame は `Text` として `onRawMessage` に渡り、loop は続く。 -/
theorem dispatch_textByte (s : Session) (p : Bytes) :
    ∃ s', dispatch isJson s (0x81 &&& 0x0F) p = (s', true) ∧ s'.sendQueue = s.sendQueue ∧
      rawMessages s'.trace = rawMessages s.trace ++ [p] := by
  rw [show (0x81 &&& 0x0F : UInt8) = Opcode.text by decide, dispatch_of_ne_close isJson (by decide)]
  refine ⟨_, rfl, rfl, ?_⟩
  simp only [afterFrame, frameEvents, true_or, if_true, rawMessages_append]
  split <;> simp [rawMessages]

/--
**同じ byte 流が、切れ目によって違う callback の列になる。** byte 流は `101` 応答 `R` と、
mask しない `Text` frame `F1`（payload `a`）、`F2`（payload `b`）からなる。

* `R`、`F1` の 1 byte 目、残り、と切れると、header の読みが 1 byte で終わり、何も渡さずに
  `onDisconnect(1006)` になる。
* `R ++ F1` が一度に届くと handshake が `F1` を読み捨て、loop はいつまでも何も渡さない。
* `R`、`F1` と切れれば `a` が渡る。
* TLS で `R` と `F1 ++ F2` の二つの record として届くと `a` だけが渡り、`F2` は SSL の中に残る。
-/
theorem chunk_boundaries_change_dispatch :
    (∀ n, (handshakeThenLoop isJson chunked chunkedReady .ok (n + 1) (initial noReconnect)
        [upgradeResponse, [0x81], [0x01, 0x61]]).1.trace
          = [.connect, .disconnect CloseCode.abnormalClosure]) ∧
    (∀ n, (handshakeThenLoop isJson chunked chunkedReady .ok n (initial noReconnect)
        [upgradeResponse ++ textA]).1.trace = [.connect]) ∧
    (∀ n, rawMessages (handshakeThenLoop isJson chunked chunkedReady .ok (n + 1)
        (initial noReconnect) [upgradeResponse, textA]).1.trace = [[0x61]]) ∧
    (∀ n, rawMessages (handshakeThenLoop isJson tls tlsReady .ok (n + 1) (initial noReconnect)
        ([], [upgradeResponse, textA ++ textB])).1.trace = [[0x61]] ∧
      (handshakeThenLoop isJson tls tlsReady .ok (n + 1) (initial noReconnect)
        ([], [upgradeResponse, textA ++ textB])).2 = (textB, [])) := by
  obtain ⟨s', hd, hq, hm⟩ := dispatch_textByte isJson (opened noReconnect) [0x61]
  refine ⟨fun n => ?_, fun n => ?_, fun n => ?_, fun n => ?_⟩
  case refine_1 =>
    rw [handshakeThenLoop_of_accepts isJson chunked _ _ _ _
      (List.append_nil upgradeResponse ▸ performHandshake_upgradeResponse [] _ (by decide)), ioLoop]
    simp [readFrame_short_read isJson chunked _ (chunked_rawRecv_cons [0x81] _ 2) (by decide),
      drainSendQueue_of_nil, chunkedReady, opened, emit, handleDisconnect, noReconnect, giveUp,
      triggerDisconnect]
  case refine_2 =>
    rw [handshakeThenLoop_of_accepts isJson chunked _ _ _ _
      (performHandshake_upgradeResponse textA [] (by decide)),
      ioLoop_idle isJson chunked chunkedReady .ok rfl (show chunkedReady [] = false from rfl)]
    rfl
  case refine_3 =>
    have hh : chunked.rawRecv [textA] 2 = ([0x81, ([0x61] : Bytes).length.toUInt8], [[0x61]]) := rfl
    have hp : chunked.rawRecv [[0x61]] ([0x61] : Bytes).length = ([0x61], []) := rfl
    have hread := readFrame_unmasked_short isJson chunked (opened noReconnect) hh hp
      (by decide) (by decide) (by decide)
    rw [hd] at hread
    rw [handshakeThenLoop_of_accepts isJson chunked _ _ _ _
      (List.append_nil upgradeResponse ▸ performHandshake_upgradeResponse [] _ (by decide)),
      ioLoop_last_frame isJson chunked chunkedReady .ok rfl rfl rfl (by rfl) hread (hq.trans rfl)
        (by rfl)]
    exact hm
  case refine_4 =>
    have hs : tls.rawRecv ([], [upgradeResponse, textA ++ textB]) 1023
        = (upgradeResponse, ([], [textA ++ textB])) := by decide
    have hh : tls.rawRecv ([], [textA ++ textB]) 2
        = ([0x81, ([0x61] : Bytes).length.toUInt8], ([0x61] ++ textB, [])) := rfl
    have hp : tls.rawRecv ([0x61] ++ textB, []) ([0x61] : Bytes).length = ([0x61], (textB, [])) :=
      rfl
    have hread := readFrame_unmasked_short isJson tls (opened noReconnect) hh hp
      (by decide) (by decide) (by decide)
    rw [hd] at hread
    rw [handshakeThenLoop_of_accepts isJson tls _ _ _ _
      (performHandshake_accepts tls _ hs (by decide) (by decide) (by decide)),
      ioLoop_last_frame isJson tls tlsReady .ok rfl rfl rfl (by rfl) hread (hq.trans rfl) (by rfl)]
    exact ⟨hm, rfl⟩

end Gg.Ws
