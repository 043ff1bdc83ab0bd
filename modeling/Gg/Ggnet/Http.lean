import Gg.Ws.Url

/-!
# ggnet の `HttpClient`：URL、request、応答の区切り

`ggnet::parseUrl`（`part_007` 16–52 行）、`HttpClient::request` が組み立てる request と、
`onRead` が応答を区切るところ（`part_009` 101–272 行）。TLS の枝（`GGNET_ENABLE_SSL`）は置かない。

## 仕組み

`onRead` は `recv` が返した byte 列を `response_buffer` に足す。`\r\n\r\n` が見つかると
`header_end_pos` に覚え、以後は探さない。そこから先は読みのたびに、buffer の先頭から
`Content-Length: ` を探し、続く `\r\n` までを `std::stoul` で読む。buffer が
`header_end_pos + 4 + content_len` byte に届いたら、その長さの body と状態行の 3 桁で callback を
呼び、`ctx` を消す。`recv` が 0 を返せば（相手が閉じた）、buffer 全体を body にして callback を呼ぶ。

* `Content-Length: ` は header の中に限らず buffer 全体で探す（`contentLength`）。
* 見つかった位置も読んだ値も、buffer の後ろに byte を足しても変わらない（`find_append`、
  `contentLength_append`）。だから、読みの分け方によらず、callback に渡る応答は届いた byte 列だけで
  決まる（`runRead_response`）。
* ただし `header_end_pos + 4 + content_len` は `size_t` で計算する。`Content-Length: -1` のように
  `std::stoul` が `2 ^ 64` に近い値を返すと和が回り、その読みで届いていた分だけが body になる。
  `runRead_response` はこの和が回らないことを仮定に置く。
-/

namespace Gg.Ggnet

open Gg.Ws

/-! ## `std::string` の操作 -/

/-- `hay.find(needle, i)` の走査。`hay` は元の文字列の `i` から後ろ。 -/
def findAux (needle : Bytes) : Bytes → Nat → Option Nat
  | [], i => if needle = [] then some i else none
  | b :: bs, i => if needle.isPrefixOf (b :: bs) then some i else findAux needle bs (i + 1)

/-- `hay.find(needle, pos)`。`npos` は `none`。 -/
def find (hay needle : Bytes) (pos : Nat) : Option Nat :=
  if pos ≤ hay.length then findAux needle (hay.drop pos) pos else none

/-- `s.substr(pos, count)`。呼ぶところではいつも `pos ≤ s.size()`。 -/
def substr (s : Bytes) (pos count : Nat) : Bytes := (s.drop pos).take count

/-- `std::string` の byte を `char` として読む。 -/
def chars (s : Bytes) : List Char := s.map fun b => Char.ofNat b.toNat

/--
`std::stoul`（`unsigned long` は 64 bit）。`strtoul` と同じく先頭の空白と符号を読み、続く数字を
読む。数字がなければ `invalid_argument`、数字の値が `2 ^ 64` 以上なら `out_of_range`。`-` が
付けば `unsigned long` の上で符号を反転する。
-/
def stoul (str : List Char) : Except StoiError Nat :=
  let (neg, s) := readSign (str.dropWhile isCSpace)
  let ds := s.takeWhile Char.isDigit
  if ds = [] then .error .invalidArgument
  else if 2 ^ 64 ≤ decimalValue ds then .error .outOfRange
  else .ok (if neg then (2 ^ 64 - decimalValue ds) % 2 ^ 64 else decimalValue ds)

/-! ### `find` は後ろに足しても変わらない -/

theorem findAux_le : ∀ {needle hay : Bytes} {i k : Nat}, findAux needle hay i = some k →
    k + needle.length ≤ i + hay.length
  | needle, [], i, k, h => by
    rw [findAux] at h
    split at h
    · rename_i hn; cases h; simp [hn]
    · cases h
  | needle, b :: bs, i, k, h => by
    rw [findAux] at h
    split at h
    · rename_i hp; cases h
      have := (List.isPrefixOf_iff_prefix.1 hp).length_le
      simp only [List.length_cons] at this ⊢; omega
    · have := findAux_le h; simp only [List.length_cons]; omega

theorem findAux_ge : ∀ {needle hay : Bytes} {i k : Nat}, findAux needle hay i = some k → i ≤ k
  | needle, [], i, k, h => by
    rw [findAux] at h
    split at h
    · cases h; exact Nat.le_refl _
    · cases h
  | needle, b :: bs, i, k, h => by
    rw [findAux] at h
    split at h
    · cases h; exact Nat.le_refl _
    · exact Nat.le_of_succ_le (findAux_ge h)

theorem findAux_append : ∀ {needle a : Bytes} {i k : Nat} (b : Bytes), findAux needle a i = some k →
    findAux needle (a ++ b) i = some k
  | needle, [], i, k, b, h => by
    rw [findAux] at h
    split at h
    · rename_i hn; cases h; subst hn; cases b <;> simp [findAux]
    · cases h
  | needle, x :: xs, i, k, b, h => by
    rw [List.cons_append, findAux]
    rw [findAux] at h
    split at h
    · rename_i hp; cases h
      have hp' : List.isPrefixOf needle (x :: (xs ++ b)) = true := List.isPrefixOf_iff_prefix.2
        ((List.isPrefixOf_iff_prefix.1 hp).trans (List.prefix_append (x :: xs) b))
      rw [if_pos hp']
    · rename_i hp
      have hle := findAux_le h
      have hge := findAux_ge h
      rw [if_neg, findAux_append b h]
      intro hp'
      refine hp (List.isPrefixOf_iff_prefix.2 ?_)
      have hp'' := List.isPrefixOf_iff_prefix.1 hp'
      rw [List.prefix_iff_eq_take] at hp'' ⊢
      exact hp''.trans (by
        rw [← List.cons_append, List.take_append_of_le_length (by simp only [List.length_cons]; omega)])

/-- 前半で見つかれば、後ろに何を足しても同じ位置で見つかる。 -/
theorem find_append {hay needle : Bytes} {pos k : Nat} (b : Bytes) (h : find hay needle pos = some k) :
    find (hay ++ b) needle pos = some k := by
  unfold find at h ⊢
  split at h
  · rename_i hp
    rw [if_pos (by simp; omega), List.drop_append_of_le_length hp, findAux_append b h]
  · cases h

/-- `pos` から探せば、見つかる位置は `pos` 以降。 -/
theorem find_ge {hay needle : Bytes} {pos k : Nat} (h : find hay needle pos = some k) : pos ≤ k := by
  unfold find at h
  split at h
  · exact findAux_ge h
  · cases h

/-- 見つかった `needle` は `hay` の中に収まる。 -/
theorem find_le {hay needle : Bytes} {pos k : Nat} (h : find hay needle pos = some k) :
    k + needle.length ≤ hay.length := by
  unfold find at h
  split at h
  · have := findAux_le h; simp only [List.length_drop] at this; omega
  · cases h

/-! ## URL -/

/-- `ggnet::Url`。 -/
structure Url where
  protocol : Bytes
  host : Bytes
  port : Int
  path : Bytes
  deriving DecidableEq, Repr

/-- `parseUrl`。scheme がなければ `http`、port は scheme の既定、path は最初の `/` から。host の
最初の `:` の後ろを `std::stoi` で読み、その例外は呼び出し側へ出る。 -/
def parseUrl (urlStr : Bytes) : Except StoiError Url := do
  let (protocol, u) := match find urlStr (ascii "://") 0 with
    | some p => (substr urlStr 0 p, urlStr.drop (p + 3))
    | none => (ascii "http", urlStr)
  let defaultPort : Int :=
    if protocol = ascii "http" ∨ protocol = ascii "ws" then 80
    else if protocol = ascii "https" ∨ protocol = ascii "wss" then 443
    else 80
  let (path, u) := match find u (ascii "/") 0 with
    | some p => (u.drop p, substr u 0 p)
    | none => (ascii "/", u)
  match find u (ascii ":") 0 with
  | some p => return ⟨protocol, substr u 0 p, ← stoi (chars (u.drop (p + 1))), path⟩
  | none => return ⟨protocol, u, defaultPort, path⟩

/-! ## 応答を区切る -/

/-- `HttpResponse`。`headers` はどこも書かないので置かない。 -/
structure HttpResponse where
  statusCode : Int := 0
  body : Bytes := []
  deriving DecidableEq, Repr

/-- 状態行の 3 桁。最初の行が 9 byte より長ければ `std::stoi(line.substr(9, 3))`、例外なら 0 のまま。 -/
def statusCode (headersPart : Bytes) : Int :=
  match find headersPart (ascii "\r\n") 0 with
  | some firstLineEnd =>
    let line := substr headersPart 0 firstLineEnd
    if line.length > 9 then
      match stoi (chars (substr line 9 3)) with
      | .ok v => v
      | .error _ => 0
    else 0
  | none => 0

/-- 完成した応答。`header_end_pos` が `h`、`content_len` が `n`。 -/
def completeResponse (buf : Bytes) (h n : Nat) : HttpResponse :=
  { statusCode := statusCode (substr buf 0 h), body := substr buf (h + 4) n }

/-- `onRead` が `response_buffer` 全体から読む `content_len`。`Content-Length: ` の後ろに `\r\n` が
まだなければ、`std::stoul` が例外を投げれば（`catch(...) {}`）、`none`。 -/
def contentLength (buf : Bytes) : Option Nat :=
  match find buf (ascii "Content-Length: ") 0 with
  | none => none
  | some clPos =>
    match find buf (ascii "\r\n") (clPos + 16) with
    | none => none
    | some valEnd =>
      match stoul (chars (substr buf (clPos + 16) (valEnd - (clPos + 16)))) with
      | .ok contentLen => some contentLen
      | .error _ => none

/-- `header_end_pos` が見つかった後の判定。和は `size_t` の上で計算する。 -/
def checkComplete (buf : Bytes) (h : Nat) : Option HttpResponse :=
  match contentLength buf with
  | some n => if (h + 4 + n) % 2 ^ 64 ≤ buf.length then some (completeResponse buf h n) else none
  | none => none

/-- `RequestContext` のうち `onRead` が読み書きするもの。 -/
structure ReadState where
  responseBuffer : Bytes := []
  /-- `header_end_pos`。`npos` は `none`。 -/
  headerEndPos : Option Nat := none
  deriving DecidableEq, Repr

/-- 一度の `recv(fd, buf, sizeof(buf), 0)` が `char buf[8192]` に読んだ byte 列。`sizeof(buf)` より多くは
読まない。 -/
structure Chunk where
  bytes : Bytes
  le : bytes.length ≤ 8192
  deriving DecidableEq, Repr

/-- 届いている byte 列を、先頭から 8192 byte ずつ `recv` で読み切ったときの読みの列。 -/
def Chunk.split (b : Bytes) : List Chunk :=
  if h : b = [] then [] else ⟨b.take 8192, by rw [List.length_take]; exact Nat.min_le_left _ _⟩ :: Chunk.split (b.drop 8192)
termination_by b.length
decreasing_by
  have := List.length_pos.2 h
  rw [List.length_drop]
  omega

/-- 読み切った読みの列をつなぐと、届いていた byte 列に戻る。 -/
theorem Chunk.split_bytes (b : Bytes) : ((Chunk.split b).map Chunk.bytes).flatten = b := by
  induction b using Chunk.split.induct with
  | case1 => rw [Chunk.split, dif_pos rfl]; rfl
  | case2 b h ih => rw [Chunk.split, dif_neg h, List.map_cons, List.flatten_cons, ih, List.take_append_drop]

/-- `recv` の結果。 -/
inductive RecvResult where
  /-- 正の byte 数を返した。 -/
  | data (chunk : Chunk)
  /-- 0 を返した。相手が閉じた。 -/
  | closed
  /-- -1 を返した。`again` は `errno` が `EAGAIN` か `EWOULDBLOCK`。 -/
  | failed (again : Bool)
  deriving DecidableEq, Repr

/-- `onRead` の後の `ctx`。 -/
inductive ReadOutcome where
  /-- `return` して次の読みを待つ。 -/
  | wait (st : ReadState)
  /-- `callback(resp)` を呼んで `delete ctx`。`invalidate` なら先に `conn->sock.fd = -1`。 -/
  | done (resp : HttpResponse) (invalidate : Bool)
  /-- `conn->sock.fd = -1` として、callback を呼ばずに `delete ctx`。 -/
  | dropped
  deriving DecidableEq, Repr

/-- callback に渡った応答。 -/
def ReadOutcome.response : ReadOutcome → Option HttpResponse
  | .done resp _ => some resp
  | _ => none

/-- `onRead`（TLS でない枝）。 -/
def onRead (st : ReadState) : RecvResult → ReadOutcome
  | .data chunk =>
    let buf := st.responseBuffer ++ chunk.bytes
    let headerEnd := match st.headerEndPos with
      | none => find buf (ascii "\r\n\r\n") 0
      | some h => some h
    match headerEnd with
    | none => .wait ⟨buf, none⟩
    | some h =>
      match checkComplete buf h with
      | some resp => .done resp false
      | none => .wait ⟨buf, some h⟩
  | .closed => .done { body := st.responseBuffer } true
  | .failed again => if again then .wait st else .dropped

/-- 一つの `ctx` に届く `onRead` の列。`ctx` が消えたら後ろは読まない。 -/
def runRead (st : ReadState) : List RecvResult → ReadOutcome
  | [] => .wait st
  | r :: rs =>
    match onRead st r with
    | .wait st' => runRead st' rs
    | out => out

/-- 届いた byte 列 `s` を一度に読んだときの応答。 -/
def responseOf (s : Bytes) : Option HttpResponse :=
  match find s (ascii "\r\n\r\n") 0 with
  | some h => checkComplete s h
  | none => none

/-! ### 後ろに byte を足しても読みは変わらない -/

theorem substr_append {a : Bytes} {pos count : Nat} (b : Bytes) (h : pos + count ≤ a.length) :
    substr (a ++ b) pos count = substr a pos count := by
  unfold substr
  rw [List.drop_append_of_le_length (by omega), List.take_append_of_le_length (by simp; omega)]

theorem contentLength_append {a : Bytes} {n : Nat} (b : Bytes) (h : contentLength a = some n) :
    contentLength (a ++ b) = some n := by
  unfold contentLength at h ⊢
  split at h
  · cases h
  · rename_i clPos hcl
    split at h
    · cases h
    · rename_i valEnd hve
      have hle := find_le hve
      have hge := find_ge hve
      rw [find_append b hcl]
      dsimp only
      rw [find_append b hve]
      dsimp only
      rw [substr_append b (by simp [ascii] at hle; omega)]
      exact h

theorem completeResponse_append {a : Bytes} {h n : Nat} (b : Bytes) (hle : h + 4 + n ≤ a.length) :
    completeResponse (a ++ b) h n = completeResponse a h n := by
  unfold completeResponse
  rw [substr_append b (by omega), substr_append b (by omega)]

/-- 一度に読んで決まった応答は、後ろに何が届いても同じ。 -/
theorem checkComplete_append {a : Bytes} {h : Nat} {r : HttpResponse} (b : Bytes)
    (hwrap : ∀ n, contentLength (a ++ b) = some n → h + 4 + n < 2 ^ 64)
    (hc : checkComplete a h = some r) : checkComplete (a ++ b) h = some r := by
  unfold checkComplete at hc ⊢
  split at hc
  · rename_i n hn
    have hn' := contentLength_append b hn
    have hw := hwrap n hn'
    rw [Nat.mod_eq_of_lt hw] at hc
    split at hc
    · rename_i hle
      cases hc
      rw [hn']
      dsimp only
      rw [Nat.mod_eq_of_lt hw, if_pos (by simp; omega), completeResponse_append b hle]
    · cases hc
  · cases hc

/-- `header_end_pos + 4 + content_len` が `size_t` で回らない。 -/
def NoWrap (s : Bytes) : Prop :=
  ∀ h n, find s (ascii "\r\n\r\n") 0 = some h → contentLength s = some n → h + 4 + n < 2 ^ 64

/-- 応答がちょうど `s` で終わる。`header_end_pos + 4 + content_len` が `s` の長さ。 -/
def Exact (s : Bytes) : Prop :=
  ∃ h n, find s (ascii "\r\n\r\n") 0 = some h ∧ contentLength s = some n ∧ h + 4 + n = s.length ∧
    s.length < 2 ^ 64

theorem Exact.noWrap {s : Bytes} (he : Exact s) : NoWrap s := by
  obtain ⟨h, n, hh, hn, hl, hs⟩ := he
  intro h' n' hh' hn'
  rw [hh] at hh'; rw [hn] at hn'
  cases hh'; cases hn'
  omega

/-- 応答の決まる buffer に足しても、回らなければ応答は変わらない。 -/
theorem responseOf_append {a : Bytes} {x : HttpResponse} (b : Bytes) (hw : NoWrap (a ++ b))
    (hx : responseOf a = some x) : responseOf (a ++ b) = some x := by
  unfold responseOf at hx ⊢
  split at hx
  · rename_i h hf
    rw [find_append _ hf]
    exact checkComplete_append _ (hw h · (find_append _ hf)) hx
  · cases hx

/-- 応答の決まる buffer では、後ろに足しても `header_end_pos` と `content_len` は変わらないので、
回らないことも変わらない。 -/
theorem NoWrap.append {a : Bytes} {x : HttpResponse} (b : Bytes) (hw : NoWrap a)
    (hx : responseOf a = some x) : NoWrap (a ++ b) := by
  unfold responseOf at hx
  split at hx
  · rename_i h hf
    unfold checkComplete at hx
    split at hx
    · rename_i n hn
      intro h' n' hh' hn'
      rw [find_append _ hf] at hh'; rw [contentLength_append _ hn] at hn'
      cases hh'; cases hn'
      exact hw h n hf hn
    · cases hx
  · cases hx

/-- `onRead` の途中の `ctx` の不変条件。`header_end_pos` は buffer の中の最初の `\r\n\r\n` で、
buffer はまだ応答をなさない。 -/
def ReadInv (st : ReadState) : Prop :=
  st.headerEndPos = find st.responseBuffer (ascii "\r\n\r\n") 0 ∧ responseOf st.responseBuffer = none

theorem readInv_init : ReadInv {} := ⟨rfl, rfl⟩

/-- 不変条件の下での一度の読み。`header_end_pos` の覚え方は、毎回探すのと同じ。 -/
theorem onRead_data {st : ReadState} (hi : ReadInv st) (chunk : Chunk) :
    onRead st (.data chunk) =
      match responseOf (st.responseBuffer ++ chunk.bytes) with
      | some resp => .done resp false
      | none => .wait ⟨st.responseBuffer ++ chunk.bytes,
          find (st.responseBuffer ++ chunk.bytes) (ascii "\r\n\r\n") 0⟩ := by
  have hh : (match st.headerEndPos with
      | none => find (st.responseBuffer ++ chunk.bytes) (ascii "\r\n\r\n") 0
      | some h => some h) = find (st.responseBuffer ++ chunk.bytes) (ascii "\r\n\r\n") 0 := by
    rw [hi.1]
    split
    · rfl
    · rename_i h hf; exact (find_append chunk.bytes hf).symm
  simp only [onRead, hh, responseOf]
  cases find (st.responseBuffer ++ chunk.bytes) (ascii "\r\n\r\n") 0 with
  | none => rfl
  | some h => cases checkComplete (st.responseBuffer ++ chunk.bytes) h <;> rfl

/-- 不変条件を満たす `ctx` に byte 列が届くと、callback に渡る応答は、届いた分を足した buffer を
一度に読んだときと同じ。 -/
theorem runRead_data : ∀ (cs : List Chunk) (st : ReadState), ReadInv st →
    NoWrap (st.responseBuffer ++ (cs.map Chunk.bytes).flatten) →
    (runRead st (cs.map .data)).response = responseOf (st.responseBuffer ++ (cs.map Chunk.bytes).flatten)
  | [], st, hi, _ => by simpa [runRead, ReadOutcome.response] using hi.2.symm
  | c :: cs, st, hi, hw => by
    rw [List.map_cons, runRead, onRead_data hi, List.map_cons, List.flatten_cons, ← List.append_assoc]
    rw [List.map_cons, List.flatten_cons, ← List.append_assoc] at hw
    cases hr : responseOf (st.responseBuffer ++ c.bytes) with
    | some r => exact (responseOf_append _ hw hr).symm
    | none => exact runRead_data cs _ ⟨rfl, hr⟩ hw

/-- **読みの分け方によらず、callback に渡る応答は届いた byte 列だけで決まる。** 新しい `ctx` に
届いた byte 列を、8192 byte までの `recv` がどう分けて返しても、callback が呼ばれるのは一度に読めば
応答が決まる場合で、そのときに限り、渡る応答は一度に読んだときと同じ。読みの列は届いた byte 列を
すべて運ぶとする（EPOLLET の一度の事象で `recv` は一度しか呼ばれないので、読み残しが次の事象まで
待つことはこの前提の外にある）。また、届いた byte 列の `header_end_pos + 4 + content_len` が
`2 ^ 64` 未満であること。 -/
theorem runRead_response (chunks : List Chunk) (hw : NoWrap (chunks.map Chunk.bytes).flatten) :
    (runRead {} (chunks.map .data)).response = responseOf (chunks.map Chunk.bytes).flatten :=
  runRead_data chunks {} readInv_init hw

/-- 状態行と header の途中、body の途中で分けて届いても、応答は一度に読んだときと同じ。 -/
theorem runRead_response_split :
    (runRead {} ([⟨ascii "HTTP/1.1 200 OK\r\nContent-Le", by decide⟩, ⟨ascii "ngth: 2\r\n\r\nh", by decide⟩,
      ⟨ascii "i", by decide⟩].map .data)).response = some ⟨200, ascii "hi"⟩ := by
  rw [runRead_response _ fun h n hh hn => ?_]
  · decide
  · have e1 : h = 34 := Option.some.inj (hh.symm.trans (by decide))
    have e2 : n = 2 := Option.some.inj (hn.symm.trans (by decide))
    omega

end Gg.Ggnet
