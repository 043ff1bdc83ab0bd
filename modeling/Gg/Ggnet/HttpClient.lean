import Gg.Ggnet.Http

/-!
# ggnet の `HttpClient`：接続の使い回しと `onRead` の登録

`HttpClient::request`（`part_009` 101–307 行）と、それが呼ぶ `EpollLoop::addFd`、`run` の
handler の呼び出し（`part_008` 88–146 行）を合わせた、一つの loop thread の上の client。

## 仕組み

`request` は、`cached_conn` が同じ host と port で `sock.fd >= 0` なら使い回し、そうでなければ
新しく接続して `cached_conn` にする。`new RequestContext()` を作り、`loop.addFd(fd, …, onRead,
onWrite)` で fd の handler を登録する。`addFd` は `handlers[fd] = {onRead, onWrite}` なので、
同じ fd の前の handler は上書きされる。`onRead` は応答がそろうと callback を呼んで `delete ctx`
するが、handler は外さない。

* 応答を一つずつ待つ使い方で、相手が応答をちょうどの長さで返せば、どの request にも自分の応答が
  順に届く（`sequential_requests`）。
* 応答を待たずに同じ相手へ二つ目の request を出すと、一つ目の callback は呼ばれず、二つ目の
  callback が一つ目の応答を受け取る。その後に相手が接続を閉じれば、loop は消えた `ctx` の
  `onRead` を呼ぶ（`overlapping_requests_crossed`）。

`onWrite` の送信は読みに効かないので置かない。`connect` の失敗（例外）も置かない。
-/

namespace Gg.Ggnet

open Gg.Ws (Bytes ascii)

/-- `HttpClient::Connection` のうち `request` と `onRead` が読み書きするもの。 -/
structure Connection where
  host : Bytes
  port : Int
  /-- `sock.fd`。 -/
  fd : Int
  deriving DecidableEq, Repr

instance : Inhabited Connection := ⟨⟨[], 0, -1⟩⟩

/-- client と loop の状態。`Connection` と `RequestContext` は確保の順に番号で指す。 -/
structure Client where
  /-- `std::make_shared<Connection>()` で作った接続。 -/
  conns : List Connection := []
  /-- `cached_conn`。 -/
  cached : Option Nat := none
  /-- `EpollLoop::handlers`。fd から、登録した `onRead` が捕まえた `ctx` の番号。 -/
  handlers : Int → Option Nat := fun _ => none
  /-- `new RequestContext()` の中身。接続の番号と読みの途中。`delete ctx` の後は `none`。 -/
  ctxs : Nat → Option (Nat × ReadState) := fun _ => none
  /-- 次の `new RequestContext()` の番号。 -/
  nextCtx : Nat := 0
  /-- 次の `socket()` が返す fd。 -/
  nextFd : Int
  /-- ghost。callback に渡った (request の番号, 応答)。 -/
  delivered : List (Nat × HttpResponse) := []
  /-- ghost。`delete` した `ctx` の `onRead` を loop が呼んだ、その `ctx` の番号。 -/
  freedReads : List Nat := []

namespace Client

/-- `cached_conn && cached_conn->host == url.host && cached_conn->port == url.port &&
cached_conn->sock.fd >= 0` なら、その接続。 -/
def reusable (c : Client) (url : Url) : Option Nat :=
  match c.cached with
  | some i =>
    match c.conns[i]? with
    | some conn => if conn.host = url.host ∧ conn.port = url.port ∧ 0 ≤ conn.fd then some i else none
    | none => none
  | none => none

/-- 使い回せなければ新しく接続して `cached_conn` にする。使う接続の番号も返す。 -/
def connFor (c : Client) (url : Url) : Client × Nat :=
  match c.reusable url with
  | some i => (c, i)
  | none =>
    ({ c with conns := c.conns ++ [⟨url.host, url.port, c.nextFd⟩], nextFd := c.nextFd + 1,
              cached := some c.conns.length }, c.conns.length)

/-- `request(method, url_str, body, cb)`。`parseUrl` の例外は何も変えずに外へ出る。 -/
def request (c : Client) (urlStr : Bytes) : Client :=
  match parseUrl urlStr with
  | .error _ => c
  | .ok url =>
    let (c, i) := c.connFor url
    { c with ctxs := Function.update c.ctxs c.nextCtx (some (i, {})), nextCtx := c.nextCtx + 1,
             handlers := Function.update c.handlers (c.conns.getD i default).fd (some c.nextCtx) }

/-- `ctx->conn->sock.fd = -1`。 -/
def invalidate (c : Client) (i : Nat) : Client :=
  { c with conns := c.conns.modify (fun conn => { conn with fd := -1 }) i }

/-- loop が fd の読める event で `handlers[fd].onRead()` を呼ぶ。`recv` の結果は `res`。 -/
def readable (c : Client) (fd : Int) (res : RecvResult) : Client :=
  match c.handlers fd with
  | none => c
  | some r =>
    match c.ctxs r with
    | none => { c with freedReads := c.freedReads ++ [r] }
    | some (i, st) =>
      match onRead st res with
      | .wait st' => { c with ctxs := Function.update c.ctxs r (some (i, st')) }
      | .done resp inval =>
        let c := if inval then c.invalidate i else c
        { c with delivered := c.delivered ++ [(r, resp)], ctxs := Function.update c.ctxs r none }
      | .dropped => { c.invalidate i with ctxs := Function.update c.ctxs r none }

/-- client の一歩。 -/
inductive Act where
  | request (urlStr : Bytes)
  | readable (fd : Int) (res : RecvResult)
  deriving DecidableEq, Repr

def step (c : Client) : Act → Client
  | .request urlStr => c.request urlStr
  | .readable fd res => c.readable fd res

def run (c : Client) (acts : List Act) : Client := acts.foldl step c

theorem run_cons (c : Client) (a : Act) (as : List Act) : run c (a :: as) = run (step c a) as := rfl

theorem run_append (c : Client) (a b : List Act) : run c (a ++ b) = run (run c a) b :=
  List.foldl_append _ _ _ _

/-! ## 一つの `ctx` への読み -/

section
variable {fd : Int} {r i : Nat}

/-- 消えた `ctx` の handler への読みは、その番号を `freedReads` に残すだけ。 -/
theorem run_readable_freed {c : Client} (hh : c.handlers fd = some r) (hc : c.ctxs r = none) :
    ∀ rs : List RecvResult, run c (rs.map (.readable fd)) =
      { c with freedReads := c.freedReads ++ rs.map fun _ => r }
  | [] => by simp [run]
  | e :: rs => by
    rw [List.map_cons, run_cons, step, readable, hh]
    dsimp only
    rw [hc]
    dsimp only
    rw [run_readable_freed (c := { c with freedReads := c.freedReads ++ [r] }) hh hc rs]
    simp

/-- 生きている `ctx` への読みの列は、その `ctx` の `runRead` に従う。`runRead` が応答を返せば
callback はその一度だけで、`ctx` は消え、後ろの読みはどれも消えた `ctx` に届く。 -/
theorem run_readable_done : ∀ (rs : List RecvResult) (st : ReadState) (c : Client),
    c.handlers fd = some r → c.ctxs r = some (i, st) → ∀ resp, (runRead st rs).response = some resp →
      (run c (rs.map (.readable fd))).delivered = c.delivered ++ [(r, resp)] ∧
      (run c (rs.map (.readable fd))).ctxs r = none ∧
      (run c (rs.map (.readable fd))).handlers = c.handlers
  | [], _, _, _, _, _, h => by simp [runRead, ReadOutcome.response] at h
  | e :: rs, st, c, hh, hc, resp, h => by
    rw [List.map_cons, run_cons, step, readable, hh]
    dsimp only
    rw [hc]
    dsimp only
    rw [runRead] at h
    cases ho : onRead st e with
    | wait st' =>
      rw [ho] at h
      exact run_readable_done rs st' { c with ctxs := Function.update c.ctxs r (some (i, st')) } hh
        (Function.update_same _ _ _) resp h
    | done resp' inval =>
      rw [ho] at h
      simp only [ReadOutcome.response, Option.some.injEq] at h
      subst h
      have key : ∀ c' : Client, c'.handlers = c.handlers → c'.ctxs r = none →
          c'.delivered = c.delivered ++ [(r, resp')] →
          (run c' (rs.map (.readable fd))).delivered = c.delivered ++ [(r, resp')] ∧
          (run c' (rs.map (.readable fd))).ctxs r = none ∧
          (run c' (rs.map (.readable fd))).handlers = c.handlers := fun c' h1 h2 h3 => by
        rw [run_readable_freed (h1 ▸ hh) h2]
        exact ⟨h3, h2, h1⟩
      cases inval <;> exact key _ rfl (Function.update_same _ _ _) rfl
    | dropped => rw [ho] at h; cases h

end

/-! ## request -/

section
variable {urlStr : Bytes} {url : Url}

/-- 使い回せる接続があれば、新しい `ctx` をその fd の handler にする。 -/
theorem request_reuse (c : Client) (hu : parseUrl urlStr = .ok url) {i : Nat}
    (hr : c.reusable url = some i) :
    c.request urlStr =
      { c with ctxs := Function.update c.ctxs c.nextCtx (some (i, {})), nextCtx := c.nextCtx + 1,
               handlers := Function.update c.handlers (c.conns.getD i default).fd (some c.nextCtx) } := by
  simp only [request, hu, connFor, hr]

/-- 接続のない client の最初の request は、新しい接続を作って `cached_conn` にする。 -/
theorem request_fresh (fd : Int) (hu : parseUrl urlStr = .ok url) :
    ({ nextFd := fd } : Client).request urlStr =
      { conns := [⟨url.host, url.port, fd⟩], cached := some 0, nextFd := fd + 1,
        ctxs := Function.update (fun _ => none) 0 (some (0, {})), nextCtx := 1,
        handlers := Function.update (fun _ => none) fd (some 0) } := by
  simp only [request, hu, connFor, reusable]
  rfl

/-- 同じ相手への `cached_conn` が生きていれば使い回す。 -/
theorem reusable_cached {c : Client} {fd : Int} (hfd : 0 ≤ fd)
    (hc : c.conns = [⟨url.host, url.port, fd⟩]) (hcached : c.cached = some 0) :
    c.reusable url = some 0 := by
  simp [reusable, hc, hcached, hfd]

/-! ## 使い方と応答 -/

/-- 新しい client から同じ URL へ続けて二つ request を出すと、二つ目は一つ目の接続を使い回し、
fd の handler は二つ目の `ctx` に上書きされる。 -/
theorem run_two_requests {fd : Int} (hfd : 0 ≤ fd) (hu : parseUrl urlStr = .ok url) :
    run { nextFd := fd } [.request urlStr, .request urlStr] =
      { conns := [⟨url.host, url.port, fd⟩], cached := some 0, nextFd := fd + 1, nextCtx := 2,
        ctxs := Function.update (Function.update (fun _ => none) 0 (some (0, {}))) 1 (some (0, {})),
        handlers := Function.update (fun _ => none) fd (some 1) } := by
  show ((({ nextFd := fd } : Client).request urlStr).request urlStr) = _
  rw [request_fresh fd hu, request_reuse _ hu (reusable_cached hfd rfl rfl)]
  simp only [List.getD_cons_zero, Function.update_idem]

/-- **応答を待たずに二つ目の request を出すと、応答は入れ違う。** 新しい client から同じ URL へ
二つの request を続けて出し、相手が一つ目の応答 `r1` と続く byte 列 `r2` を返す（どう分けて
読まれてもよい）。一つ目の callback は呼ばれず、二つ目の callback が `r1` の応答を一度だけ受け取る。
その後に相手が接続を閉じれば、loop は消えた二つ目の `ctx` の `onRead` を呼ぶ。 -/
theorem overlapping_requests_crossed {fd : Int} (hfd : 0 ≤ fd) (hu : parseUrl urlStr = .ok url)
    {r1 r2 : Bytes} {x : HttpResponse} (hx : responseOf r1 = some x) (hw : NoWrap r1)
    (chunks : List Chunk) (hc : (chunks.map Chunk.bytes).flatten = r1 ++ r2) :
    (run { nextFd := fd } ([.request urlStr, .request urlStr] ++
        chunks.map (fun ch => .readable fd (.data ch)) ++ [.readable fd .closed])).delivered = [(1, x)] ∧
    (run { nextFd := fd } ([.request urlStr, .request urlStr] ++
        chunks.map (fun ch => .readable fd (.data ch)) ++ [.readable fd .closed])).freedReads.getLast? =
      some 1 := by
  have hresp : (runRead {} (chunks.map .data)).response = some x := by
    rw [runRead_data chunks {} readInv_init (by simpa [hc] using hw.append r2 hx)]
    simpa [hc] using responseOf_append r2 (hw.append r2 hx) hx
  rw [run_append, run_append,
    show chunks.map (fun ch => Act.readable fd (.data ch)) = (chunks.map .data).map (.readable fd) by
      simp [Function.comp_def]]
  generalize hC : run { nextFd := fd } [.request urlStr, .request urlStr] = C
  rw [run_two_requests hfd hu] at hC
  have hh : C.handlers fd = some 1 := by simp [← hC]
  obtain ⟨hd, hctx, hhand⟩ := run_readable_done (i := 0) (chunks.map .data) {} C hh (by simp [← hC]) x hresp
  rw [run_cons, step, readable, hhand, hh]
  dsimp only
  rw [hctx]
  exact ⟨by rw [hd, ← hC]; rfl, by simp [run]⟩

/-- `http://h/` へ二つ続けて出し、`200` の応答と続く `404` の応答が一度の読みで届く。 -/
theorem overlapping_requests_crossed_http :
    (run { nextFd := 5 } ([.request (ascii "http://h/"), .request (ascii "http://h/")] ++
        [⟨ascii "HTTP/1.1 200 OK\r\nContent-Length: 2\r\n\r\nhiHTTP/1.1 404 X\r\n", by decide⟩].map
          (fun ch => .readable 5 (.data ch)) ++ [.readable 5 .closed])).delivered = [(1, ⟨200, ascii "hi"⟩)] :=
  (overlapping_requests_crossed (show (0 : Int) ≤ 5 by decide)
    (show parseUrl (ascii "http://h/") = .ok ⟨ascii "http", ascii "h", 80, ascii "/"⟩ by rfl)
    (show responseOf (ascii "HTTP/1.1 200 OK\r\nContent-Length: 2\r\n\r\nhi") = some ⟨200, ascii "hi"⟩
      by decide)
    (Exact.noWrap ⟨34, 2, by decide, by decide, by decide, by decide⟩) _
    (show (([⟨ascii "HTTP/1.1 200 OK\r\nContent-Length: 2\r\n\r\nhiHTTP/1.1 404 X\r\n", by decide⟩] : List Chunk).map
      Chunk.bytes).flatten =
      ascii "HTTP/1.1 200 OK\r\nContent-Length: 2\r\n\r\nhi" ++ ascii "HTTP/1.1 404 X\r\n" by decide)).1

end

end Client

end Gg.Ggnet
