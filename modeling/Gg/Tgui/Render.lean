import Gg.Json.Stringify

/-!
# tgui の二重 buffer の描画

`ScreenBuffer`（`part_011` 285–326 行）、出力 buffer の `output_append`、`output_append_char`、
`output_flush`（459–485 行）、`write_cell_at`、`write_utf8_at`（487–503 行）、`put_char`
（522–528 行）、`init`（660–699 行）、`begin_frame` と `end_frame`（724–771 行）。

## 仕組み

`end_frame` は `buffer` と `prev_buffer` を同じ位置ごとに比べ、違うセルだけを `write_cell_at` で
書き（UTF-8 の overlay の印があるセルは書かない）、`prev_buffer` をそのセルにする。書く byte は
`output_buffer` に足し、最後に `RESET` を足して一度に `write` する。`output_append` は
`output_pos + len < output_capacity` のときだけ足し、足りなければ黙って捨てる。容量は `init` で
`terminal_width * terminal_height * 40` と決め、`begin_frame` が大きさの変化で `ScreenBuffer` を
作り直しても変えない。この積は `int` で計算するので、`terminal_width * terminal_height` が
53,687,091 を超えると折り返す（`outputCapacity`）。

## 端末

`Term` は `end_frame` の出力を読む端末で、source から訳したものではない。ECMA-48 の CSI 列
（`ESC [` の後に引数の byte と終わりの byte）のうち `H`（CUP）、`m`（SGR）、`J`（ED）を読み、
印字できる ASCII はカーソルの位置に置いて一つ右へ進む。

* 一つのセルの `write_cell_at` は、端末のそのセルだけをそのセルの文字と色にする
  （`feed_writeCellBytes`）。
* `init` と同じ大きさのまま `put_char` で印字できる文字を描く frame の列では、容量の積が `int` に
  収まる限り、出力は一 byte も捨てられず、どの `end_frame` の後も端末は `buffer` のとおりに見える
  （`runFrames_shows`）。
  違うセルだけを書くことは、端末の上では全部を書き直すことと同じである。
-/

namespace Gg.Tgui

open Gg.Ws (Bytes ascii)

/-! ## セルと画面 -/

/-- `Cell`。`fg`、`bg`、`style` は 4 bit、`has_utf8` は 1 bit の bit field。既定は `Cell()`。
`operator==` は五つの欄をすべて比べる。 -/
structure Cell where
  ch : UInt8 := 0x20
  fg : Fin 16 := 7
  bg : Fin 16 := 0
  style : Fin 16 := 0
  hasUtf8 : Bool := false
  deriving DecidableEq, Repr

/-- `ScreenBuffer`。`buffer` と `prev_buffer` はどちらも `width * height` 個のセル。 -/
structure ScreenBuffer where
  width : Nat
  height : Nat
  buffer : List Cell
  prevBuffer : List Cell
  buffer_length : buffer.length = width * height
  prevBuffer_length : prevBuffer.length = width * height

namespace ScreenBuffer

/-- `init(w, h)`。`clear()` の後、`prev_buffer` の文字をすべて `'\0'` にする。 -/
def init (w h : Nat) : ScreenBuffer :=
  ⟨w, h, List.replicate (w * h) {}, List.replicate (w * h) { ch := 0 }, List.length_replicate _ _,
    List.length_replicate _ _⟩

/-- `clear()`。 -/
def clear (s : ScreenBuffer) : ScreenBuffer :=
  { s with buffer := List.replicate (s.width * s.height) {}, buffer_length := List.length_replicate _ _ }

/-- `set(x, y, cell)`。画面の外なら何もしない。 -/
def set (s : ScreenBuffer) (x y : Int) (cell : Cell) : ScreenBuffer :=
  if 0 ≤ x ∧ x < s.width ∧ 0 ≤ y ∧ y < s.height then
    { s with buffer := s.buffer.set (y.toNat * s.width + x.toNat) cell,
             buffer_length := by rw [List.length_set, s.buffer_length] }
  else s

end ScreenBuffer

/-- `put_char(x, y, ch, fg, bg)`。色は `Color` の値の下 4 bit。 -/
def putChar (s : ScreenBuffer) (x y : Int) (ch fg bg : UInt8) : ScreenBuffer :=
  s.set x y { ch := ch, fg := ⟨fg.toNat % 16, Nat.mod_lt _ (by decide)⟩,
              bg := ⟨bg.toNat % 16, Nat.mod_lt _ (by decide)⟩ }

/-! ## 出力 buffer -/

/-- `output_buffer` と `output_capacity`。`buf` の長さが `output_pos`。 -/
structure Output where
  capacity : Nat
  buf : Bytes := []
  deriving DecidableEq, Repr

/-- `output_append(str)`。`output_pos + len < output_capacity` のときだけ足す。 -/
def Output.append (o : Output) (s : Bytes) : Output :=
  if o.buf.length + s.length < o.capacity then { o with buf := o.buf ++ s } else o

/-- `output_append_char(c)`。 -/
def Output.appendChar (o : Output) (c : UInt8) : Output :=
  if o.buf.length + 1 < o.capacity then { o with buf := o.buf ++ [c] } else o

/-- `ansi::fg_color` の表。 -/
def fgCodes : List String :=
  ["\x1b[30m", "\x1b[31m", "\x1b[32m", "\x1b[33m", "\x1b[34m", "\x1b[35m", "\x1b[36m", "\x1b[37m",
   "\x1b[90m", "\x1b[91m", "\x1b[92m", "\x1b[93m", "\x1b[94m", "\x1b[95m", "\x1b[96m", "\x1b[97m"]

/-- `ansi::bg_color` の表。 -/
def bgCodes : List String :=
  ["\x1b[40m", "\x1b[41m", "\x1b[42m", "\x1b[43m", "\x1b[44m", "\x1b[45m", "\x1b[46m", "\x1b[47m",
   "\x1b[100m", "\x1b[101m", "\x1b[102m", "\x1b[103m", "\x1b[104m", "\x1b[105m", "\x1b[106m", "\x1b[107m"]

/-- `ansi::fg_color(c)`。 -/
def fgColor (c : UInt8) : Bytes := if c < 16 then ascii (fgCodes.getD c.toNat "") else ascii "\x1b[39m"

/-- `ansi::bg_color(c)`。 -/
def bgColor (c : UInt8) : Bytes := if c < 16 then ascii (bgCodes.getD c.toNat "") else ascii "\x1b[49m"

/-- `snprintf(pos_buf, sizeof(pos_buf), "\033[%d;%dH", y + 1, x + 1)`。32 byte に収まる。 -/
def cursorTo (x y : Nat) : Bytes := ascii "\x1b[" ++ showNat 10 (y + 1) ++ ascii ";" ++ showNat 10 (x + 1) ++ ascii "H"

/-- `write_cell_at(x, y, cell)`。 -/
def writeCellAt (o : Output) (x y : Nat) (cell : Cell) : Output :=
  (((o.append (cursorTo x y)).append (fgColor cell.fg.val.toUInt8)).append
    (bgColor cell.bg.val.toUInt8)).appendChar cell.ch

/-- `Utf8Overlay` のうち `end_frame` が読むもの。 -/
structure Utf8Overlay where
  x : Nat
  y : Nat
  str : Bytes
  fg : UInt8
  bg : UInt8

/-- `write_utf8_at(x, y, str, fg, bg)`。 -/
def writeUtf8At (o : Output) (ov : Utf8Overlay) : Output :=
  ((o.append (cursorTo ov.x ov.y)).append (fgColor ov.fg)).append (bgColor ov.bg) |>.append ov.str

/-- `RESET`。 -/
def reset : Bytes := ascii "\x1b[0m"

/-! ## frame -/

/-- `end_frame` の二重の `for`。`y * width + x` を小さい順にたどる。違うセルで `has_utf8` でなければ
書く。 -/
def diffPass (w : Nat) : Nat → List Cell → List Cell → Output → Output
  | i, cur :: cs, prev :: ps, o =>
    diffPass w (i + 1) cs ps (if cur ≠ prev ∧ cur.hasUtf8 = false then writeCellAt o (i % w) (i / w) cur else o)
  | _, _, _, o => o

/-- 二重の `for` の後の `prev_buffer`。違ったセルは `prev = cur` で書き換わる。 -/
def diffPrev (buffer prev : List Cell) : List Cell :=
  List.zipWith (fun cur p => if cur ≠ p then cur else p) buffer prev

theorem diffPrev_eq : ∀ (buffer prev : List Cell), buffer.length = prev.length → diffPrev buffer prev = buffer
  | [], [], _ => rfl
  | c :: cs, p :: ps, h => by
    rw [diffPrev, List.zipWith_cons_cons, ← diffPrev, diffPrev_eq cs ps (by simpa using h)]
    by_cases hc : c = p <;> simp [hc]

/-- `prev_buffer` の長さは変わらない。 -/
theorem diffPrev_length (s : ScreenBuffer) : (diffPrev s.buffer s.prevBuffer).length = s.width * s.height := by
  rw [diffPrev_eq _ _ (by rw [s.buffer_length, s.prevBuffer_length]), s.buffer_length]

/-- `end_frame` の二重の `for` が `prev_buffer` に書いた後の画面。 -/
def ScreenBuffer.commit (s : ScreenBuffer) : ScreenBuffer :=
  { s with prevBuffer := diffPrev s.buffer s.prevBuffer, prevBuffer_length := diffPrev_length s }

/-- `Context` のうち描画が読み書きするもの。 -/
structure Context where
  screen : ScreenBuffer
  terminalWidth : Nat
  terminalHeight : Nat
  out : Output

/-- `update_terminal_size()`。`ioctl` が `winsize` を返せばその大きさ、失敗すれば元のまま。 -/
def updateTerminalSize (s : Context) (ws : Option (UInt16 × UInt16)) : Context :=
  match ws with
  | some (col, row) => { s with terminalWidth := col.toNat, terminalHeight := row.toNat }
  | none => s

/-- `output_capacity = terminal_width * terminal_height * 40`。積は `int` で計算するので、下の 32 bit
だけが残る（桁あふれは C++ では未定義で、ここでは 2 の補数で折り返すとする）。負になった `int` を
`size_t` に入れると 64 bit へ符号が広がり、2^64 を法とした値になる。 -/
def outputCapacity (w h : Nat) : Nat :=
  let c := w * h * 40 % 2 ^ 32
  if c < 2 ^ 31 then c else c + (2 ^ 64 - 2 ^ 32)

/-- 積が `int` に収まれば、容量は積そのもの。 -/
theorem outputCapacity_of_lt {w h : Nat} (hfit : w * h * 40 < 2 ^ 31) : outputCapacity w h = w * h * 40 := by
  have hc : w * h * 40 % 2 ^ 32 = w * h * 40 := Nat.mod_eq_of_lt (by omega)
  simp only [outputCapacity, hc, if_pos hfit]

/-- `init()` のうち描画にかかわるもの。既定の大きさは 80×24。端末へ直接書く `CURSOR_HIDE`、
`CLEAR_SCREEN`、`CURSOR_HOME` も返す。 -/
def init (ws : Option (UInt16 × UInt16)) : Context × Bytes :=
  let s := updateTerminalSize ⟨ScreenBuffer.init 0 0, 80, 24, ⟨0, []⟩⟩ ws
  ({ s with screen := ScreenBuffer.init s.terminalWidth s.terminalHeight,
            out := ⟨outputCapacity s.terminalWidth s.terminalHeight, []⟩ },
   ascii "\x1b[?25l" ++ ascii "\x1b[2J" ++ ascii "\x1b[H")

/-- `begin_frame()`。大きさが変われば `ScreenBuffer` を作り直す。出力 buffer の容量は変えない。 -/
def beginFrame (s : Context) (ws : Option (UInt16 × UInt16)) : Context :=
  let s' := updateTerminalSize s ws
  let s' := if s.terminalWidth ≠ s'.terminalWidth ∨ s.terminalHeight ≠ s'.terminalHeight then
      { s' with screen := ScreenBuffer.init s'.terminalWidth s'.terminalHeight }
    else s'
  { s' with screen := s'.screen.clear }

/-- `end_frame()`。overlay の列も受け取る。返す byte 列は `output_flush` が端末へ書くもの。 -/
def endFrame (s : Context) (overlays : List Utf8Overlay) : Context × Bytes :=
  let o := diffPass s.screen.width 0 s.screen.buffer s.screen.prevBuffer s.out
  let o := overlays.foldl writeUtf8At o
  let o := o.append reset
  ({ s with screen := s.screen.commit, out := { o with buf := [] } }, o.buf)

/-- 一つの frame で呼ぶ `put_char` の引数 `(x, y, ch, fg, bg)`。 -/
abbrev Draw := Int × Int × UInt8 × UInt8 × UInt8

/-- `begin_frame()`、`put_char` の列、`end_frame()`。overlay は作らない。 -/
def runFrame (s : Context) (ws : Option (UInt16 × UInt16)) (draws : List Draw) : Context × Bytes :=
  let s := beginFrame s ws
  endFrame { s with screen := draws.foldl (fun sc d => putChar sc d.1 d.2.1 d.2.2.1 d.2.2.2.1 d.2.2.2.2) s.screen } []

/-! ## 端末 -/

/-- 端末の一つの位置に見えるもの。文字、前景色、背景色。色の `none` は端末の既定。 -/
structure Glyph where
  ch : UInt8
  fg : Option Nat
  bg : Option Nat
  deriving DecidableEq, Repr

/-- セルを書いた端末に見えるもの。 -/
def Cell.glyph (c : Cell) : Glyph := ⟨c.ch, some c.fg.val, some c.bg.val⟩

/-- 端末が制御列をどこまで読んだか。 -/
inductive Parser where
  | ground
  | escape
  /-- `ESC [` の後。読み終えた引数、読みかけの引数、`?` があったか。 -/
  | csi (params : List Nat) (cur : Nat) (priv : Bool)
  deriving DecidableEq, Repr

/-- 端末。行と列は 0 から数える。 -/
structure Term where
  row : Nat := 0
  col : Nat := 0
  fg : Option Nat := none
  bg : Option Nat := none
  parser : Parser := .ground
  display : Nat × Nat → Glyph := fun _ => ⟨0x20, none, none⟩

namespace Term

/-- SGR の一つの引数。 -/
def sgr (t : Term) (n : Nat) : Term :=
  if n = 0 then { t with fg := none, bg := none }
  else if 30 ≤ n ∧ n ≤ 37 then { t with fg := some (n - 30) }
  else if n = 39 then { t with fg := none }
  else if 40 ≤ n ∧ n ≤ 47 then { t with bg := some (n - 40) }
  else if n = 49 then { t with bg := none }
  else if 90 ≤ n ∧ n ≤ 97 then { t with fg := some (n - 82) }
  else if 100 ≤ n ∧ n ≤ 107 then { t with bg := some (n - 92) }
  else t

/-- CSI 列の終わりの byte。`H` は 1 から数えた行と列へ、`m` は色、`J` の 2 は画面を消す。 -/
def csiFinal (t : Term) (params : List Nat) (priv : Bool) (c : UInt8) : Term :=
  if priv then t
  else if c = 0x48 then { t with row := params.getD 0 1 - 1, col := params.getD 1 1 - 1 }
  else if c = 0x6D then params.foldl sgr t
  else if c = 0x4A ∧ params.getD 0 0 = 2 then { t with display := fun _ => ⟨0x20, none, none⟩ }
  else t

/-- 一 byte を読む。 -/
def step (t : Term) (b : UInt8) : Term :=
  match t.parser with
  | .ground =>
    if b = 0x1B then { t with parser := .escape }
    else if 0x20 ≤ b ∧ b ≤ 0x7E then
      { t with display := Function.update t.display (t.row, t.col) ⟨b, t.fg, t.bg⟩, col := t.col + 1 }
    else t
  | .escape => { t with parser := if b = 0x5B then .csi [] 0 false else .ground }
  | .csi ps cur priv =>
    if 0x30 ≤ b ∧ b ≤ 0x39 then { t with parser := .csi ps (cur * 10 + (b.toNat - 0x30)) priv }
    else if b = 0x3B then { t with parser := .csi (ps ++ [cur]) 0 priv }
    else if b = 0x3F then { t with parser := .csi ps cur true }
    else if 0x40 ≤ b ∧ b ≤ 0x7E then { csiFinal t (ps ++ [cur]) priv b with parser := .ground }
    else { t with parser := .ground }

/-- byte 列を読む。 -/
def feed (t : Term) (bs : Bytes) : Term := bs.foldl step t

theorem feed_append (t : Term) (a b : Bytes) : t.feed (a ++ b) = (t.feed a).feed b :=
  List.foldl_append _ _ _ _

theorem feed_singleton (t : Term) (b : UInt8) : t.feed [b] = t.step b := rfl

end Term

/-! ## 一つのセルを書く -/

/-- 印字できる ASCII。 -/
def Printable (c : UInt8) : Prop := 0x20 ≤ c ∧ c ≤ 0x7E

instance : DecidablePred Printable := fun c => inferInstanceAs (Decidable (0x20 ≤ c ∧ c ≤ 0x7E))

/-- `write_cell_at` が足す byte 列。 -/
def writeCellBytes (x y : Nat) (cell : Cell) : Bytes :=
  cursorTo x y ++ fgColor cell.fg.val.toUInt8 ++ bgColor cell.bg.val.toUInt8 ++ [cell.ch]

/-- 前景色の表の数字。`30`–`37` と `90`–`97`。 -/
def fgDigits (c : Fin 16) : List Nat := if c.val < 8 then [3, c.val] else [9, c.val - 8]

/-- 背景色の表の数字。`40`–`47` と `100`–`107`。 -/
def bgDigits (c : Fin 16) : List Nat := if c.val < 8 then [4, c.val] else [1, 0, c.val - 8]

theorem fgColor_eq : ∀ c : Fin 16, fgColor c.val.toUInt8 = [0x1B, 0x5B] ++ (fgDigits c).map digitChar ++ [0x6D] := by
  decide

theorem bgColor_eq : ∀ c : Fin 16, bgColor c.val.toUInt8 = [0x1B, 0x5B] ++ (bgDigits c).map digitChar ++ [0x6D] := by
  decide

theorem fgDigits_lt (c : Fin 16) : ∀ d ∈ fgDigits c, d < 10 := by
  unfold fgDigits; split <;> simp <;> omega

theorem bgDigits_lt (c : Fin 16) : ∀ d ∈ bgDigits c, d < 10 := by
  unfold bgDigits; split <;> simp <;> omega

theorem digitChar_toNat {d : Nat} (hd : d < 10) : (digitChar d).toNat = 48 + d := by
  rw [digitChar, if_pos hd, Gg.Ws.toNat_toUInt8, Nat.mod_eq_of_lt (by omega)]

/-- 10 進の数字を上の桁から読むと、`Nat.ofDigits` の値になる。 -/
theorem foldl_reverse_digits : ∀ (L : List Nat) (acc : Nat),
    L.reverse.foldl (fun a d => a * 10 + d) acc = acc * 10 ^ L.length + Nat.ofDigits 10 L
  | [], acc => by simp
  | d :: L, acc => by
    rw [List.reverse_cons, List.foldl_append, foldl_reverse_digits L acc, List.foldl_cons, List.foldl_nil,
      Nat.ofDigits_cons, List.length_cons, pow_succ]
    ring

theorem showNat_eq {n : Nat} (hn : 0 < n) : showNat 10 n = (Nat.digits 10 n).reverse.map digitChar := by
  rw [showNat, if_neg (by omega)]

theorem showNat_length_le {n : Nat} (hn : 0 < n) (h : n ≤ 65536) : (showNat 10 n).length ≤ 5 := by
  rw [showNat_eq hn, List.length_map, List.length_reverse]
  by_contra hl
  have h1 := Nat.base_pow_length_digits_le 10 n (by decide) (by omega)
  have h2 : 10 ^ 6 ≤ 10 ^ (Nat.digits 10 n).length := Nat.pow_le_pow_right (by decide) (by omega)
  omega

namespace Term

variable {t : Term}

/-- 引数の数字を読む。 -/
theorem feed_digitChars {ps : List Nat} {priv : Bool} : ∀ (ds : List Nat) (cur : Nat) (t : Term),
    (∀ d ∈ ds, d < 10) → t.parser = .csi ps cur priv →
    t.feed (ds.map digitChar) = { t with parser := .csi ps (ds.foldl (fun a d => a * 10 + d) cur) priv }
  | [], _, t, _, hp => by rw [List.map_nil, feed, List.foldl_nil, List.foldl_nil, ← hp]
  | d :: ds, cur, t, hd, hp => by
    have hd0 := hd d (List.mem_cons_self _ _)
    have hc := digitChar_toNat hd0
    rw [List.map_cons, feed, List.foldl_cons, ← feed]
    have hs : t.step (digitChar d) = { t with parser := .csi ps (cur * 10 + d) priv } := by
      rw [step, hp]
      dsimp only
      rw [if_pos ⟨show 48 ≤ (digitChar d).toNat by omega, show (digitChar d).toNat ≤ 57 by omega⟩, hc,
        show 48 + d - 0x30 = d by omega]
    rw [hs, feed_digitChars ds _ _ (fun d' h => hd d' (List.mem_cons_of_mem _ h)) rfl, List.foldl_cons]

theorem feed_escBracket (hp : t.parser = .ground) : t.feed [0x1B, 0x5B] = { t with parser := .csi [] 0 false } := by
  simp [feed, step, hp]

/-- `m` で終わる CSI 列。 -/
theorem step_csi_m (ps : List Nat) (cur : Nat) :
    ({ t with parser := .csi ps cur false } : Term).step 0x6D =
      { (({ t with parser := .csi ps cur false } : Term).csiFinal (ps ++ [cur]) false 0x6D) with
        parser := .ground } := by
  rw [step]
  dsimp only
  rw [if_neg (by decide), if_neg (by decide), if_neg (by decide), if_pos (by decide)]

/-- 色を変える SGR 列。 -/
theorem feed_sgrDigits (hp : t.parser = .ground) (ds : List Nat) (hds : ∀ d ∈ ds, d < 10) :
    t.feed ([0x1B, 0x5B] ++ ds.map digitChar ++ [0x6D]) =
      { ({ t with parser := .csi [] (ds.foldl (fun a d => a * 10 + d) 0) false } : Term).sgr
          (ds.foldl (fun a d => a * 10 + d) 0) with parser := .ground } := by
  rw [feed_append, feed_append, feed_escBracket hp, feed_digitChars ds 0 _ hds rfl]
  rw [feed_singleton, step_csi_m, csiFinal, if_neg (by decide), if_neg (by decide),
    if_pos rfl, List.nil_append, List.foldl_cons, List.foldl_nil]

theorem feed_fgColor (hp : t.parser = .ground) (c : Fin 16) :
    t.feed (fgColor c.val.toUInt8) = { t with fg := some c.val } := by
  rw [fgColor_eq, feed_sgrDigits hp _ (fgDigits_lt c)]
  have hc := c.isLt
  have hs : ∀ t' : Term, t'.sgr ((fgDigits c).foldl (fun a d => a * 10 + d) 0) = { t' with fg := some c.val } := by
    intro t'
    unfold fgDigits
    split
    · rw [List.foldl_cons, List.foldl_cons, List.foldl_nil, sgr, if_neg (by omega), if_pos (by omega)]
      congr 2; omega
    · rw [List.foldl_cons, List.foldl_cons, List.foldl_nil, sgr, if_neg (by omega), if_neg (by omega),
        if_neg (by omega), if_neg (by omega), if_neg (by omega), if_pos (by omega)]
      congr 2; omega
  rw [hs]
  cases t; cases hp; rfl

theorem feed_bgColor (hp : t.parser = .ground) (c : Fin 16) :
    t.feed (bgColor c.val.toUInt8) = { t with bg := some c.val } := by
  rw [bgColor_eq, feed_sgrDigits hp _ (bgDigits_lt c)]
  have hc := c.isLt
  have hs : ∀ t' : Term, t'.sgr ((bgDigits c).foldl (fun a d => a * 10 + d) 0) = { t' with bg := some c.val } := by
    intro t'
    unfold bgDigits
    split
    · rw [List.foldl_cons, List.foldl_cons, List.foldl_nil, sgr, if_neg (by omega), if_neg (by omega),
        if_neg (by omega), if_pos (by omega)]
      congr 2; omega
    · rw [List.foldl_cons, List.foldl_cons, List.foldl_cons, List.foldl_nil, sgr, if_neg (by omega),
        if_neg (by omega), if_neg (by omega), if_neg (by omega), if_neg (by omega), if_neg (by omega),
        if_pos (by omega)]
      congr 2; omega
  rw [hs]
  cases t; cases hp; rfl

/-- 正の数の 10 進の数字を引数として読む。 -/
theorem feed_showNat {ps : List Nat} {priv : Bool} (hp : t.parser = .csi ps 0 priv) {n : Nat} (hn : 0 < n) :
    t.feed (showNat 10 n) = { t with parser := .csi ps n priv } := by
  rw [showNat_eq hn, feed_digitChars _ 0 t (fun d hd => Nat.digits_lt_base (by decide)
    (List.mem_reverse.1 hd)) hp, foldl_reverse_digits, Nat.ofDigits_digits, Nat.zero_mul, Nat.zero_add]

theorem step_csi_semicolon (ps : List Nat) (cur : Nat) (priv : Bool) (h : t.parser = .csi ps cur priv) :
    t.step 0x3B = { t with parser := .csi (ps ++ [cur]) 0 priv } := by
  rw [step, h]
  dsimp only
  rw [if_neg (by decide), if_pos rfl]

theorem step_csi_H (ps : List Nat) (cur : Nat) (h : t.parser = .csi ps cur false) :
    t.step 0x48 = { t.csiFinal (ps ++ [cur]) false 0x48 with parser := .ground } := by
  rw [step, h]
  dsimp only
  rw [if_neg (by decide), if_neg (by decide), if_neg (by decide), if_pos (by decide)]

/-- `write_cell_at` の位置の列は、カーソルを `(y, x)` へ動かすだけ。 -/
theorem feed_cursorTo (hp : t.parser = .ground) (x y : Nat) :
    t.feed (cursorTo x y) = { t with row := y, col := x } := by
  rw [cursorTo, feed_append, feed_append, feed_append, feed_append,
    show ascii "\x1b[" = [0x1B, 0x5B] from rfl, feed_escBracket hp, feed_showNat rfl (Nat.succ_pos y),
    show ascii ";" = [0x3B] from rfl, feed_singleton, step_csi_semicolon [] (y + 1) false rfl,
    feed_showNat rfl (Nat.succ_pos x), show ascii "H" = [0x48] from rfl, feed_singleton, step_csi_H _ _ rfl]
  simp only [csiFinal, if_false, if_pos, List.nil_append, List.cons_append, List.getD_cons_zero,
    List.getD_cons_succ, Nat.add_sub_cancel]
  cases t; cases hp; rfl

/-- 印字できる文字は、カーソルの位置にその時の色で置かれ、カーソルは右へ一つ進む。 -/
theorem step_printable (hp : t.parser = .ground) {c : UInt8} (hc : Printable c) :
    t.step c = { t with display := Function.update t.display (t.row, t.col) ⟨c, t.fg, t.bg⟩,
                        col := t.col + 1 } := by
  have hne : c ≠ 0x1B := fun h => by rw [h] at hc; exact absurd hc.1 (by decide)
  rw [step, hp]
  dsimp only
  rw [if_neg hne]
  exact if_pos hc

/-- **一つのセルの `write_cell_at` は、端末のそのセルだけをそのセルの文字と色にする。** -/
theorem feed_writeCellBytes (hp : t.parser = .ground) (x y : Nat) (cell : Cell) (hc : Printable cell.ch) :
    t.feed (writeCellBytes x y cell) =
      { t with row := y, col := x + 1, fg := some cell.fg.val, bg := some cell.bg.val,
               display := Function.update t.display (y, x) cell.glyph } := by
  rw [writeCellBytes, feed_append, feed_append, feed_append, feed_cursorTo hp,
    feed_fgColor (t := { t with row := y, col := x }) hp,
    feed_bgColor (t := { t with row := y, col := x, fg := some cell.fg.val }) hp, feed_singleton,
    step_printable (t := { t with row := y, col := x, fg := some cell.fg.val, bg := some cell.bg.val }) hp hc]
  rfl

end Term

/-! ## 出力 buffer に収まるとき -/

theorem Output.append_of_lt {o : Output} {s : Bytes} (h : o.buf.length + s.length < o.capacity) :
    o.append s = { o with buf := o.buf ++ s } :=
  if_pos h

@[simp] theorem Output.append_capacity (o : Output) (s : Bytes) : (o.append s).capacity = o.capacity := by
  unfold Output.append; split <;> rfl

@[simp] theorem Output.appendChar_capacity (o : Output) (c : UInt8) : (o.appendChar c).capacity = o.capacity := by
  unfold Output.appendChar; split <;> rfl

@[simp] theorem writeCellAt_capacity (o : Output) (x y : Nat) (cell : Cell) :
    (writeCellAt o x y cell).capacity = o.capacity := by
  simp only [writeCellAt, Output.appendChar_capacity, Output.append_capacity]

/-- 収まれば、`write_cell_at` は `writeCellBytes` をそのまま足す。 -/
theorem writeCellAt_of_fits {o : Output} {x y : Nat} {cell : Cell}
    (h : o.buf.length + (writeCellBytes x y cell).length < o.capacity) :
    writeCellAt o x y cell = { o with buf := o.buf ++ writeCellBytes x y cell } := by
  simp only [writeCellBytes, List.length_append, List.length_singleton] at h
  rw [writeCellAt, Output.append_of_lt (o := o) (by omega),
    Output.append_of_lt (o := { o with buf := o.buf ++ cursorTo x y }) (by simp only [List.length_append]; omega),
    Output.append_of_lt (o := { o with buf := o.buf ++ cursorTo x y ++ fgColor cell.fg.val.toUInt8 })
      (by simp only [List.length_append]; omega), Output.appendChar,
    if_pos (by simp only [List.length_append]; omega)]
  simp only [writeCellBytes, List.append_assoc]

theorem cursorTo_length_le {x y : Nat} (hx : x < 65536) (hy : y < 65536) : (cursorTo x y).length ≤ 14 := by
  have h1 := showNat_length_le (n := x + 1) (by omega) hx
  have h2 := showNat_length_le (n := y + 1) (by omega) hy
  simp only [cursorTo, List.length_append]
  have : (ascii "\x1b[").length = 2 ∧ (ascii ";").length = 1 ∧ (ascii "H").length = 1 := by decide
  omega

/-- 一つのセルの `write_cell_at` は高々 26 byte。 -/
theorem writeCellBytes_length_le {x y : Nat} (hx : x < 65536) (hy : y < 65536) (cell : Cell) :
    (writeCellBytes x y cell).length ≤ 26 := by
  have hf : ∀ c : Fin 16, (fgColor c.val.toUInt8).length ≤ 5 := by decide
  have hb : ∀ c : Fin 16, (bgColor c.val.toUInt8).length ≤ 6 := by decide
  have := cursorTo_length_le hx hy
  simp only [writeCellBytes, List.length_append, List.length_singleton]
  have := hf cell.fg
  have := hb cell.bg
  omega

/-- 二重の `for` が足す byte 列。 -/
def diffBytes (w : Nat) : Nat → List Cell → List Cell → Bytes
  | i, cur :: cs, prev :: ps =>
    (if cur ≠ prev ∧ cur.hasUtf8 = false then writeCellBytes (i % w) (i / w) cur else []) ++ diffBytes w (i + 1) cs ps
  | _, _, _ => []

@[simp] theorem diffPass_capacity (w : Nat) : ∀ (i : Nat) (cur prev : List Cell) (o : Output),
    (diffPass w i cur prev o).capacity = o.capacity
  | i, c :: cs, p :: ps, o => by
    rw [diffPass, diffPass_capacity w (i + 1) cs ps]
    split <;> simp only [writeCellAt_capacity]
  | _, [], _, _ | _, _ :: _, [], _ => rfl

/-- **収まれば、二重の `for` は `diffBytes` をそのまま足す。** -/
theorem diffPass_of_fits (w : Nat) : ∀ (i : Nat) (cur prev : List Cell) (o : Output),
    o.buf.length + (diffBytes w i cur prev).length < o.capacity →
    diffPass w i cur prev o = { o with buf := o.buf ++ diffBytes w i cur prev }
  | i, c :: cs, p :: ps, o, h => by
    rw [diffPass, diffBytes]
    rw [diffBytes, List.length_append] at h
    split
    · rename_i hc
      rw [if_pos hc] at h
      rw [writeCellAt_of_fits (by omega), diffPass_of_fits w (i + 1) cs ps _ (by simp only [List.length_append]; omega),
        List.append_assoc]
    · rename_i hc
      rw [if_neg hc, List.length_nil] at h
      rw [diffPass_of_fits w (i + 1) cs ps _ (by omega), List.nil_append]
  | _, [], _, o, _ | _, _ :: _, [], o, _ => by
    show o = { o with buf := o.buf ++ [] }
    rw [List.append_nil]

/-- 画面の中のセルだけなら、二重の `for` は一つのセルにつき高々 26 byte を足す。 -/
theorem diffBytes_length_le {w : Nat} (hw : w < 65536) : ∀ (i : Nat) (cur prev : List Cell),
    i + cur.length ≤ w * 65536 → (diffBytes w i cur prev).length ≤ 26 * cur.length
  | i, c :: cs, p :: ps, h => by
    rw [List.length_cons] at h
    have hrest := diffBytes_length_le hw (i + 1) cs ps (by omega)
    have hx : i % w < 65536 := (Nat.mod_lt _ (by omega)).trans hw
    have hy : i / w < 65536 := Nat.div_lt_of_lt_mul (by omega)
    have hcell := writeCellBytes_length_le hx hy c
    rw [diffBytes, List.length_append, List.length_cons]
    split
    · omega
    · rw [List.length_nil]; omega
  | _, [], _, _ | _, _ :: _, [], _ => Nat.zero_le _

/-! ## 二重の `for` の出力を読む端末 -/

/-- 幅 `w` の画面で、違う番号のセルは違う位置にある。 -/
theorem pos_ne {w i j : Nat} (h : i ≠ j) : (i / w, i % w) ≠ (j / w, j % w) := by
  intro he
  rw [Prod.mk.injEq] at he
  have hi := Nat.div_add_mod i w
  have hj := Nat.div_add_mod j w
  rw [he.1, he.2] at hi
  omega

/-- 書くセルがみな印字できる文字で overlay の印がないこと。 -/
def Drawable (cur : List Cell) : Prop := ∀ c ∈ cur, Printable c.ch ∧ c.hasUtf8 = false

namespace Term

variable {t : Term} {w : Nat}

theorem feed_nil (t : Term) : t.feed [] = t := rfl

/-- 二重の `for` の出力を読んでも、端末は制御列の途中で止まらない。 -/
theorem feed_diffBytes_ground : ∀ {i : Nat} {cur prev : List Cell} {t : Term}, t.parser = .ground → Drawable cur →
    (t.feed (diffBytes w i cur prev)).parser = .ground
  | i, c :: cs, p :: ps, t, hp, hd => by
    have hrest : Drawable cs := fun c' h => hd c' (List.mem_cons_of_mem _ h)
    rw [diffBytes, feed_append]
    split
    · rw [feed_writeCellBytes hp _ _ _ (hd c (List.mem_cons_self _ _)).1]
      exact feed_diffBytes_ground hp hrest
    · exact feed_diffBytes_ground hp hrest
  | _, [], _, _, hp, _ | _, _ :: _, [], _, hp, _ => hp

/-- 二重の `for` の出力は、番号が `i` より前のセルの位置を変えない。 -/
theorem feed_diffBytes_frame (hw : 0 < w) : ∀ {i : Nat} {cur prev : List Cell} {t : Term}, t.parser = .ground →
    Drawable cur → ∀ j < i, (t.feed (diffBytes w i cur prev)).display (j / w, j % w) = t.display (j / w, j % w)
  | i, c :: cs, p :: ps, t, hp, hd, j, hj => by
    have hrest : Drawable cs := fun c' h => hd c' (List.mem_cons_of_mem _ h)
    rw [diffBytes, feed_append]
    split
    · rw [feed_writeCellBytes hp _ _ _ (hd c (List.mem_cons_self _ _)).1]
      refine (feed_diffBytes_frame hw ?_ hrest j ?_).trans (Function.update_noteq (pos_ne ?_) _ _)
      exacts [hp, by omega, by omega]
    · exact feed_diffBytes_frame hw hp hrest j (by omega)
  | _, [], _, _, _, _, _, _ | _, _ :: _, [], _, _, _, _, _ => rfl

/-- `RESET` は色を既定に戻すだけ。 -/
theorem feed_reset (hp : t.parser = .ground) : t.feed reset = { t with fg := none, bg := none } := by
  rw [show reset = [0x1B, 0x5B] ++ [0].map digitChar ++ [0x6D] from rfl, feed_sgrDigits hp [0] (by decide)]
  cases t; cases hp; rfl

/-- 端末が `prev_buffer` のとおりに見えること。`'\0'` のセルは `init` の後まだ書いていない印。 -/
def Agree (t : Term) (w i : Nat) (prev : List Cell) : Prop :=
  ∀ k < prev.length, (prev.getD k {}).ch = 0 ∨ t.display ((i + k) / w, (i + k) % w) = (prev.getD k {}).glyph

theorem Agree.tail {t : Term} {i : Nat} {p : Cell} {ps : List Cell} (h : Agree t w i (p :: ps)) : Agree t w (i + 1) ps :=
  fun k hk => by
    have := h (k + 1) (by rw [List.length_cons]; omega)
    rwa [List.getD_cons_succ, show i + (k + 1) = i + 1 + k by omega] at this

/-- **二重の `for` の出力を読んだ端末は、`buffer` のとおりに見える。違うセルだけを書けば足りるのは、
同じセルはもう端末にそのとおり見えているから。** -/
theorem feed_diffBytes_shows (hw : 0 < w) : ∀ {i : Nat} {cur prev : List Cell} {t : Term}, t.parser = .ground →
    Drawable cur → cur.length = prev.length → Agree t w i prev →
    ∀ k < cur.length, (t.feed (diffBytes w i cur prev)).display ((i + k) / w, (i + k) % w) = (cur.getD k {}).glyph
  | i, c :: cs, p :: ps, t, hp, hd, hl, ha, k, hk => by
    have hrest : Drawable cs := fun c' h => hd c' (List.mem_cons_of_mem _ h)
    have hc := hd c (List.mem_cons_self _ _)
    have hl' : cs.length = ps.length := by simpa using hl
    rw [diffBytes, feed_append]
    by_cases hcp : c = p
    · rw [if_neg (fun h => h.1 hcp), feed_nil]
      cases k with
      | zero =>
        rw [feed_diffBytes_frame hw hp hrest _ (by omega), List.getD_cons_zero]
        have h0 := ha 0 (by simp)
        rw [List.getD_cons_zero, Nat.add_zero, ← hcp] at h0
        exact h0.resolve_left (fun h => absurd hc.1.1 (by rw [h]; decide))
      | succ k =>
        rw [show i + (k + 1) = i + 1 + k by omega, List.getD_cons_succ]
        exact feed_diffBytes_shows hw hp hrest hl' ha.tail k (by simpa using hk)
    · rw [if_pos ⟨hcp, hc.2⟩, feed_writeCellBytes hp _ _ _ hc.1]
      cases k with
      | zero =>
        rw [List.getD_cons_zero, Nat.add_zero]
        refine (feed_diffBytes_frame hw ?_ hrest i ?_).trans (Function.update_same _ _ _)
        exacts [hp, by omega]
      | succ k =>
        rw [show i + (k + 1) = i + 1 + k by omega, List.getD_cons_succ]
        refine feed_diffBytes_shows hw ?_ hrest hl' (fun k' hk' => ?_) k (by simpa using hk)
        · exact hp
        · show _ ∨ Function.update t.display _ _ _ = _
          rw [Function.update_noteq (pos_ne (i := i + 1 + k') (j := i) (by omega))]
          exact ha.tail k' hk'
  | _, [], _, _, _, _, _, _, k, hk => absurd hk (Nat.not_lt_zero k)
  | _, _ :: _, [], _, _, _, hl, _, _, _ => absurd hl (by simp)

end Term

/-! ## frame -/

/-- 既定の `Cell()` は描ける。 -/
theorem drawable_replicate (n : Nat) : Drawable (List.replicate n {}) := fun c hc => by
  rw [(List.mem_replicate.1 hc).2]
  exact ⟨by decide, rfl⟩

@[simp] theorem ScreenBuffer.set_width (s : ScreenBuffer) (x y : Int) (cell : Cell) : (s.set x y cell).width = s.width := by
  unfold ScreenBuffer.set; split <;> rfl

@[simp] theorem ScreenBuffer.set_height (s : ScreenBuffer) (x y : Int) (cell : Cell) :
    (s.set x y cell).height = s.height := by
  unfold ScreenBuffer.set; split <;> rfl

@[simp] theorem ScreenBuffer.set_prevBuffer (s : ScreenBuffer) (x y : Int) (cell : Cell) :
    (s.set x y cell).prevBuffer = s.prevBuffer := by
  unfold ScreenBuffer.set; split <;> rfl

theorem ScreenBuffer.set_drawable {s : ScreenBuffer} {x y : Int} {cell : Cell} (hs : Drawable s.buffer)
    (hc : Printable cell.ch ∧ cell.hasUtf8 = false) : Drawable (s.set x y cell).buffer := by
  unfold ScreenBuffer.set
  split
  · exact fun c h => (List.mem_or_eq_of_mem_set h).elim (hs c) (fun he => he ▸ hc)
  · exact hs

/-- `put_char` の列。 -/
def drawAll (sc : ScreenBuffer) (draws : List Draw) : ScreenBuffer :=
  draws.foldl (fun sc d => putChar sc d.1 d.2.1 d.2.2.1 d.2.2.2.1 d.2.2.2.2) sc

theorem runFrame_eq (s : Context) (ws : Option (UInt16 × UInt16)) (draws : List Draw) :
    runFrame s ws draws = endFrame { beginFrame s ws with screen := drawAll (beginFrame s ws).screen draws } [] := rfl

/-- `put_char` は大きさと `prev_buffer` を変えず、印字できる文字なら描けるセルだけを置く。 -/
theorem drawAll_spec (hd : ∀ d ∈ draws, Printable d.2.2.1) : ∀ (sc : ScreenBuffer), Drawable sc.buffer →
    (drawAll sc draws).width = sc.width ∧ (drawAll sc draws).height = sc.height ∧
    (drawAll sc draws).prevBuffer = sc.prevBuffer ∧ Drawable (drawAll sc draws).buffer := by
  induction draws with
  | nil => exact fun sc hs => ⟨rfl, rfl, rfl, hs⟩
  | cons d ds ih =>
    intro sc hs
    have h := ih (fun d' h => hd d' (List.mem_cons_of_mem _ h)) (putChar sc d.1 d.2.1 d.2.2.1 d.2.2.2.1 d.2.2.2.2)
      (ScreenBuffer.set_drawable hs ⟨hd d (List.mem_cons_self _ _), rfl⟩)
    simp only [putChar, ScreenBuffer.set_width, ScreenBuffer.set_height, ScreenBuffer.set_prevBuffer] at h
    exact h

/-- `init` と同じ大きさのまま frame を描く間に保たれること。端末は `prev_buffer` のとおりに見え、
出力 buffer は空で、容量は `init` の大きさの 40 倍。 -/
structure Ready (ws : Option (UInt16 × UInt16)) (s : Context) (t : Term) : Prop where
  fixed : updateTerminalSize s ws = s
  width : s.screen.width = s.terminalWidth
  height : s.screen.height = s.terminalHeight
  small : s.terminalWidth < 65536 ∧ s.terminalHeight < 65536
  out : s.out = ⟨s.terminalWidth * s.terminalHeight * 40, []⟩
  ground : t.parser = .ground
  agree : t.Agree s.screen.width 0 s.screen.prevBuffer

/-- `update_terminal_size` は大きさの欄だけを書く。 -/
theorem updateTerminalSize_fixed {ws : Option (UInt16 × UInt16)} {s : Context} (h : updateTerminalSize s ws = s)
    (sc : ScreenBuffer) (o : Output) :
    updateTerminalSize { s with screen := sc, out := o } ws = { s with screen := sc, out := o } := by
  rcases ws with _ | ⟨c, r⟩
  · rfl
  · have h1 := congrArg Context.terminalWidth h
    have h2 := congrArg Context.terminalHeight h
    simp only [updateTerminalSize] at h1 h2 ⊢
    rw [h1, h2]

/-- `init` の後の端末。`prev_buffer` の文字はみな `'\0'`。容量の積が `int` に収まるとする。 -/
theorem init_ready (ws : Option (UInt16 × UInt16))
    (hfit : (init ws).1.terminalWidth * (init ws).1.terminalHeight * 40 < 2 ^ 31) :
    Ready ws (init ws).1 (({} : Term).feed (init ws).2) := by
  have hp : (({} : Term).feed (init ws).2).parser = .ground := by rfl
  have ha : ∀ (w h : Nat) (t : Term), t.Agree w 0 (ScreenBuffer.init w h).prevBuffer := fun w h t k hk => by
    left
    simp only [ScreenBuffer.init, List.length_replicate] at hk
    simp [ScreenBuffer.init, List.getD_eq_getElem?_getD, hk]
  have ho : (init ws).1.out = ⟨(init ws).1.terminalWidth * (init ws).1.terminalHeight * 40, []⟩ :=
    congrArg (Output.mk · []) (outputCapacity_of_lt hfit)
  rcases ws with _ | ⟨c, r⟩
  · exact ⟨rfl, rfl, rfl, by decide, ho, hp, ha _ _ _⟩
  · exact ⟨rfl, rfl, rfl, ⟨UInt16.toNat_lt_size c, UInt16.toNat_lt_size r⟩, ho, hp, ha _ _ _⟩

/-- 端末 `t` が画面 `sc` の `buffer` のとおりに見えること。セル `k` は `(k / width, k % width)` にある。 -/
def Shows (t : Term) (sc : ScreenBuffer) : Prop :=
  ∀ k < sc.width * sc.height, t.display (k / sc.width, k % sc.width) = (sc.buffer.getD k {}).glyph

section Frame

variable {ws : Option (UInt16 × UInt16)} {s : Context} {t : Term}

/-- 大きさが変わらなければ、`begin_frame` は `buffer` を消すだけ。 -/
theorem Ready.beginFrame_eq (hr : Ready ws s t) : beginFrame s ws = { s with screen := s.screen.clear } := by
  rw [beginFrame, hr.fixed, if_neg (by simp)]

/-- **大きさが変わらなければ、`end_frame` は一 byte も捨てない。端末へ書くのは二重の `for` の出力と、
収まれば `RESET`。** -/
theorem Ready.endFrame_bytes (hr : Ready ws s t) (sc : ScreenBuffer) (hw : sc.width = s.terminalWidth)
    (hh : sc.height = s.terminalHeight) :
    (endFrame { s with screen := sc } []).2 =
      diffBytes sc.width 0 sc.buffer sc.prevBuffer ++
        (if (diffBytes sc.width 0 sc.buffer sc.prevBuffer).length + reset.length < s.out.capacity then reset else []) := by
  have hd : diffPass sc.width 0 sc.buffer sc.prevBuffer s.out = { s.out with buf := diffBytes sc.width 0 sc.buffer sc.prevBuffer } := by
    rw [hr.out]
    cases hb : sc.buffer with
    | nil => rfl
    | cons c cs =>
      have hl := sc.buffer_length
      rw [hb, List.length_cons] at hl
      have hlen := diffBytes_length_le (w := sc.width) (by rw [hw]; exact hr.small.1) 0 (c :: cs) sc.prevBuffer
        (by rw [List.length_cons, Nat.zero_add, hl]; exact Nat.mul_le_mul_left _ (by rw [hh]; exact hr.small.2.le))
      rw [List.length_cons] at hlen
      rw [diffPass_of_fits _ _ _ _ _ (by dsimp only; rw [List.length_nil, Nat.zero_add, ← hw, ← hh, ← hl]; omega)]
      rfl
  simp only [endFrame, hd, List.foldl_nil, Output.append]
  split <;> simp only [List.nil_append, List.append_nil]

/-- `end_frame` の後の端末。大きさが変わらず、描いたセルがみな描けるなら、端末は `buffer` のとおりに見え、
`Ready` は保たれる。 -/
theorem Ready.endFrame_shows (hr : Ready ws s t) (sc : ScreenBuffer) (hw : sc.width = s.screen.width)
    (hh : sc.height = s.screen.height) (hprev : sc.prevBuffer = s.screen.prevBuffer) (hd : Drawable sc.buffer) :
    Ready ws (endFrame { s with screen := sc } []).1 (t.feed (endFrame { s with screen := sc } []).2) ∧
      Shows (t.feed (endFrame { s with screen := sc } []).2) sc := by
  have hl : sc.buffer.length = sc.prevBuffer.length := by rw [sc.buffer_length, sc.prevBuffer_length]
  have ha : t.Agree sc.width 0 sc.prevBuffer := by rw [hw, hprev]; exact hr.agree
  have ht : (t.feed (endFrame { s with screen := sc } []).2).parser = .ground ∧
      (t.feed (endFrame { s with screen := sc } []).2).display = (t.feed (diffBytes sc.width 0 sc.buffer sc.prevBuffer)).display := by
    have hg : (t.feed (diffBytes sc.width 0 sc.buffer sc.prevBuffer)).parser = .ground :=
      Term.feed_diffBytes_ground hr.ground hd
    rw [hr.endFrame_bytes sc (hw.trans hr.width) (hh.trans hr.height), Term.feed_append]
    split
    · rw [Term.feed_reset hg]; exact ⟨hg, rfl⟩
    · exact ⟨hg, rfl⟩
  have hs : Shows (t.feed (endFrame { s with screen := sc } []).2) sc := by
    intro k hk
    rw [← sc.buffer_length] at hk
    have hw0 : 0 < sc.width := Nat.pos_of_ne_zero (fun h0 => by rw [sc.buffer_length, h0, Nat.zero_mul] at hk; omega)
    have := Term.feed_diffBytes_shows hw0 hr.ground hd hl ha k hk
    rwa [Nat.zero_add, ← ht.2] at this
  refine ⟨⟨updateTerminalSize_fixed hr.fixed _ _, hw.trans hr.width, hh.trans hr.height, hr.small, ?_, ht.1, ?_⟩, hs⟩
  · simp only [endFrame, List.foldl_nil, Output.append_capacity, diffPass_capacity, hr.out]
  · intro k hk
    right
    have hk' : k < sc.width * sc.height := by rw [← sc.buffer_length, ← diffPrev_eq _ _ hl]; exact hk
    rw [Nat.zero_add]
    exact (hs k hk').trans (by rw [← diffPrev_eq _ _ hl]; rfl)

/-- **大きさが変わらず、印字できる文字だけを `put_char` で描く frame の後、端末は描いたとおりに見える。** -/
theorem Ready.runFrame_shows (hr : Ready ws s t) {draws : List Draw} (hd : ∀ d ∈ draws, Printable d.2.2.1) :
    Ready ws (runFrame s ws draws).1 (t.feed (runFrame s ws draws).2) ∧
      Shows (t.feed (runFrame s ws draws).2) (runFrame s ws draws).1.screen := by
  rw [runFrame_eq, hr.beginFrame_eq]
  obtain ⟨hw, hh, hprev, hdraw⟩ := drawAll_spec hd s.screen.clear (drawable_replicate _)
  exact hr.endFrame_shows _ hw hh hprev hdraw

/-- frame の列を描く。`while (running) \x7b begin_frame(); ...; end_frame(); \x7d` のループで、端末へ書いた
byte を順につなぐ。 -/
def runFrames (s : Context) (ws : Option (UInt16 × UInt16)) : List (List Draw) → Context × Bytes
  | [] => (s, [])
  | f :: fs =>
    let r := runFrame s ws f
    let r' := runFrames r.1 ws fs
    (r'.1, r.2 ++ r'.2)

theorem runFrames_cons (s : Context) (ws : Option (UInt16 × UInt16)) (f : List Draw) (fs : List (List Draw)) :
    runFrames s ws (f :: fs) =
      ((runFrames (runFrame s ws f).1 ws fs).1, (runFrame s ws f).2 ++ (runFrames (runFrame s ws f).1 ws fs).2) := rfl

theorem Ready.shows_after_frames {frames : List (List Draw)} (hr : Ready ws s t) (hf : frames ≠ [])
    (hd : ∀ f ∈ frames, ∀ d ∈ f, Printable d.2.2.1) :
    Shows (t.feed (runFrames s ws frames).2) (runFrames s ws frames).1.screen := by
  induction frames generalizing s t with
  | nil => exact absurd rfl hf
  | cons f fs ih =>
    have h1 := hr.runFrame_shows (hd f (List.mem_cons_self _ _))
    rw [runFrames_cons, Term.feed_append]
    cases fs with
    | nil => exact h1.2
    | cons g gs => exact ih h1.1 (List.cons_ne_nil g gs) (fun f' h => hd f' (List.mem_cons_of_mem _ h))

end Frame

/-- **`init` の後、大きさを変えずに印字できる文字だけを `put_char` で描く frame をいくつ描いても、最後の
`end_frame` の後の端末は最後の frame の `buffer` のとおりに見える。** 違うセルだけを書く `end_frame` は、
端末の上では画面全体を書き直すのと同じで、出力 buffer からは一 byte も捨てられない。ただし `init` の
`terminal_width * terminal_height * 40` が `int` に収まること。 -/
theorem runFrames_shows (ws : Option (UInt16 × UInt16))
    (hfit : (init ws).1.terminalWidth * (init ws).1.terminalHeight * 40 < 2 ^ 31) {frames : List (List Draw)}
    (hf : frames ≠ []) (hd : ∀ f ∈ frames, ∀ d ∈ f, Printable d.2.2.1) :
    Shows (({} : Term).feed ((init ws).2 ++ (runFrames (init ws).1 ws frames).2)) (runFrames (init ws).1 ws frames).1.screen := by
  rw [Term.feed_append]
  exact (init_ready ws hfit).shows_after_frames hf hd

/-- 2×1 の端末に二つの frame を描く。二つ目の frame は左のセルだけを変え、右のセルは書き直さない。 -/
theorem runFrames_shows_two :
    (({} : Term).feed ((init (some (2, 1))).2 ++
      (runFrames (init (some (2, 1))).1 (some (2, 1)) [[(0, 0, 0x41, 1, 0), (1, 0, 0x42, 2, 0)], [(0, 0, 0x43, 1, 0), (1, 0, 0x42, 2, 0)]]).2)).display (0, 1) =
      ⟨0x42, some 2, some 0⟩ :=
  (runFrames_shows (some (2, 1)) (show 2 * 1 * 40 < 2 ^ 31 by norm_num) (List.cons_ne_nil _ _) (by decide) 1
    (by decide)).trans (by decide)

end Gg.Tgui
