import ConstructTui.Lib.Raster
import Mathlib.Algebra.Order.Ring.Int
import Mathlib.Tactic.Common

/-!
# Codes on the terminal

An invite is shown to another device as a QR code. Two rows of modules go into one row of the
terminal, as half blocks, with a quiet zone of two modules around them; the caption goes below. The
widget is centred in its area and cut off where the area ends.

## Main definitions

* `QrCode`: what the encoder gives.
* `Paragraph`, `Paragraph.Clips`: how lines are drawn into a rectangle.
* `QrWidget.grid`, `QrWidget.lines`, `QrWidget.render`: the widget.
* `QrWidget.fullscreen`: the code of an identity on the whole screen.
* `Canvas.scan`: what a scanner makes of what is on the screen.

## Main results

* `QrWidget.scan_render_iff`: the code can be scanned exactly where it fits.
* `QrWidget.scan_fullscreen_iff`: and on the whole screen, where its size hint fits.
-/

/-- Colours of the terminal that the widget uses. -/
inductive QrColor
  | white
  | black
  | darkGray
  | reset
  deriving DecidableEq, Repr

/-- A module of a code. -/
inductive QrModule
  | light
  | dark
  deriving DecidableEq, Repr

/-- An encoded code: the modules of a square row by row. No version is wider than 177. -/
structure QrCode where
  width : ℕ
  colors : List QrModule
  length_colors : colors.length = width * width
  width_pos : 0 < width
  width_le : width ≤ 177

/-- A place of the terminal: the character, and the colours it is drawn in. -/
structure Cell where
  ch : Char
  fg : QrColor
  bg : QrColor
  deriving DecidableEq, Repr

/-- Where something is drawn. -/
structure Rect where
  x : ℕ
  y : ℕ
  width : ℕ
  height : ℕ
  deriving DecidableEq, Repr

/-- What has been drawn, by column and row. -/
abbrev Canvas := ℕ → ℕ → Option Cell

/-- A blank or a block, which is as wide as a column. -/
def Cell.narrow (cell : Cell) : Bool :=
  cell.ch = ' ' || cell.ch = '▀' || cell.ch = '▄' || cell.ch = '█'

/-- How a paragraph without wrapping is drawn into a rectangle. -/
abbrev Paragraph := Rect → List (List Cell) → Canvas

/-- The lines stand from the upper left corner of the rectangle on, a narrow character in each
column, and what the rectangle has no room for is cut off. -/
structure Paragraph.Clips (paragraph : Paragraph) : Prop where
  drawn : ∀ {rect : Rect} {lines : List (List Cell)} {row col : ℕ} {cells : List Cell},
    row < rect.height → col < rect.width → lines[row]? = some cells →
    (∀ cell ∈ cells, cell.narrow) →
    paragraph rect lines (rect.x + col) (rect.y + row) = cells[col]?
  cut : ∀ {rect : Rect} (lines : List (List Cell)) {x y : ℕ},
    ¬((rect.x ≤ x ∧ x < rect.x + rect.width) ∧ rect.y ≤ y ∧ y < rect.y + rect.height) →
    paragraph rect lines x y = none

/-- What is drawn where all lines are narrow is a place of one of them. -/
theorem Paragraph.Clips.of_drawn {paragraph : Paragraph} (h : paragraph.Clips) {rect : Rect}
    {lines : List (List Cell)} (hlines : ∀ row < rect.height, ∃ cells, lines[row]? = some cells ∧
      ∀ cell ∈ cells, cell.narrow) {x y : ℕ} {cell : Cell}
    (hcell : paragraph rect lines x y = some cell) :
    ∃ row < rect.height, ∃ cells, lines[row]? = some cells ∧ cell ∈ cells := by
  by_cases hin : (rect.x ≤ x ∧ x < rect.x + rect.width) ∧ rect.y ≤ y ∧ y < rect.y + rect.height
  · obtain ⟨⟨hx, hx'⟩, hy, hy'⟩ := hin
    obtain ⟨col, rfl⟩ := Nat.exists_eq_add_of_le hx
    obtain ⟨row, rfl⟩ := Nat.exists_eq_add_of_le hy
    have hrow : row < rect.height := by omega
    obtain ⟨cells, hcells, hnarrow⟩ := hlines row hrow
    rw [h.drawn hrow (by omega) hcells hnarrow] at hcell
    exact ⟨row, hrow, cells, hcells, List.mem_of_getElem? hcell⟩
  · rw [h.cut lines hin] at hcell
    cases hcell

structure QrWidget where
  data : String
  caption : Option String
  fg : QrColor
  bg : QrColor
  deriving DecidableEq, Repr

namespace QrWidget

/-- Modules of the quiet zone on each side. -/
def quiet : ℕ := 2

/-- The side of the code with its quiet zone. -/
def padded (code : QrCode) : ℕ := code.width + quiet * 2

/-- The modules of the padded code row by row: is it dark? -/
def grid (code : QrCode) : List Bool :=
  Raster.fill (padded code) quiet quiet code.width code.width
    (fun row col => code.colors[Raster.index code.width row col]? == some .dark)
    (List.replicate (padded code * padded code) false)

/-- A module of the padded code. -/
def dark (code : QrCode) (row col : ℕ) : Bool :=
  row < padded code && (grid code).getD (Raster.index (padded code) row col) false

/-- The half block for an upper and a lower module. -/
def halfBlock : Bool → Bool → Char
  | true, true => '█'
  | true, false => '▀'
  | false, true => '▄'
  | false, false => ' '

def rowCount (code : QrCode) : ℕ := (padded code + 1) / 2

variable (w : QrWidget) (code : QrCode)

/-- Two rows of modules in one row of the terminal. -/
def halfRow (row : ℕ) : List Cell :=
  (List.range (padded code)).map fun col =>
    ⟨halfBlock (dark code (row * 2) col) (dark code (row * 2 + 1) col), w.fg, w.bg⟩

def captionLine (caption : String) : List Cell :=
  caption.toList.map fun ch => ⟨ch, .darkGray, .reset⟩

def lines : List (List Cell) :=
  (List.range (rowCount code)).map (w.halfRow code) ++ w.caption.toList.map captionLine

/-- The conversion of a `usize` to a `u16`. -/
def u16 (n : ℕ) : ℕ := n % 2 ^ 16

/-- Centred in its area, as much of it as there is room for. -/
def place (area : Rect) : Rect where
  x := area.x + (area.width - u16 (padded code)) / 2
  y := area.y + (area.height - u16 (w.lines code).length) / 2
  width := min (u16 (padded code)) area.width
  height := min (u16 (w.lines code).length) area.height

def fallback : String := "[ QR unavailable ]"

variable (paragraph : Paragraph)

/-- What stands there instead of a code that cannot be encoded. -/
def renderFallback (area : Rect) : Canvas :=
  if 0 < area.height then
    paragraph ⟨area.x + (area.width - fallback.utf8ByteSize) / 2, area.y,
      fallback.utf8ByteSize, 1⟩ [captionLine fallback]
  else fun _ _ => none

variable (encode : String → Option QrCode)

/-- The widget; `encode` is the encoder with error correction at level M, and `paragraph` draws
lines. -/
def render (area : Rect) : Canvas :=
  match encode w.data with
  | none => renderFallback paragraph area
  | some code => paragraph (w.place code area) (w.lines code)

def sizeHint (data : String) : Option (ℕ × ℕ) :=
  (encode data).map fun code => (u16 (padded code), (u16 (padded code) + 1) / 2)

/-- The code of an identity on what the hint leaves of the screen; without a size there is none. -/
def fullscreen (payload userId : String) (area : Rect) : Option Canvas :=
  (sizeHint encode payload).map fun hint =>
    render ⟨payload, some userId, .black, .white⟩ paragraph encode
      ⟨area.x + (area.width - hint.1) / 2, area.y + (area.height - hint.2) / 2,
        min hint.1 area.width, min hint.2 area.height⟩

end QrWidget

/-! ### What is seen -/

/-- The colour of the upper half of a place. -/
def Cell.upper (cell : Cell) : QrColor :=
  if cell.ch = '█' ∨ cell.ch = '▀' then cell.fg else cell.bg

/-- The colour of the lower half of a place. -/
def Cell.lower (cell : Cell) : QrColor :=
  if cell.ch = '█' ∨ cell.ch = '▄' then cell.fg else cell.bg

namespace Canvas

variable (canvas : Canvas) (fg bg : QrColor) (x y : ℕ)

/-- The colour of a square, half as high as a place, counted from the upper left corner. -/
def square (row col : ℕ) : Option QrColor :=
  (canvas (x + col) (y + row / 2)).map fun cell => if row % 2 = 0 then cell.upper else cell.lower

/-- The module that a square stands for. -/
def seen (row col : ℕ) : Option QrModule :=
  (canvas.square x y row col).bind fun color =>
    if color = fg then some .dark else if color = bg then some .light else none

/-- All around the code there are light modules. -/
def QuietZone (width : ℕ) : Prop :=
  ∀ row < width + 4, ∀ col < width + 4, ¬(2 ≤ row ∧ row < width + 2 ∧ 2 ≤ col ∧ col < width + 2) →
    canvas.seen fg bg x y row col = some .light

instance (width : ℕ) : Decidable (canvas.QuietZone fg bg x y width) :=
  inferInstanceAs (Decidable (∀ row < width + 4, ∀ col < width + 4, _ → _))

/-- What a scanner reads that looks for a code of the width at a corner. -/
def scan (width : ℕ) : Option (List QrModule) :=
  if canvas.QuietZone fg bg x y width then
    (List.range (width * width)).mapM fun i =>
      canvas.seen fg bg x y (i / width + 2) (i % width + 2)
  else none

end Canvas

namespace QrWidget

/-! ### What is drawn -/

variable {w : QrWidget} {code : QrCode} {paragraph : Paragraph}
  {encode : String → Option QrCode} {area : Rect}

theorem u16_padded (code : QrCode) : u16 (padded code) = padded code := by
  have hwidth := code.width_le
  simp only [u16, padded, quiet]
  omega

theorem length_lines (w : QrWidget) (code : QrCode) :
    (w.lines code).length = rowCount code + w.caption.toList.length := by
  simp [lines]

theorem u16_lines (w : QrWidget) (code : QrCode) :
    u16 (w.lines code).length = (w.lines code).length := by
  have hwidth := code.width_le
  have hcaption : w.caption.toList.length ≤ 1 := by cases w.caption <;> simp
  simp only [u16, length_lines, rowCount, padded, quiet]
  omega

/-- The module that the padded code has at a place. -/
def moduleAt (code : QrCode) (row col : ℕ) : QrModule := if dark code row col then .dark else .light

theorem dark_eq {row col : ℕ} (hrow : row < padded code) (hcol : col < padded code) :
    dark code row col = if 2 ≤ row ∧ row < code.width + 2 ∧ 2 ≤ col ∧ col < code.width + 2
      then code.colors[Raster.index code.width (row - 2) (col - 2)]? == some .dark else false := by
  have hfill : (grid code)[Raster.index (padded code) row col]? =
      if quiet ≤ row ∧ row < quiet + code.width ∧ quiet ≤ col ∧ col < quiet + code.width
      then some (code.colors[Raster.index code.width (row - quiet) (col - quiet)]? == some .dark)
      else (List.replicate (padded code * padded code) false)[
        Raster.index (padded code) row col]? :=
    Raster.getElem?_fill List.length_replicate (by simp only [padded, quiet]; omega) hrow hcol
  have hlt := Raster.index_lt hrow hcol
  rw [dark, List.getD_eq_getElem?_getD, hfill, decide_eq_true hrow, Bool.true_and]
  simp only [quiet, Nat.add_comm 2 code.width, List.getElem?_replicate, hlt, if_true]
  split <;> rfl

/-- The quiet zone has no dark module. -/
theorem moduleAt_quiet {row col : ℕ} (hrow : row < padded code) (hcol : col < padded code)
    (h : ¬(2 ≤ row ∧ row < code.width + 2 ∧ 2 ≤ col ∧ col < code.width + 2)) :
    moduleAt code row col = .light := by
  rw [moduleAt, dark_eq hrow hcol, if_neg h]
  rfl

/-- Inside of it are the modules of the code. -/
theorem moduleAt_inside {row col : ℕ} (hrow : row < code.width) (hcol : col < code.width) :
    some (moduleAt code (row + 2) (col + 2)) = code.colors[Raster.index code.width row col]? := by
  have hlt : Raster.index code.width row col < code.colors.length := by
    rw [code.length_colors]
    exact Raster.index_lt hrow hcol
  have hdark : dark code (row + 2) (col + 2) =
      (code.colors[Raster.index code.width row col] == .dark) := by
    rw [dark_eq (by simp only [padded, quiet]; omega) (by simp only [padded, quiet]; omega),
      if_pos (by omega), Nat.add_sub_cancel, Nat.add_sub_cancel, List.getElem?_eq_getElem hlt]
    rfl
  rw [moduleAt, hdark, List.getElem?_eq_getElem hlt]
  cases code.colors[Raster.index code.width row col] <;> rfl

theorem upper_halfBlock (top bot : Bool) (fg bg : QrColor) :
    Cell.upper ⟨halfBlock top bot, fg, bg⟩ = if top then fg else bg := by
  cases top <;> cases bot <;> rfl

theorem lower_halfBlock (top bot : Bool) (fg bg : QrColor) :
    Cell.lower ⟨halfBlock top bot, fg, bg⟩ = if bot then fg else bg := by
  cases top <;> cases bot <;> rfl

/-- The rows of the code come first, and are narrow. -/
theorem getElem?_lines (w : QrWidget) {row : ℕ} (h : row < rowCount code) :
    (w.lines code)[row]? = some (w.halfRow code row) := by
  rw [lines, List.getElem?_append_left (by simpa using h), List.getElem?_map, List.getElem?_range h]
  rfl

theorem narrow_halfRow {w : QrWidget} {row : ℕ} {cell : Cell} (h : cell ∈ w.halfRow code row) :
    cell.narrow := by
  obtain ⟨col, -, rfl⟩ := List.mem_map.mp h
  cases dark code (row * 2) col <;> cases dark code (row * 2 + 1) col <;> rfl

theorem render_of_encode (h : encode w.data = some code) :
    w.render paragraph encode area = paragraph (w.place code area) (w.lines code) := by
  rw [render, h]

/-- Where there is room, each square has the colour of its module. -/
theorem square_render (hclips : paragraph.Clips) (h : encode w.data = some code)
    (hwidth : padded code ≤ area.width)
    (hheight : rowCount code ≤ area.height) {row col : ℕ} (hrow : row < padded code)
    (hcol : col < padded code) :
    (w.render paragraph encode area).square (w.place code area).x (w.place code area).y row col =
      some (if dark code row col then w.fg else w.bg) := by
  have hhalf : row / 2 < rowCount code := by
    simp only [rowCount]
    omega
  have hcell : (w.halfRow code (row / 2))[col]? = some
      ⟨halfBlock (dark code (row / 2 * 2) col) (dark code (row / 2 * 2 + 1) col), w.fg, w.bg⟩ := by
    simp [halfRow, hcol]
  have hroom : col < (w.place code area).width ∧ row / 2 < (w.place code area).height := by
    simp only [place, u16_padded, u16_lines]
    rw [length_lines]
    omega
  have hdrawn := hclips.drawn hroom.2 hroom.1 (w.getElem?_lines hhalf) fun _ => narrow_halfRow
  rw [render_of_encode h, Canvas.square, hdrawn, hcell, Option.map_some, upper_halfBlock,
    lower_halfBlock]
  split
  · next heven => rw [show row / 2 * 2 = row by omega]
  · next hodd => rw [show row / 2 * 2 + 1 = row by omega]

theorem seen_render (hclips : paragraph.Clips) (h : encode w.data = some code)
    (hcolors : w.fg ≠ w.bg) (hwidth : padded code ≤ area.width)
    (hheight : rowCount code ≤ area.height) {row col : ℕ}
    (hrow : row < padded code) (hcol : col < padded code) :
    (w.render paragraph encode area).seen w.fg w.bg (w.place code area).x (w.place code area).y
      row col = some (moduleAt code row col) := by
  rw [Canvas.seen, square_render hclips h hwidth hheight hrow hcol, Option.bind_some, moduleAt]
  cases dark code row col
  · simp [hcolors.symm]
  · simp

/-- A square that is seen is in the place of the widget. -/
theorem lt_of_seen (hclips : paragraph.Clips) (h : encode w.data = some code) {x y row col : ℕ}
    (hseen : ((w.render paragraph encode area).seen w.fg w.bg x y row col).isSome) :
    ((w.place code area).x ≤ x + col ∧ x + col < (w.place code area).x + area.width) ∧
      (w.place code area).y ≤ y + row / 2 ∧
        y + row / 2 < (w.place code area).y + area.height := by
  by_contra hout
  have hwidth : (w.place code area).width ≤ area.width := Nat.min_le_right _ _
  have hheight : (w.place code area).height ≤ area.height := Nat.min_le_right _ _
  rw [render_of_encode h, Canvas.seen, Canvas.square, hclips.cut _ (by omega)] at hseen
  cases hseen

end QrWidget

namespace Canvas

variable {canvas : Canvas} {fg bg : QrColor} {x y width : ℕ}

/-- A list read place by place. -/
theorem mapM_eq_some {α β : Type*} {f : α → Option β} {as : List α} {bs : List β} :
    as.mapM f = some bs ↔ as.map f = bs.map some := by
  induction as generalizing bs with
  | nil => cases bs <;> simp
  | cons a as ih =>
    rw [List.mapM_cons, List.map_cons]
    cases bs with
    | nil => simp [Option.bind_eq_some_iff]
    | cons b bs =>
      rw [List.map_cons, List.cons.injEq, ← ih]
      cases f a with
      | none => simp
      | some b' => cases as.mapM f <;> simp

theorem scan_eq_some {ms : List QrModule} (hlength : ms.length = width * width) :
    canvas.scan fg bg x y width = some ms ↔ canvas.QuietZone fg bg x y width ∧
      ∀ row < width, ∀ col < width,
        canvas.seen fg bg x y (row + 2) (col + 2) = ms[Raster.index width row col]? := by
  rw [scan]
  split
  · next hquiet =>
    rw [mapM_eq_some, and_iff_right hquiet]
    constructor
    · intro hread row hrow col hcol
      have hlt := Raster.index_lt hrow hcol
      have hat := congrArg (fun l => l[Raster.index width row col]?) hread
      simpa [hlt, Raster.index_div row hcol, Raster.index_mod row hcol, hlength] using hat
    · intro hread
      refine List.ext_getElem (by simp [hlength]) fun i hi hi' => ?_
      have hlt : i < width * width := by simpa using hi
      have hpos : 0 < width := Nat.pos_of_ne_zero fun hzero => by simp [hzero] at hlt
      have hat := hread (i / width) (Nat.div_lt_of_lt_mul hlt) (i % width) (Nat.mod_lt i hpos)
      rw [Raster.index_div_mod] at hat
      simpa [hlength, hlt] using hat
  · next hquiet => simp [hquiet]

end Canvas

namespace QrWidget

variable {w : QrWidget} {code : QrCode} {paragraph : Paragraph}
  {encode : String → Option QrCode} {area : Rect}

/-- **The code can be scanned exactly where it fits.** Wherever a scanner looks for the code, it
reads the modules of the code if and only if the area has room for all of them. -/
theorem scan_render_iff (hclips : paragraph.Clips) (h : encode w.data = some code)
    (hcolors : w.fg ≠ w.bg) :
    (∃ x y, (w.render paragraph encode area).scan w.fg w.bg x y code.width = some code.colors) ↔
      padded code ≤ area.width ∧ rowCount code ≤ area.height := by
  have hpos := code.width_pos
  constructor
  · rintro ⟨x, y, hscan⟩
    obtain ⟨hquiet, -⟩ := (Canvas.scan_eq_some code.length_colors).mp hscan
    -- the corners of the quiet zone are seen
    have hcorner (row col : ℕ) (hrow : row < code.width + 4) (hcol : col < code.width + 4)
        (hout : ¬(2 ≤ row ∧ row < code.width + 2 ∧ 2 ≤ col ∧ col < code.width + 2)) :=
      lt_of_seen hclips h (Option.isSome_iff_exists.mpr ⟨_, hquiet row hrow col hcol hout⟩)
    have hfirst := hcorner 0 0 (by omega) (by omega) (by omega)
    have hlast := hcorner (code.width + 3) (code.width + 3) (by omega) (by omega) (by omega)
    simp only [padded, rowCount, quiet]
    omega
  · rintro ⟨hwidth, hheight⟩
    refine ⟨(w.place code area).x, (w.place code area).y,
      (Canvas.scan_eq_some code.length_colors).mpr
      ⟨fun row hrow col hcol hout => ?_, fun row hrow col hcol => ?_⟩⟩
    · rw [seen_render hclips h hcolors hwidth hheight hrow hcol, moduleAt_quiet hrow hcol hout]
    · rw [seen_render hclips h hcolors hwidth hheight (by simp only [padded, quiet]; omega)
        (by simp only [padded, quiet]; omega), moduleAt_inside hrow hcol]

/-- Where there is room for the code only, what is seen has its colours. -/
theorem colors_of_render (hclips : paragraph.Clips) (h : encode w.data = some code)
    (hheight : area.height ≤ rowCount code) {x y : ℕ} {cell : Cell}
    (hcell : w.render paragraph encode area x y = some cell) : cell.fg = w.fg ∧ cell.bg = w.bg := by
  have hrows (row : ℕ) (hrow : row < (w.place code area).height) : row < rowCount code :=
    hrow.trans_le ((Nat.min_le_right _ _).trans hheight)
  rw [render_of_encode h] at hcell
  obtain ⟨row, hrow, cells, hcells, hmem⟩ := hclips.of_drawn (fun row hrow =>
    ⟨_, w.getElem?_lines (hrows row hrow), fun _ => narrow_halfRow⟩) hcell
  rw [w.getElem?_lines (hrows row hrow)] at hcells
  obtain rfl := Option.some.inj hcells
  obtain ⟨col, -, rfl⟩ := List.mem_map.mp hmem
  exact ⟨rfl, rfl⟩

/-- **The code of an identity can be scanned exactly where its size hint fits**, and nothing else
is drawn there: the screen leaves no row for the caption. -/
theorem scan_fullscreen_iff (hclips : paragraph.Clips) {payload userId : String} {hint : ℕ × ℕ}
    {canvas : Canvas} (h : encode payload = some code) (hhint : sizeHint encode payload = some hint)
    (hcanvas : fullscreen paragraph encode payload userId area = some canvas) :
    ((∃ x y, canvas.scan .black .white x y code.width = some code.colors) ↔
      hint.1 ≤ area.width ∧ hint.2 ≤ area.height) ∧
      ∀ x y cell, canvas x y = some cell → cell.fg = .black ∧ cell.bg = .white := by
  rw [fullscreen, hhint, Option.map_some, Option.some.injEq] at hcanvas
  rw [sizeHint, h, Option.map_some, Option.some.injEq] at hhint
  subst hcanvas hhint
  rw [u16_padded]
  refine ⟨(scan_render_iff (w := ⟨payload, some userId, .black, .white⟩) hclips h (by simp)).trans
    ?_,
    fun x y cell hcell => ?_⟩
  · simp only [rowCount]
    omega
  · exact colors_of_render (w := ⟨payload, some userId, .black, .white⟩) hclips h
      (Nat.min_le_left _ _) hcell

/-- The code of the digits `01234567`. -/
def digitsRows : List String :=
  ["#######..#.##.#######", "#.....#..####.#.....#", "#.###.#.#.....#.###.#",
    "#.###.#.##....#.###.#", "#.###.#.#.###.#.###.#", "#.....#.#...#.#.....#",
    "#######.#.#.#.#######", "........#..##........", "#.#####..#..#.#####..",
    "...#.#.##.#.#..#.##..", "..#...##.#.#.#..#####", "....#....#.....####..",
    "...######..#.#..#....", "........#.#####..##..", "#######..##.#.##.....",
    "#.....#.#.#####...#.#", "#.###.#.#...#..#.##..", "#.###.#.##..#..#.....",
    "#.###.#.#.##.#..#.#..", "#.....#........##.##.", "#######.####.#..#.#.."]

def digitsCode : QrCode where
  width := 21
  colors := digitsRows.flatMap fun row => row.toList.map fun c => if c = '#' then .dark else .light
  length_colors := by decide +kernel
  width_pos := by decide
  width_le := by decide

/-- An encoder that knows this code only. -/
def digitsEncode (data : String) : Option QrCode :=
  if data = "01234567" then some digitsCode else none

/-- A paragraph that draws a character in each column. -/
def plainParagraph : Paragraph := fun rect lines x y =>
  if (rect.x ≤ x ∧ x < rect.x + rect.width) ∧ rect.y ≤ y ∧ y < rect.y + rect.height
  then lines[y - rect.y]?.bind fun cells => cells[x - rect.x]? else none

theorem clips_plainParagraph : plainParagraph.Clips where
  drawn {rect lines row col cells} hrow hcol hcells _ := by
    rw [plainParagraph, if_pos (by omega), Nat.add_sub_cancel_left, Nat.add_sub_cancel_left, hcells,
      Option.bind_some]
  cut lines x y h := if_neg h

/-- On a terminal of 80 columns and 24 rows the code of the digits can be scanned. -/
theorem scan_fullscreen_digits : ∃ canvas,
    fullscreen plainParagraph digitsEncode "01234567" "me" ⟨0, 0, 80, 23⟩ = some canvas ∧
    (∃ x y, canvas.scan .black .white x y 21 = some digitsCode.colors) ∧
    ∀ x y cell, canvas x y = some cell → cell.fg = .black ∧ cell.bg = .white := by
  have hencode : digitsEncode "01234567" = some digitsCode := if_pos rfl
  have hhint : sizeHint digitsEncode "01234567" = some (25, 13) := by
    rw [sizeHint, hencode]
    rfl
  obtain ⟨canvas, hcanvas⟩ : ∃ canvas,
      fullscreen plainParagraph digitsEncode "01234567" "me" ⟨0, 0, 80, 23⟩ = some canvas :=
    ⟨_, by rw [fullscreen, hhint]; rfl⟩
  obtain ⟨hscan, hcells⟩ := scan_fullscreen_iff clips_plainParagraph hencode hhint hcanvas
  exact ⟨canvas, hcanvas, hscan.mpr (by decide), hcells⟩

end QrWidget
