import Caption.Proofs.Layout.Cells
import Caption.Proofs.Line.Fit

/-!
# Measuring and drawing

The length of a line is summed up while the text is cut into lines, and again for a line that is
trimmed; where its glyphs stand is counted anew when it is drawn, by a running sum along a row and
by a product along a column. All of them come to the same: a pen that writes the glyphs of a line
from where the line starts stands, after the last of them, exactly its length farther on. So the
bars, which are as long as the line, end where the glyphs do.

## Main definitions

* `Pen.Writes`: what a pen writes on its way
* `Line.Drawn`: a line whose glyphs and bars keep to its length

## Main statements

* `Layout.measured_of_mem_lines`: the length of a line is that of its characters
* `Layout.drawn_placeLine`: placing a measured line draws it
* `Layout.arrange_drawn`: so does an arrangement with every line that the clip leaves
-/
namespace Caption

open Scalar

/-! ## Pens -/

/-- The glyphs that a pen writes between two places: each stands where the pen is and moves it on
by the length of its character. -/
inductive Pen.Writes (position : PlacedGlyph Rat → Rat) (advance : Char → Rat) :
    Rat → List (PlacedGlyph Rat) → Rat → Prop
  | nothing (pen : Rat) : Writes position advance pen [] pen
  | glyph {pen stop : Rat} {g : PlacedGlyph Rat} {gs : List (PlacedGlyph Rat)}
      (here : position g = pen) (rest : Writes position advance (pen + advance g.char) gs stop) :
      Writes position advance pen (g :: gs) stop

namespace Placement

/-- Where a box starts in the direction of reading. -/
def origin (p : Placement) (box : Rect Rat) : Rat := if p.vertical then box.y else box.x

end Placement

namespace Layout

section Characters

variable {α : Type} [Scalar α] (f : Font α)

theorem chars_placeRun (baseline x : α) (s : List Char) :
    (placeRun f baseline x s).map PlacedGlyph.char = s := by
  induction s generalizing x with
  | nil => rfl
  | cons c s ih => exact congrArg (c :: ·) (ih _)

theorem chars_placeColumn (column top : α) (s : List Char) :
    (placeColumn f column top s).map PlacedGlyph.char = s := by
  rw [placeColumn, List.mapIdx_eq_zipIdx_map, List.map_map]
  exact List.zipIdx_map_fst 0 s

end Characters

variable {p : Placement} (f : Font Rat)

theorem writes_placeRun (hv : p.vertical = false) (baseline : Rat) (s : List Char) (x : Rat) :
    Pen.Writes (fun g => p.origin (g.cell f)) (f.flow false) x (placeRun f baseline x s)
      (x + measure (f.flow false) s) := by
  induction s generalizing x with
  | nil =>
    rw [measure_nil, add_zero]
    exact .nothing x
  | cons c s ih =>
    rw [measure_cons, ← add_assoc]
    exact .glyph (by simp [Placement.origin, PlacedGlyph.cell, hv]) (ih (x + f.advance c))

/-- The row of a cell may be counted from the cell before it. -/
theorem placeColumn_cons (column top : Rat) (c : Char) (s : List Char) :
    placeColumn f column top (c :: s) =
      ⟨f.glyph c, c, column + (f.lineHeight - f.advance c) / 2, top + f.ascent⟩ ::
        placeColumn f column (top + f.cellHeight) s := by
  unfold placeColumn
  rw [List.mapIdx_cons]
  congr 1
  · simp
  · congr 1
    funext row d
    congr 1
    simp only [ofInt_rat]
    push_cast
    ring

theorem writes_placeColumn (hv : p.vertical = true) (column : Rat) (s : List Char) (top : Rat) :
    Pen.Writes (fun g => p.origin (g.cell f)) (f.flow true) top (placeColumn f column top s)
      (top + measure (f.flow true) s) := by
  induction s generalizing top with
  | nil =>
    rw [measure_nil, add_zero]
    exact .nothing top
  | cons c s ih =>
    rw [measure_cons, ← add_assoc, placeColumn_cons]
    exact .glyph (by simp [Placement.origin, PlacedGlyph.cell, hv]) (ih (top + f.cellHeight))

end Layout

/-! ## Lines -/

namespace Font

variable (f : Font Rat) (vertical : Bool) (edge start length : Rat)

/-- The bar below a row or left of a column. -/
def underlineBar : Rect Rat :=
  let b := f.underline
  if vertical then ⟨edge, start, b.thickness, length⟩
  else ⟨start, edge + f.ascent + b.offset - b.thickness / 2, length, b.thickness⟩

/-- The bar through a row or a column. -/
def strikeoutBar : Rect Rat :=
  let b := f.strikeout
  if vertical then ⟨edge + (f.lineHeight - b.thickness) / 2, start, b.thickness, length⟩
  else ⟨start, edge + f.ascent - b.offset - b.thickness / 2, length, b.thickness⟩

/-- The bars that the style asks for, none for a line without a length. -/
def bars : List (Rect Rat) :=
  (if f.style.underline = true ∧ 0 < length then [f.underlineBar vertical edge start length]
    else []) ++
  (if f.style.strikeout = true ∧ 0 < length then [f.strikeoutBar vertical edge start length]
    else [])

variable {vertical edge start length}

theorem eq_of_mem_bars {bar : Rect Rat} (h : bar ∈ f.bars vertical edge start length) :
    bar = f.underlineBar vertical edge start length ∨
      bar = f.strikeoutBar vertical edge start length := by
  simp only [bars, List.mem_append, List.mem_ite_nil_right, List.mem_singleton] at h
  exact h.imp And.right And.right

theorem runBars_eq (baseline : Rat) (h : baseline = edge + f.ascent) :
    (if lt zero length then Layout.runBars f start baseline length else []) =
      f.bars false edge start length := by
  subst h
  by_cases hlength : 0 < length
  · simp [Layout.runBars, bars, underlineBar, strikeoutBar, hlength]
  · simp [bars, hlength]

theorem columnBars_eq :
    (if lt zero length then Layout.columnBars f edge start length else []) =
      f.bars true edge start length := by
  by_cases hlength : 0 < length
  · simp [Layout.columnBars, bars, underlineBar, strikeoutBar, hlength]
  · simp [bars, hlength]

end Font

/-- A line that is drawn from a start in the direction of reading and at an edge across it. -/
structure Line.Drawn (p : Placement) (f : Font Rat) (edge start : Rat) (line : Line Rat)
    (a : Arrangement Rat) : Prop where
  chars : a.glyphs.map PlacedGlyph.char = line.chars
  glyph_eq : ∀ g ∈ a.glyphs, g.glyph = f.glyph g.char
  /-- The cells follow each other over the line's length. -/
  pen : Pen.Writes (fun g => p.origin (g.cell f)) (f.flow p.vertical) start a.glyphs
    (start + line.advance)
  /-- A row has one baseline. -/
  baseline_eq : p.vertical = false → ∀ g ∈ a.glyphs, g.baseline = edge + f.ascent
  /-- There are only the bars of the style, and none in a line without a length. -/
  bars_eq : a.bars = f.bars p.vertical edge start line.advance
  /-- A bar runs over the line's length. -/
  bar_spans : ∀ bar ∈ a.bars, p.origin bar = start ∧ p.along bar = line.advance

namespace Layout

/-- Whether or not a text is wrapped, each line has the length of its characters. -/
theorem measured_of_mem_lines {cut : Segmenter} {st : State} {font : Option (Font Rat)}
    {l : Layout Rat} (hl : compute cut st font = .ok l) {line : Line Rat} (hmem : line ∈ l.lines) :
    ∃ f, l.font = some f ∧ line.advance = measure (f.flow st.vertical) line.chars := by
  rw [eq_onCanvas hl] at hmem ⊢
  simp only [onCanvas, usedLines] at hmem ⊢
  cases hfont : usedFont st font with
  | none => simp [hfont] at hmem
  | some f =>
    refine ⟨f, rfl, ?_⟩
    simp only [hfont, linesOf] at hmem
    split at hmem
    · obtain ⟨o, ho, rfl | rfl⟩ := grown_of_mem_breakLines hmem
      · exact ho.measured
      · rfl
    · obtain ⟨paragraph, -, hline⟩ := List.mem_flatMap.1 hmem
      obtain rfl := List.mem_singleton.1 hline
      rfl

variable {l : Layout Rat} {f : Font Rat} {line : Line Rat}

/-- A line is drawn as it was measured. -/
theorem drawn_placeLine (hline : line.advance = measure (f.flow l.placement.vertical) line.chars)
    (box : Rect Rat) (edge : Rat) :
    line.Drawn l.placement f edge
      (l.placement.origin box + l.placement.flowOffset (l.placement.along box) line.advance)
      (l.placeLine f box edge line) := by
  set start := l.placement.origin box + l.placement.flowOffset (l.placement.along box) line.advance
    with hstart
  have hspans : ∀ bar ∈ f.bars l.placement.vertical edge start line.advance,
      l.placement.origin bar = start ∧ l.placement.along bar = line.advance := by
    intro bar hbar
    cases hv : l.placement.vertical <;> rcases f.eq_of_mem_bars hbar with rfl | rfl <;>
      simp [Font.underlineBar, Font.strikeoutBar, Placement.origin, Placement.along, hv]
  cases hv : l.placement.vertical with
  | false =>
    have hplace : l.placeLine f box edge line = ⟨placeRun f (edge + f.ascent) start line.chars,
        f.bars l.placement.vertical edge start line.advance⟩ := by
      rw [hv, ← f.runBars_eq _ rfl, hstart]
      simp [placeLine, Placement.origin, Placement.along, hv]
    rw [hplace]
    have hwrites := writes_placeRun f hv (edge + f.ascent) line.chars start
    rw [← hv, ← hline] at hwrites
    refine ⟨chars_placeRun .., ?_, hwrites, fun _ => ?_, rfl, hspans⟩
    · intro g hg
      obtain ⟨pre, c, post, -, rfl⟩ := mem_placeRun.1 hg
      rfl
    · intro g hg
      obtain ⟨pre, c, post, -, rfl⟩ := mem_placeRun.1 hg
      rfl
  | true =>
    have hplace : l.placeLine f box edge line = ⟨placeColumn f edge start line.chars,
        f.bars l.placement.vertical edge start line.advance⟩ := by
      rw [hv, ← f.columnBars_eq, hstart]
      simp [placeLine, Placement.origin, Placement.along, hv]
    rw [hplace]
    have hwrites := writes_placeColumn f hv edge line.chars start
    rw [← hv, ← hline] at hwrites
    refine ⟨chars_placeColumn .., ?_, hwrites, by simp [hv], rfl, hspans⟩
    intro g hg
    obtain ⟨pre, c, post, -, rfl⟩ := mem_placeColumn.1 hg
    rfl

/-- An arrangement draws every line over its length, or leaves it out as the clip says. -/
theorem arrange_drawn {cut : Segmenter} {st : State} {font : Option (Font Rat)} {l : Layout Rat}
    (hl : compute cut st font = .ok l) (box : Rect Rat) :
    let p := l.placement
    ∃ parts : List (Arrangement Rat), l.arrange box = .concat parts ∧
      parts.length = l.lines.length ∧
      ∀ index line, l.lines[index]? = some line → ∃ f part, l.font = some f ∧
        parts[index]? = some part ∧
        let edge := l.lineEdge f box index
        if l.keepsSpan edge f.lineHeight then
          line.Drawn p f edge (p.origin box + p.flowOffset (p.along box) line.advance) part
        else part = .empty := by
  intro p
  cases hfont : l.font with
  | none =>
    have hlines : l.lines = [] := by
      refine List.eq_nil_iff_forall_not_mem.2 fun line hmem => ?_
      obtain ⟨f, hf, -⟩ := measured_of_mem_lines hl hmem
      exact Option.some_ne_none f (hf.symm.trans hfont)
    exact ⟨[], by simp [arrange, hfont, Arrangement.concat, Arrangement.empty], by simp [hlines],
      by simp [hlines]⟩
  | some f =>
    refine ⟨l.lines.mapIdx (l.arrangeLine f box), by simp [arrange, hfont], by simp, ?_⟩
    intro index line hline
    refine ⟨f, l.arrangeLine f box index line, rfl, by simp [hline], ?_⟩
    intro edge
    have hmeasured : line.advance = measure (f.flow st.vertical) line.chars := by
      obtain ⟨g, hg, hmeasured⟩ := measured_of_mem_lines hl (List.mem_of_getElem? hline)
      obtain rfl : g = f := Option.some.inj (hg.symm.trans hfont)
      exact hmeasured
    simp only [arrangeLine]
    split
    · refine drawn_placeLine ?_ box edge
      rw [hmeasured, placement_of_compute hl, Placement.vertical_ofState]
    · rfl

/-- Two letters on a line each, the second of them below the box. -/
def cutPair : State :=
  { State.initial with
    text := ['a', '\n', 'b']
    font := ⟨"Arial", 20, .plain⟩
    extents := true
    wrap := true
    extentsWidth := 40
    extentsHeight := 16 }

def underlinedFont : Font Rat := ⟨.plainBlock "Block", 20, { Style.plain with underline := true }⟩

/-- The first line is drawn from the corner of the box and the second is left out. -/
theorem arrange_drawn_cutPair :
    ∃ l parts first, compute .words cutPair (some underlinedFont) = .ok l ∧
      l.arrange l.drawBox = .concat parts ∧ parts[0]? = some first ∧ parts[1]? = some .empty ∧
      Line.Drawn l.placement underlinedFont 0 0 ⟨['a'], 10⟩ first := by
  let l : Layout Rat := onCanvas .words cutPair (some underlinedFont) ⟨40, 32⟩
  have hl : compute .words cutPair (some underlinedFont) = .ok l := by
    refine compute_eq_ok_iff.2 ⟨?_, rfl⟩
    rw [requestedEdges_of_fixed .words (some underlinedFont) rfl]
    rfl
  have hlines : l.lines = [⟨['a'], 10⟩, ⟨['b'], 10⟩] := by decide +kernel
  have hedges : l.lineEdge underlinedFont l.drawBox 0 = 0 ∧
      l.lineEdge underlinedFont l.drawBox 1 = 20 := by decide +kernel
  have hkeeps : l.keepsSpan 0 underlinedFont.lineHeight = true ∧
      l.keepsSpan 20 underlinedFont.lineHeight = false := by decide +kernel
  have hstart : l.placement.origin l.drawBox +
      l.placement.flowOffset (l.placement.along l.drawBox) 10 = 0 := by decide +kernel
  obtain ⟨parts, harrange, -, hdrawn⟩ := arrange_drawn hl l.drawBox
  obtain ⟨f, first, hf, hfirst, hdraw⟩ := hdrawn 0 ⟨['a'], 10⟩ (by rw [hlines]; rfl)
  obtain ⟨f', second, hf', hsecond, hempty⟩ := hdrawn 1 ⟨['b'], 10⟩ (by rw [hlines]; rfl)
  obtain rfl : underlinedFont = f := Option.some.inj hf
  obtain rfl : underlinedFont = f' := Option.some.inj hf'
  dsimp only at hdraw hempty
  rw [hedges.1, hkeeps.1, if_pos rfl, hstart] at hdraw
  rw [hedges.2, hkeeps.2, if_neg Bool.false_ne_true] at hempty
  exact ⟨l, parts, first, hl, harrange, hfirst, hempty ▸ hsecond, hdraw⟩

end Layout

end Caption
