import Caption.Layout.Arrangement
import Caption.Proofs.Layout.Measure

/-!
# Where glyphs are

Text in an exact layout is placed in two directions on its own: along a line, where a character
stands behind those before it, and across the block of lines, where the line's index decides.
Which of the two is the horizontal one makes no difference.

## Main definitions

* `PlacedGlyph.cell`: what a glyph takes up
* `Font.cellStart`, `Font.cellEnd`: where a cell lies across a block of lines
* `Layout.glyphAt`: the glyph of a character in a line

## Main statements

* `Font.Regular.cellStart_nonneg`, `Font.Regular.cellEnd_le`: cells lie within their block
* `Layout.mem_arrange_iff`: the glyphs of an arrangement without a clip
-/
namespace Caption

open Scalar

/-! ## Offsets -/

namespace Anchor

theorem offset_nonneg (a : Anchor) {available used : Rat} (h : used ≤ available) :
    0 ≤ a.offset available used := by
  cases a <;> simp only [offset, zero_rat, half_rat] <;> linarith

theorem offset_add_le (a : Anchor) {available used : Rat} (h : used ≤ available) :
    a.offset available used + used ≤ available := by
  cases a <;> simp only [offset, zero_rat, half_rat] <;> linarith

/-- A run that fills its space up to some slack stays at the near side only as `near`. -/
theorem offset_slack_le_zero {a : Anchor} {used slack : Rat} (hslack : 0 < slack)
    (h : a.offset (used + slack) used ≤ 0) : a = near := by
  cases a with
  | near => rfl
  | center =>
    simp only [offset, half_rat] at h
    linarith
  | far =>
    simp only [offset] at h
    linarith

end Anchor

namespace Placement

/-- Where the left or top edge of the block of lines stands. -/
def blockAnchor (p : Placement) : Anchor := if p.vertical then p.across.reversed else p.across

theorem acrossOffset_eq (p : Placement) (available used : Rat) :
    p.acrossOffset available used = p.blockAnchor.offset available used := by
  unfold acrossOffset blockAnchor
  split <;> rfl

/-- Both anchors are near for the left and the top, whatever the direction. -/
theorem near_iff (st : State) :
    (ofState st).flow = .near ∧ (ofState st).blockAnchor = .near ↔
      st.align = .left ∧ st.valign = .top := by
  unfold ofState ofAligns blockAnchor
  cases st.vertical <;> cases st.align <;> cases st.valign <;> decide

end Placement

/-! ## Cells -/

/-- From ascent to descent over the advance. -/
def PlacedGlyph.cell (font : Font Rat) (g : PlacedGlyph Rat) : Rect Rat :=
  ⟨g.x, g.baseline - font.ascent, font.advance g.char, font.ascent + font.descent⟩

namespace Font

/-- Where a cell starts across a block of lines. Columns go from right to left, and a cell stands
in the middle of its column. -/
def cellStart (f : Font Rat) (vertical : Bool) (count index : Nat) (c : Char) : Rat :=
  if vertical then
    f.lineHeight * count - f.lineHeight * (index + 1) + (f.lineHeight - f.advance c) / 2
  else f.lineHeight * index

/-- Where a cell ends across a block of lines. -/
def cellEnd (f : Font Rat) (vertical : Bool) (count index : Nat) (c : Char) : Rat :=
  f.cellStart vertical count index c + if vertical then f.advance c else f.cellHeight

namespace Regular

variable {f : Font Rat} {vertical : Bool} {count index : Nat}

theorem line_end_le (h : f.Regular vertical) (hindex : index < count) :
    f.lineHeight * (index + 1) ≤ f.lineHeight * count := by
  have hle : (index + 1 : Rat) ≤ count := by exact_mod_cast hindex
  exact mul_le_mul_of_nonneg_left hle h.lineHeight_pos.le

theorem cellStart_nonneg (h : f.Regular vertical) (hindex : index < count) (c : Char) :
    0 ≤ f.cellStart vertical count index c := by
  have hend := h.line_end_le hindex
  cases vertical with
  | false => exact mul_nonneg h.lineHeight_pos.le index.cast_nonneg
  | true =>
    have hadvance := h.advance_le rfl c
    simp only [cellStart, if_true]
    linarith

theorem cellEnd_le (h : f.Regular vertical) (hindex : index < count) (c : Char) :
    f.cellEnd vertical count index c ≤ f.lineHeight * count := by
  have hend := h.line_end_le hindex
  cases vertical with
  | false =>
    have hcell := h.cellHeight_le_lineHeight
    simp only [cellEnd, cellStart, Bool.false_eq_true, if_false]
    linarith
  | true =>
    have hadvance := h.advance_le rfl c
    have hindex0 : 0 ≤ f.lineHeight * index := mul_nonneg h.lineHeight_pos.le index.cast_nonneg
    simp only [cellEnd, cellStart, if_true]
    linarith

end Regular

end Font

/-! ## Where glyphs are -/

namespace Layout

theorem mem_placeRun {font : Font Rat} {baseline x : Rat} {s : List Char} {g : PlacedGlyph Rat} :
    g ∈ placeRun font baseline x s ↔ ∃ pre c post, s = pre ++ c :: post ∧
      g = ⟨font.glyph c, c, x + measure font.advance pre, baseline⟩ := by
  induction s generalizing x with
  | nil => simp [placeRun]
  | cons d s ih =>
    rw [placeRun, List.mem_cons, ih]
    constructor
    · rintro (rfl | ⟨pre, c, post, rfl, rfl⟩)
      · exact ⟨[], d, s, rfl, by simp⟩
      · exact ⟨d :: pre, c, post, rfl, by rw [measure_cons, ← add_assoc]⟩
    · rintro ⟨pre, c, post, hs, rfl⟩
      cases pre with
      | nil =>
        obtain ⟨rfl, rfl⟩ := List.cons.inj hs
        exact .inl (by simp)
      | cons e pre =>
        obtain ⟨rfl, rfl⟩ := List.cons.inj hs
        exact .inr ⟨pre, c, post, rfl, by rw [measure_cons, ← add_assoc]⟩

theorem mem_mapIdx_iff_append {β γ : Type} {f : Nat → β → γ} {l : List β} {b : γ} :
    b ∈ l.mapIdx f ↔ ∃ pre a post, l = pre ++ a :: post ∧ b = f pre.length a := by
  rw [List.mem_mapIdx]
  constructor
  · rintro ⟨i, hi, rfl⟩
    refine ⟨l.take i, l[i], l.drop (i + 1), ?_, ?_⟩
    · rw [List.getElem_cons_drop, List.take_append_drop]
    · rw [List.length_take, Nat.min_eq_left (Nat.le_of_lt hi)]
  · rintro ⟨pre, a, post, rfl, rfl⟩
    exact ⟨pre.length, by simp, by simp⟩

theorem mem_placeColumn {font : Font Rat} {column top : Rat} {s : List Char}
    {g : PlacedGlyph Rat} :
    g ∈ placeColumn font column top s ↔ ∃ pre c post, s = pre ++ c :: post ∧
      g = ⟨font.glyph c, c, column + (font.lineHeight - font.advance c) / 2,
        top + measure (fun _ => font.cellHeight) pre + font.ascent⟩ := by
  simp only [placeColumn, mem_mapIdx_iff_append, measure_const]
  rfl

variable (l : Layout Rat) (font : Font Rat) (box : Rect Rat)

/-- Where a character after others in a line starts along the box. -/
def startAlong (line : Line Rat) (pre : List Char) : Rat :=
  l.placement.flowOffset (l.placement.along box) line.advance +
    measure (font.flow l.placement.vertical) pre

/-- Where a character in the line of an index starts across the box. -/
def startBeside (index : Nat) (c : Char) : Rat :=
  l.placement.acrossOffset (l.placement.beside box) (font.lineHeight * l.lines.length) +
    font.cellStart l.placement.vertical l.lines.length index c

/-- The glyph of a character after others in the line of an index. -/
def glyphAt (index : Nat) (line : Line Rat) (pre : List Char) (c : Char) : PlacedGlyph Rat :=
  let along := l.startAlong font box line pre
  let beside := l.startBeside font box index c
  if l.placement.vertical then
    ⟨font.glyph c, c, box.x + beside, box.y + along + font.ascent⟩
  else ⟨font.glyph c, c, box.x + along, box.y + beside + font.ascent⟩

theorem lineEdge_row (hv : l.placement.vertical = false) (index : Nat) (c : Char) :
    l.lineEdge font box index = box.y + l.startBeside font box index c := by
  simp only [lineEdge, startBeside, Placement.beside, Font.cellStart, hv, ← add_assoc]
  rfl

theorem lineEdge_column (hv : l.placement.vertical = true) (index : Nat) (c : Char) :
    l.lineEdge font box index + (font.lineHeight - font.advance c) / 2 =
      box.x + l.startBeside font box index c := by
  have hedge : l.lineEdge font box index =
      box.x + l.placement.acrossOffset box.width (font.lineHeight * l.lines.length) +
        font.lineHeight * l.lines.length - font.lineHeight * (index + 1) := by
    simp only [lineEdge, hv, ofInt_rat]
    push_cast
    rfl
  simp only [hedge, startBeside, Placement.beside, Font.cellStart, hv, if_true]
  ring

/-- The glyphs of a line are those of its characters. -/
theorem mem_placeLine_iff (index : Nat) (line : Line Rat) (g : PlacedGlyph Rat) :
    g ∈ (l.placeLine font box (l.lineEdge font box index) line).glyphs ↔
      ∃ pre c post, line.chars = pre ++ c :: post ∧ g = l.glyphAt font box index line pre c := by
  cases hv : l.placement.vertical with
  | false =>
    have hglyphs : (l.placeLine font box (l.lineEdge font box index) line).glyphs =
        placeRun font (l.lineEdge font box index + font.ascent)
          (box.x + l.placement.flowOffset box.width line.advance) line.chars := by
      simp only [placeLine, hv]
      rfl
    rw [hglyphs, mem_placeRun]
    refine exists_congr fun pre => exists_congr fun c => exists_congr fun post =>
      and_congr_right fun _ => ?_
    rw [lineEdge_row l font box hv index c, add_assoc]
    simp only [glyphAt, startAlong, Placement.along, hv]
    rfl
  | true =>
    have hglyphs : (l.placeLine font box (l.lineEdge font box index) line).glyphs =
        placeColumn font (l.lineEdge font box index)
          (box.y + l.placement.flowOffset box.height line.advance) line.chars := by
      simp only [placeLine, hv]
      rfl
    rw [hglyphs, mem_placeColumn]
    refine exists_congr fun pre => exists_congr fun c => exists_congr fun post =>
      and_congr_right fun _ => ?_
    rw [lineEdge_column l font box hv index c, add_assoc box.y]
    simp only [glyphAt, startAlong, Placement.along, hv]
    rfl

variable {l font} {box}

theorem cell_glyphAt_row (hv : l.placement.vertical = false) (index : Nat) (line : Line Rat)
    (pre : List Char) (c : Char) :
    (l.glyphAt font box index line pre c).cell font =
      ⟨box.x + l.startAlong font box line pre, box.y + l.startBeside font box index c,
        font.advance c, font.cellHeight⟩ := by
  simp only [glyphAt, PlacedGlyph.cell, hv, Bool.false_eq_true, if_false, add_sub_cancel_right]
  rfl

theorem cell_glyphAt_column (hv : l.placement.vertical = true) (index : Nat) (line : Line Rat)
    (pre : List Char) (c : Char) :
    (l.glyphAt font box index line pre c).cell font =
      ⟨box.x + l.startBeside font box index c, box.y + l.startAlong font box line pre,
        font.advance c, font.cellHeight⟩ := by
  simp only [glyphAt, PlacedGlyph.cell, hv, if_true, add_sub_cancel_right]
  rfl

/-- Without a clip the glyphs are those of all characters. -/
theorem mem_arrange_iff (hfont : l.font = some font) (hclip : l.clip = none) (box : Rect Rat)
    (g : PlacedGlyph Rat) :
    g ∈ (l.arrange box).glyphs ↔ ∃ index line pre c post, l.lines[index]? = some line ∧
      line.chars = pre ++ c :: post ∧ g = l.glyphAt font box index line pre c := by
  have hline (index : Nat) (line : Line Rat) : l.arrangeLine font box index line =
      l.placeLine font box (l.lineEdge font box index) line := by
    simp [arrangeLine, keepsSpan, hclip]
  simp only [arrange, hfont, Arrangement.concat, List.mem_flatMap, List.mem_mapIdx, hline]
  constructor
  · rintro ⟨-, ⟨index, hindex, rfl⟩, hg⟩
    obtain ⟨pre, c, post, hchars, rfl⟩ := (mem_placeLine_iff l font _ _ _ g).1 hg
    exact ⟨index, _, pre, c, post, List.getElem?_eq_getElem hindex, hchars, rfl⟩
  · rintro ⟨index, line, pre, c, post, hindex, hchars, rfl⟩
    obtain ⟨hlt, rfl⟩ := List.getElem?_eq_some_iff.1 hindex
    exact ⟨_, ⟨index, hlt, rfl⟩,
      (mem_placeLine_iff l font _ _ _ _).2 ⟨pre, c, post, hchars, rfl⟩⟩

end Layout

end Caption
