import Mathlib.Tactic.LinearCombination
import Caption.Proofs.Layout.Containment

/-!
# Wrapped text in a fixed box

Wrapped text is placed twice: the block of lines is aligned in the box that the extents leave
beside the outline and cut to it, and every line is aligned again in what was cut. Both together
come to aligning every line straight in the box, whatever of the text fits, because a block that
is too long is cut to the whole box and one that is not loses nothing.

## Main definitions

* `Layout.lineAt`: what is drawn of a line from its corner
* `Layout.directCorner`: the corner of a line that is aligned straight in the box

## Main statements

* `placeInBox_eq`: a block that is aligned and cut is the cut block aligned
* `Layout.corner_drawBox`: the corner of a line in the draw box is the direct one
* `Layout.arrange_wrapped`: wrapped text is drawn from the direct corners
-/
namespace Caption

open Scalar

theorem Scalar.smaller_rat (a b : Rat) : smaller a b = min a b := (min_def a b).symm

/-! ## One direction -/

namespace Anchor

variable (a : Anchor) {available used : Rat}

/-- A run that is aligned in a run is aligned with it. -/
theorem offset_add_offset (available used inner : Rat) :
    a.offset available used + a.offset used inner = a.offset available inner := by
  cases a <;> simp only [offset, zero_rat, half_rat] <;> ring

/-- What is too long starts where the space does. -/
theorem max_offset (available used : Rat) :
    max (a.offset available used) 0 = a.offset available (min used available) := by
  rcases le_total used available with h | h
  · rw [min_eq_left h, max_eq_left (offset_nonneg a h)]
  · rw [min_eq_right h]
    cases a <;> simp only [offset, zero_rat, half_rat, sub_self, zero_div, max_self]
    · exact max_eq_right (by linarith)
    · exact max_eq_right (by linarith)

/-- What lies within the space is as long as the shorter of the two. -/
theorem cut_offset (hused : 0 ≤ used) (havailable : 0 ≤ available) :
    max (min (a.offset available used + used) available -
      a.offset available (min used available)) 0 = min used available := by
  rcases le_total used available with h | h
  · have hend := offset_add_le a h
    rw [min_eq_left h, min_eq_left hend, add_sub_cancel_left, max_eq_left hused]
  · have hend : available ≤ a.offset available used + used := by
      cases a <;> simp only [offset, zero_rat, half_rat] <;> linarith
    have hstart : a.offset available available = 0 := by cases a <;> simp [offset]
    rw [min_eq_right h, min_eq_right hend, hstart, sub_zero, max_eq_left havailable]

end Anchor

/-! ## The block -/

/-- Aligning a block and cutting it to the box is aligning what the cut leaves. -/
theorem placeInBox_eq (p : Placement) (size box : Size Rat) (hwidth : 0 ≤ size.width)
    (hheight : 0 ≤ size.height) (hbox : 0 ≤ box.width) (hbox' : 0 ≤ box.height) :
    placeInBox p size box =
      let width := min size.width box.width
      let height := min size.height box.height
      if p.vertical then
        ⟨p.acrossOffset box.width width, p.flowOffset box.height height, width, height⟩
      else ⟨p.flowOffset box.width width, p.acrossOffset box.height height, width, height⟩ := by
  unfold placeInBox
  simp only [Placement.acrossOffset_eq, Placement.flowOffset, larger_rat, smaller_rat, zero_rat]
  cases p.vertical <;>
    simp [Anchor.max_offset, Anchor.cut_offset, hwidth, hheight, hbox, hbox']

theorem longest_nonneg (lines : List (Line Rat)) : 0 ≤ longest lines := by
  induction lines using List.reverseRecOn with
  | nil => exact le_rfl
  | append_singleton lines line ih =>
    rw [longest_concat]
    exact le_max_of_le_left ih

theorem blockSize_nonneg {font : Font Rat} (h : 0 ≤ font.lineHeight) (vertical : Bool)
    (lines : List (Line Rat)) :
    0 ≤ (blockSize font vertical lines).width ∧ 0 ≤ (blockSize font vertical lines).height := by
  have hacross : 0 ≤ font.lineHeight * lines.length := mul_nonneg h (Nat.cast_nonneg _)
  cases vertical with
  | false => exact ⟨longest_nonneg lines, hacross⟩
  | true => exact ⟨hacross, longest_nonneg lines⟩

namespace Layout

variable {cut : Segmenter} {st : State} {font : Font Rat} {l : Layout Rat}

theorem wrapBox_nonneg (st : State) :
    0 ≤ (wrapBox st : Size Rat).width ∧ 0 ≤ (wrapBox st : Size Rat).height := by
  simp [wrapBox]

/-- A box that is no smaller than the font across the lines is not raised. -/
theorem measureBox_of_le {box : Rect Rat}
    (h : (st.font.size.toInt : Rat) ≤ (Placement.ofState st).beside box) :
    (measureBox st box).1 = box := by
  unfold Placement.beside at h
  rw [Placement.vertical_ofState] at h
  cases hv : st.vertical with
  | false =>
    rw [hv, if_neg Bool.false_ne_true] at h
    simp [measureBox, hv, floorToSize_fst, max_eq_left h]
  | true =>
    rw [hv, if_pos rfl] at h
    simp [measureBox, hv, floorToSize_fst, max_eq_left h]

/-- Where the block of lines is placed. -/
def blockBox (cut : Segmenter) (st : State) (font : Font Rat) : Rect Rat :=
  placeInBox (.ofState st) (blockSize font st.vertical (linesOf cut st font)) (wrapBox st)

theorem boundingBox_fixed (hl : compute cut st (some font) = .ok l) (h : isFixed st = true)
    (ht : st.text ≠ [])
    (hfloor : (st.font.size.toInt : Rat) ≤ (Placement.ofState st).beside (blockBox cut st font)) :
    l.boundingBox = blockBox cut st font := by
  have hbox : contentBox cut st (some font) = blockBox cut st font := by
    simp [contentBox, usedFont, ht, boxOf, blockBox, h]
  rw [boundingBox_of_compute hl, measuredBox, hbox, measureBox_of_le hfloor]

/-! ## Lines -/

/-- What is drawn of a line from its corner at the left and the top. -/
def lineAt (font : Font Rat) (vertical : Bool) (corner : Rat × Rat) (line : Line Rat) :
    Arrangement Rat :=
  if vertical then
    { glyphs := placeColumn font corner.1 corner.2 line.chars
      bars := if 0 < line.advance then columnBars font corner.1 corner.2 line.advance else [] }
  else
    { glyphs := placeRun font (corner.2 + font.ascent) corner.1 line.chars
      bars := if 0 < line.advance then
          runBars font corner.1 (corner.2 + font.ascent) line.advance
        else [] }

/-- The corner of a line that is aligned in a box. -/
def corner (l : Layout Rat) (font : Font Rat) (box : Rect Rat) (index : Nat) (line : Line Rat) :
    Rat × Rat :=
  if l.placement.vertical then
    (l.lineEdge font box index, box.y + l.placement.flowOffset box.height line.advance)
  else (box.x + l.placement.flowOffset box.width line.advance, l.lineEdge font box index)

theorem placeLine_eq (l : Layout Rat) (font : Font Rat) (box : Rect Rat) (index : Nat)
    (line : Line Rat) :
    l.placeLine font box (l.lineEdge font box index) line =
      lineAt font l.placement.vertical (l.corner font box index line) line := by
  unfold placeLine lineAt corner
  cases l.placement.vertical <;> simp

/-- The corner of a line that is aligned straight in the box that the extents leave beside the
outline. Columns are counted from the right. -/
def directCorner (st : State) (font : Font Rat) (count index : Nat) (line : Line Rat) :
    Rat × Rat :=
  let p := Placement.ofState st
  let before := insetOf st / 2
  if st.vertical then
    (before + p.across.reversed.offset (wrapBox st).width (count * font.lineHeight) +
        (count - 1 - index) * font.lineHeight,
      before + p.flow.offset (wrapBox st).height line.advance)
  else
    (before + p.flow.offset (wrapBox st).width line.advance,
      before + p.across.offset (wrapBox st).height (count * font.lineHeight) +
        index * font.lineHeight)

/-- Both stages together align a line straight in the box. -/
theorem corner_drawBox (hl : compute cut st (some font) = .ok l) (h : isFixed st = true)
    (ht : st.text ≠ []) (hheight : 0 ≤ font.lineHeight)
    (hfloor : (st.font.size.toInt : Rat) ≤ (Placement.ofState st).beside (blockBox cut st font))
    (index : Nat) (line : Line Rat) :
    l.corner font l.drawBox index line = directCorner st font l.lines.length index line := by
  obtain ⟨hwidth, hheight'⟩ := blockSize_nonneg hheight st.vertical (linesOf cut st font)
  obtain ⟨hbox, hbox'⟩ := wrapBox_nonneg st
  have hplaced : blockBox cut st font = _ := placeInBox_eq _ _ _ hwidth hheight' hbox hbox'
  have hlines : l.lines = linesOf cut st font := linesOf_of_compute hl ht
  have hdraw : l.drawBox = (blockBox cut st font).translate (insetOf st / 2) (insetOf st / 2) := by
    rw [drawBox_of_compute hl, boundingBox_fixed hl h ht hfloor]
  have hp : l.placement = .ofState st := placement_of_compute hl
  have hcount := mul_comm font.lineHeight (linesOf cut st font).length
  cases hv : st.vertical with
  | false =>
    have hflow := (Placement.ofState st).flow.offset_add_offset (wrapBox st).width
      (min (longest (linesOf cut st font)) (wrapBox st).width) line.advance
    have hacross := (Placement.ofState st).across.offset_add_offset (wrapBox st).height
      (min (font.lineHeight * (linesOf cut st font).length) (wrapBox st).height)
      (font.lineHeight * (linesOf cut st font).length)
    simp only [corner, lineEdge, directCorner, hdraw, hplaced, blockSize, hlines, hp,
      Rect.translate, Placement.vertical_ofState, Placement.flowOffset, Placement.acrossOffset, hv,
      ofInt_rat, Bool.false_eq_true, if_false, Int.cast_natCast, ← hcount]
    exact Prod.ext (by linear_combination hflow) (by linear_combination hacross)
  | true =>
    have hflow := (Placement.ofState st).flow.offset_add_offset (wrapBox st).height
      (min (longest (linesOf cut st font)) (wrapBox st).height) line.advance
    have hacross := (Placement.ofState st).across.reversed.offset_add_offset (wrapBox st).width
      (min (font.lineHeight * (linesOf cut st font).length) (wrapBox st).width)
      (font.lineHeight * (linesOf cut st font).length)
    simp only [corner, lineEdge, directCorner, hdraw, hplaced, blockSize, hlines, hp,
      Rect.translate, Placement.vertical_ofState, Placement.flowOffset, Placement.acrossOffset, hv,
      ofInt_rat, if_true, Int.cast_natCast, ← hcount]
    push_cast
    exact Prod.ext (by linear_combination hacross) (by linear_combination hflow)

/-- Wrapped text in a box that fixes its canvas has a layout, and every line of it that is drawn is
where it is when it is aligned straight in the box that the extents leave beside the outline,
whether or not the text fits. -/
theorem arrange_wrapped (cut : Segmenter) (h : isFixed st = true) (ht : st.text ≠ [])
    (hheight : 0 ≤ font.lineHeight)
    (hfloor : (st.font.size.toInt : Rat) ≤ (Placement.ofState st).beside (blockBox cut st font)) :
    ∃ l, compute cut st (some font) = .ok l ∧
      l.arrange l.drawBox = .concat (l.lines.mapIdx fun index line =>
        let corner := directCorner st font l.lines.length index line
        if l.keepsSpan (if st.vertical then corner.1 else corner.2) font.lineHeight then
          lineAt font st.vertical corner line
        else .empty) := by
  obtain ⟨l, hl⟩ := exists_compute_of_fixed cut (some font) h
  have hfont : l.font = some font := font_of_compute hl ht
  have hvertical : l.placement.vertical = st.vertical := by
    rw [placement_of_compute hl, Placement.vertical_ofState]
  have hline (index : Nat) (line : Line Rat) : l.arrangeLine font l.drawBox index line =
      let corner := directCorner st font l.lines.length index line
      if l.keepsSpan (if st.vertical then corner.1 else corner.2) font.lineHeight then
        lineAt font st.vertical corner line
      else .empty := by
    have hcorner := corner_drawBox hl h ht hheight hfloor index line
    have hedge : l.lineEdge font l.drawBox index =
        if st.vertical then (l.corner font l.drawBox index line).1
        else (l.corner font l.drawBox index line).2 := by
      unfold corner
      rw [hvertical]
      cases st.vertical <;> rfl
    rw [arrangeLine, placeLine_eq, hedge, hcorner, hvertical]
  have hlines : l.arrangeLine font l.drawBox = _ := funext fun index => funext (hline index)
  refine ⟨l, hl, ?_⟩
  simp only [arrange, hfont, hlines]

/-- Two lines, each too long for its box and together too high. -/
def overflowing : State :=
  { State.initial with
    text := ['a', 'b']
    font := ⟨"Arial", 20, .plain⟩
    outline := true
    outlineSize := 4
    align := .right
    valign := .center
    extents := true
    wrap := true
    extentsWidth := 9
    extentsHeight := 34 }

/-- Both lines end at the right side of the box and stand out of it at the other sides. -/
theorem arrange_wrapped_overflowing :
    isFixed overflowing = true ∧ overflowing.text ≠ [] ∧ 0 ≤ plainFont.lineHeight ∧
      (overflowing.font.size.toInt : Rat) ≤
        (Placement.ofState overflowing).beside (blockBox .words overflowing plainFont) ∧
      ∃ l, compute .words overflowing (some plainFont) = .ok l ∧ l.drawBox = ⟨2, 2, 5, 30⟩ ∧
        l.arrange l.drawBox = .concat [lineAt plainFont false (-3, -3) ⟨['a'], 10⟩,
          lineAt plainFont false (-3, 17) ⟨['b'], 10⟩] := by
  have hheight : 0 ≤ plainFont.lineHeight := by decide +kernel
  have hfloor : (overflowing.font.size.toInt : Rat) ≤
      (Placement.ofState overflowing).beside (blockBox .words overflowing plainFont) := by
    decide +kernel
  obtain ⟨l, hl, harrange⟩ := arrange_wrapped .words rfl (by decide) hheight hfloor
  have hcanvas : l.canvas = ⟨32, 34⟩ := (Except.ok.inj (canvas_of_fixed rfl hl)).symm
  have hlayout := eq_onCanvas hl
  rw [hcanvas] at hlayout
  subst hlayout
  exact ⟨rfl, by decide, hheight, hfloor, _, hl, by decide +kernel,
    harrange.trans (by decide +kernel)⟩

end Layout

end Caption
