import Caption.Proofs.Layout.Cells

/-!
# What the box holds

The box of a text that is not wrapped is measured for the text with its outline, half of which
is to stand before the text and half after it. But the text is aligned in the whole of that box
once it has been moved by half of the outline, so whatever is not at the near side is moved out
of the far side again.

## Main definitions

* `Rect.Holds`: a rectangle within another
* `Layout.HoldsText`: the box holds every cell and the outline around it
* `Layout.LeavesRoom`: what that comes to under an outline

## Main statements

* `Layout.holds_glyphAt_iff`: when the box holds one glyph
* `Layout.holdsText_iff`: when a box holds its text
* `Layout.exists_compute_of_short`: a box that is not too long has a layout
* `Layout.holdsText_always_iff`: when boxes hold every text in every font
* `Layout.outlined_text_held_iff`: both together
-/
namespace Caption

open Scalar

/-! ## Rectangles in rectangles -/

namespace Rect

structure Holds (outer inner : Rect Rat) : Prop where
  left : outer.x ≤ inner.x
  top : outer.y ≤ inner.y
  right : inner.right ≤ outer.right
  bottom : inner.bottom ≤ outer.bottom

/-- A rectangle with all four sides moved outwards. -/
def grow (r : Rect Rat) (d : Rat) : Rect Rat :=
  ⟨r.x - d, r.y - d, r.width + 2 * d, r.height + 2 * d⟩

/-- A rectangle that is moved as far as it is grown can only leave a box at the far sides. -/
theorem holds_grow_iff (box : Rect Rat) {x y : Rat} (hx : 0 ≤ x) (hy : 0 ≤ y) (w h d : Rat) :
    box.Holds (grow ⟨box.x + d + x, box.y + d + y, w, h⟩ d) ↔
      x + w + 2 * d ≤ box.width ∧ y + h + 2 * d ≤ box.height := by
  constructor
  · rintro ⟨-, -, hr, hb⟩
    change box.x + d + x - d + (w + 2 * d) ≤ box.x + box.width at hr
    change box.y + d + y - d + (h + 2 * d) ≤ box.y + box.height at hb
    exact ⟨by linarith, by linarith⟩
  · rintro ⟨hr, hb⟩
    refine ⟨?_, ?_, ?_, ?_⟩
    · change box.x ≤ box.x + d + x - d
      linarith
    · change box.y ≤ box.y + d + y - d
      linarith
    · change box.x + d + x - d + (w + 2 * d) ≤ box.x + box.width
      linarith
    · change box.y + d + y - d + (h + 2 * d) ≤ box.y + box.height
      linarith

end Rect

namespace Layout

variable {cut : Segmenter} {st : State} {font : Font Rat} {l : Layout Rat}

/-! ## The box of a text -/

/-- The box of a layout holds the cell of every glyph with half of the outline around it. -/
def HoldsText (st : State) (font : Font Rat) (l : Layout Rat) : Prop :=
  ∀ g ∈ (l.arrange l.drawBox).glyphs, l.boundingBox.Holds ((g.cell font).grow (insetOf st / 2))

/-- All lines start at the near side, and each cell leaves the outline room at the far side
across the lines. -/
def LeavesRoom (st : State) (font : Font Rat) (l : Layout Rat) : Prop :=
  let extent := l.placement.beside l.boundingBox
  ∀ index line c, l.lines[index]? = some line → c ∈ line.chars →
    l.placement.flow = .near ∧
      l.placement.acrossOffset extent (font.lineHeight * l.lines.length) +
        font.cellEnd st.vertical l.lines.length index c + insetOf st ≤ extent

section Text

variable (hl : compute cut st (some font) = .ok l) (h : isFixed st = false) (ht : st.text ≠ [])
  (hfont : font.Regular st.vertical)
include hl h ht

theorem block_le_beside :
    font.lineHeight * l.lines.length + insetOf st ≤
      (Placement.ofState st).beside l.boundingBox := by
  rw [beside_boundingBox hl h ht]
  exact le_max_left _ _

include hfont

theorem startAlong_nonneg {line : Line Rat} (hmem : line ∈ l.lines) (pre : List Char) :
    0 ≤ l.startAlong font l.boundingBox line pre := by
  have hlongest := advance_le_longest hmem
  have hinset := insetOf_nonneg st
  refine add_nonneg (Anchor.offset_nonneg _ ?_) (measure_nonneg ?_ pre)
  · rw [placement_of_compute hl, along_boundingBox hl h ht]
    linarith
  · rw [placement_of_compute hl, Placement.vertical_ofState]
    exact hfont.flow_nonneg

theorem startBeside_nonneg {index : Nat} (hindex : index < l.lines.length) (c : Char) :
    0 ≤ l.startBeside font l.boundingBox index c := by
  have hblock := block_le_beside hl h ht
  have hinset := insetOf_nonneg st
  refine add_nonneg ?_ ?_
  · rw [placement_of_compute hl, Placement.acrossOffset_eq]
    exact Anchor.offset_nonneg _ (by linarith)
  · rw [placement_of_compute hl, Placement.vertical_ofState]
    exact hfont.cellStart_nonneg hindex c

/-- A glyph with its outline is in the box when it ends in time in both directions. -/
theorem holds_glyphAt_iff {index : Nat} {line : Line Rat} (hline : l.lines[index]? = some line)
    (pre : List Char) (c : Char) :
    l.boundingBox.Holds
        (((l.glyphAt font l.drawBox index line pre c).cell font).grow (insetOf st / 2)) ↔
      l.startAlong font l.boundingBox line pre + font.flow st.vertical c + insetOf st ≤
          l.placement.along l.boundingBox ∧
        l.placement.acrossOffset (l.placement.beside l.boundingBox)
            (font.lineHeight * l.lines.length) +
          font.cellEnd st.vertical l.lines.length index c + insetOf st ≤
            l.placement.beside l.boundingBox := by
  have hindex : index < l.lines.length := (List.getElem?_eq_some_iff.1 hline).1
  have halong : 0 ≤ l.startAlong font l.boundingBox line pre :=
    startAlong_nonneg hl h ht hfont (List.mem_of_getElem? hline) pre
  have hbeside : 0 ≤ l.startBeside font l.boundingBox index c :=
    startBeside_nonneg hl h ht hfont hindex c
  have htwice : 2 * (insetOf st / 2 : Rat) = insetOf st := by ring
  have hv : l.placement.vertical = st.vertical := by
    rw [placement_of_compute hl, Placement.vertical_ofState]
  -- The sides of the box change places with the direction, so it is fixed before they are read.
  cases hst : st.vertical with
  | false =>
    rw [hst] at hv
    have hcell : (l.glyphAt font l.drawBox index line pre c).cell font =
        ⟨l.boundingBox.x + insetOf st / 2 + l.startAlong font l.boundingBox line pre,
          l.boundingBox.y + insetOf st / 2 + l.startBeside font l.boundingBox index c,
          font.flow false c, font.cellHeight⟩ := by
      rw [cell_glyphAt_row hv, drawBox_of_compute hl]
      rfl
    rw [hcell, Rect.holds_grow_iff _ halong hbeside, htwice]
    simp only [Placement.along, Placement.beside, startBeside, Font.cellEnd, hv, add_assoc,
      Bool.false_eq_true, if_false]
  | true =>
    rw [hst] at hv
    have hcell : (l.glyphAt font l.drawBox index line pre c).cell font =
        ⟨l.boundingBox.x + insetOf st / 2 + l.startBeside font l.boundingBox index c,
          l.boundingBox.y + insetOf st / 2 + l.startAlong font l.boundingBox line pre,
          font.advance c, font.flow true c⟩ := by
      rw [cell_glyphAt_column hv, drawBox_of_compute hl]
      rfl
    rw [hcell, Rect.holds_grow_iff _ hbeside halong, htwice, and_comm]
    simp only [Placement.along, Placement.beside, startBeside, Font.cellEnd, hv, add_assoc,
      if_true]

/-- If anything is drawn, the longest line has characters. -/
theorem exists_longest {line : Line Rat} (hmem : line ∈ l.lines) (hchars : line.chars ≠ []) :
    ∃ full ∈ l.lines, full.chars ≠ [] ∧ full.advance = longest l.lines := by
  have hnonneg : 0 ≤ line.advance := by
    rw [advance_of_mem_lines hl h ht hmem]
    exact measure_nonneg hfont.flow_nonneg _
  have hzero (hlongest : longest l.lines = 0) : line.advance = longest l.lines :=
    le_antisymm (advance_le_longest hmem) (hlongest ▸ hnonneg)
  rcases longest_attained l.lines with hlongest | ⟨full, hfull, hlongest⟩
  · exact ⟨line, hmem, hchars, hzero hlongest⟩
  · by_cases hempty : full.chars = []
    · have hadvance := advance_of_mem_lines hl h ht hfull
      rw [hempty, measure_nil] at hadvance
      exact ⟨line, hmem, hchars, hzero (hlongest ▸ hadvance)⟩
    · exact ⟨full, hfull, hempty, hlongest⟩

/-- Under an outline the longest line stays in the box only from the near side. -/
theorem flow_near_of_holdsText (hinset : (0 : Rat) < insetOf st) (hholds : HoldsText st font l)
    {line : Line Rat} (hmem : line ∈ l.lines) (hchars : line.chars ≠ []) :
    (Placement.ofState st).flow = .near := by
  obtain ⟨full, hfull, hne, hlongest⟩ := exists_longest hl h ht hfont hmem hchars
  obtain ⟨index, hindex⟩ := List.getElem?_of_mem hfull
  let pre := full.chars.dropLast
  let c := full.chars.getLast hne
  have hpre : full.chars = pre ++ [c] := (List.dropLast_append_getLast hne).symm
  have hglyph := hholds _ ((mem_arrange_iff (font_of_compute hl ht) (clip_of_compute hl h) _ _).2
    ⟨index, full, pre, c, [], hindex, hpre, rfl⟩)
  have hend := ((holds_glyphAt_iff hl h ht hfont hindex pre c).1 hglyph).1
  have hlength : measure (font.flow st.vertical) pre + font.flow st.vertical c = full.advance := by
    rw [advance_of_mem_lines hl h ht hfull, hpre, measure_append, measure_singleton]
  rw [startAlong, placement_of_compute hl, Placement.vertical_ofState, along_boundingBox hl h ht,
    ← hlongest] at hend
  have hoffset :
      (Placement.ofState st).flowOffset (full.advance + insetOf st) full.advance ≤ 0 := by
    linarith
  exact Anchor.offset_slack_le_zero hinset hoffset

theorem leavesRoom_of_holdsText (hinset : (0 : Rat) < insetOf st) (hholds : HoldsText st font l) :
    LeavesRoom st font l := by
  intro index line c hindex hc
  obtain ⟨pre, post, hchars⟩ := List.append_of_mem hc
  have hglyph := hholds _ ((mem_arrange_iff (font_of_compute hl ht) (clip_of_compute hl h) _ _).2
    ⟨index, line, pre, c, post, hindex, hchars, rfl⟩)
  have hnear := flow_near_of_holdsText hl h ht hfont hinset hholds (List.mem_of_getElem? hindex)
    (List.ne_nil_of_mem hc)
  rw [← placement_of_compute hl] at hnear
  exact ⟨hnear, ((holds_glyphAt_iff hl h ht hfont hindex pre c).1 hglyph).2⟩

/-- It is enough that every line ends in time and every cell does across the lines. -/
theorem holdsText_of_ends
    (hends : ∀ index line c, l.lines[index]? = some line → c ∈ line.chars →
      (Placement.ofState st).flowOffset (longest l.lines + insetOf st) line.advance +
          line.advance ≤ longest l.lines ∧
        (Placement.ofState st).acrossOffset ((Placement.ofState st).beside l.boundingBox)
            (font.lineHeight * l.lines.length) +
          font.cellEnd st.vertical l.lines.length index c + insetOf st ≤
            (Placement.ofState st).beside l.boundingBox) :
    HoldsText st font l := by
  intro g hg
  obtain ⟨index, line, pre, c, post, hindex, hchars, rfl⟩ :=
    (mem_arrange_iff (font_of_compute hl ht) (clip_of_compute hl h) _ g).1 hg
  have hline := List.mem_of_getElem? hindex
  have hpre : measure (font.flow st.vertical) pre + font.flow st.vertical c ≤ line.advance := by
    rw [advance_of_mem_lines hl h ht hline, hchars]
    exact measure_prefix_le hfont.flow_nonneg pre c post
  obtain ⟨halong, hbeside⟩ := hends index line c hindex (by simp [hchars])
  rw [← placement_of_compute hl] at hbeside
  refine (holds_glyphAt_iff hl h ht hfont hindex pre c).2 ⟨?_, hbeside⟩
  rw [startAlong, placement_of_compute hl, Placement.vertical_ofState, along_boundingBox hl h ht]
  linarith

/-- Without an outline any alignment keeps the text in the box. -/
theorem holdsText_of_inset_eq_zero (hinset : (insetOf st : Rat) = 0) : HoldsText st font l := by
  refine holdsText_of_ends hl h ht hfont fun index line c hindex _ => ?_
  have hlongest := advance_le_longest (List.mem_of_getElem? hindex)
  have hblock := block_le_beside hl h ht
  have hcell := hfont.cellEnd_le (List.getElem?_eq_some_iff.1 hindex).1 c
  rw [hinset, add_zero] at hblock
  rw [hinset, add_zero, add_zero, Placement.acrossOffset_eq]
  have hbeside := Anchor.offset_add_le (Placement.ofState st).blockAnchor hblock
  exact ⟨Anchor.offset_add_le _ hlongest, by linarith⟩

theorem holdsText_of_leavesRoom (hroom : LeavesRoom st font l) : HoldsText st font l := by
  refine holdsText_of_ends hl h ht hfont fun index line c hindex hc => ?_
  obtain ⟨hnear, hbeside⟩ := hroom index line c hindex hc
  rw [placement_of_compute hl] at hnear hbeside
  refine ⟨?_, hbeside⟩
  rw [Placement.flowOffset, hnear, Anchor.offset, zero_rat, zero_add]
  exact advance_le_longest (List.mem_of_getElem? hindex)

/-- The box of a text that is not wrapped holds it exactly when there is no outline or the text
leaves the outline room at the far sides. -/
theorem holdsText_iff : HoldsText st font l ↔ st.inset = 0 ∨ LeavesRoom st font l := by
  constructor
  · intro hholds
    by_cases hzero : st.inset = 0
    · exact .inl hzero
    · exact .inr (leavesRoom_of_holdsText hl h ht hfont (insetOf_pos hzero) hholds)
  · rintro (hzero | hroom)
    · exact holdsText_of_inset_eq_zero hl h ht hfont (insetOf_eq_zero.2 hzero)
    · exact holdsText_of_leavesRoom hl h ht hfont hroom

/-- Text that is aligned to the left and the top leaves the outline room. -/
theorem leavesRoom_of_left_top (haligns : st.align = .left ∧ st.valign = .top) :
    LeavesRoom st font l := by
  intro index line c hindex hc
  obtain ⟨hflow, hblock⟩ := (Placement.near_iff st).2 haligns
  have hroom := block_le_beside hl h ht
  have hcell := hfont.cellEnd_le (List.getElem?_eq_some_iff.1 hindex).1 c
  rw [placement_of_compute hl]
  refine ⟨hflow, ?_⟩
  rw [Placement.acrossOffset_eq, hblock, Anchor.offset, zero_rat, zero_add]
  exact (add_le_add_left hcell _).trans hroom

end Text

/-! ## Boxes that are not too long -/

theorem clampInt64_ne_maxValue {n : Int} (h : n < 2 ^ 63 - 1) : clampInt64 n ≠ .maxValue := by
  intro hclamp
  have hmax : Int64.maxValue.toInt = 2 ^ 63 - 1 := by decide
  have hn := congrArg Int64.toInt hclamp
  rw [clampInt64, Int64.toInt_ofInt_of_le (by omega) (by omega)] at hn
  omega

theorem wholePixels_ne_maxValue {length : Rat} (hnonneg : 0 ≤ length) (hshort : length < 2 ^ 62) :
    wholePixels length ≠ .maxValue := by
  have hslack : (pixelSlack : Rat) = 1 / 10 ^ 4 := by
    change ((1 : Nat) : Rat) / (Nat.pow 10 4 : Nat) = 1 / 10 ^ 4
    norm_num
  set q := length + pixelSlack with hq
  rw [hslack] at hq
  have hpos : 0 ≤ q := by linarith
  have hfloor : (q.floor : Rat) ≤ q := Rat.floor_le q
  have hlt : (q.floor : Rat) < ((2 ^ 63 - 1 : Int) : Rat) := by
    push_cast
    linarith
  refine clampInt64_ne_maxValue (n := q.num.tdiv q.den) ?_
  rw [Int.tdiv_eq_ediv_of_nonneg (Rat.num_nonneg.2 hpos), ← Rat.floor_def]
  exact Rat.intCast_lt_intCast.1 hlt

theorem floorToSize_ne_maxValue {length : Rat} (hnonneg : 0 ≤ length) (hshort : length < 2 ^ 62)
    (size : Int32) : (floorToSize size length).2 ≠ .maxValue := by
  unfold floorToSize
  dsimp only
  split
  · exact size_ne_maxValue size
  · exact wholePixels_ne_maxValue hnonneg hshort

/-- A box of less than `2 ^ 62` pixels has a canvas. -/
theorem exists_compute_of_short {font : Option (Font Rat)}
    (hwidth : 0 ≤ (contentBox cut st font).width)
    (hheight : 0 ≤ (contentBox cut st font).height)
    (hshort : (contentBox cut st font).width < 2 ^ 62)
    (hlow : (contentBox cut st font).height < 2 ^ 62) :
    ∃ l, compute cut st font = .ok l := by
  have hpixels : (measureBox st (contentBox cut st font)).2.1 ≠ .maxValue ∧
      (measureBox st (contentBox cut st font)).2.2 ≠ .maxValue := by
    unfold measureBox
    split
    · exact ⟨floorToSize_ne_maxValue hwidth hshort _, wholePixels_ne_maxValue hheight hlow⟩
    · exact ⟨wholePixels_ne_maxValue hwidth hshort, floorToSize_ne_maxValue hheight hlow _⟩
  exact exists_compute_of_ne hpixels.1 hpixels.2

/-! ## Every text and font -/

/-- A font whose cells are squares that touch. -/
def squareFont (size : Rat) : Font Rat :=
  ⟨{ Typeface.block "Block" false false 1 0 with advance := fun _ => 1 }, size, .plain⟩

theorem scale_squareFont (size : Rat) : (squareFont size).scale = size := by
  have hcell : (squareFont size).cellUnits = 1 - 0 :=
    Font.cellUnits_eq (zero_lt_one : (0 : Rat) < 1)
  change size / (squareFont size).cellUnits = size
  rw [hcell, sub_zero, div_one]

theorem lineHeight_squareFont (size : Rat) : (squareFont size).lineHeight = size := by
  change (1 - 0 + 0) * (squareFont size).scale = size
  rw [scale_squareFont]
  ring

theorem advance_squareFont (size : Rat) (c : Char) : (squareFont size).advance c = size := by
  change 1 * (squareFont size).scale = size
  rw [scale_squareFont, one_mul]

theorem regular_squareFont {size : Rat} (h : 0 < size) (vertical : Bool) :
    (squareFont size).Regular vertical where
  size_pos := h
  descent_lt_ascent := (zero_lt_one : (0 : Rat) < 1)
  lineGap_nonneg := le_refl (0 : Rat)
  advance_nonneg c := by
    rw [advance_squareFont]
    exact h.le
  advance_le _ c := by rw [advance_squareFont, lineHeight_squareFont]

theorem cellEnd_squareFont {size : Rat} (h : 0 < size) (vertical : Bool) (c : Char) :
    (squareFont size).cellEnd vertical 1 0 c = size := by
  have hfont := regular_squareFont h vertical
  cases vertical with
  | false =>
    simp only [Font.cellEnd, Font.cellStart, hfont.cellHeight_eq, Bool.false_eq_true, if_false]
    simp [squareFont]
  | true =>
    simp [Font.cellEnd, Font.cellStart, lineHeight_squareFont, advance_squareFont]

/-- One character in squares no smaller than the font that is asked for leaves the outline room
only from the near sides. -/
theorem left_top_of_leavesRoom
    (hl : compute cut st (some (squareFont (max (st.font.size.toInt : Rat) 1))) = .ok l)
    (h : isFixed st = false) (hinset : (0 : Rat) < insetOf st) (htext : st.text = ['a'])
    (hroom : LeavesRoom st (squareFont (max (st.font.size.toInt : Rat) 1)) l) :
    st.align = .left ∧ st.valign = .top := by
  have ht : st.text ≠ [] := by simp [htext]
  set size := max (st.font.size.toInt : Rat) 1
  have hsize : 0 < size := lt_max_of_lt_right zero_lt_one
  have hlines : l.lines = [⟨['a'], measure ((squareFont size).flow st.vertical) ['a']⟩] := by
    rw [lines_of_compute hl h ht, htext]
    rfl
  have hlength : l.lines.length = 1 := by rw [hlines, List.length_singleton]
  have hbeside : l.placement.beside l.boundingBox = size + insetOf st := by
    rw [placement_of_compute hl, beside_boundingBox hl h ht, hlength, lineHeight_squareFont,
      Nat.cast_one, mul_one]
    exact max_eq_left (le_add_of_le_of_nonneg (le_max_left _ _) hinset.le)
  have hfirst : l.lines[0]? = some ⟨['a'], measure ((squareFont size).flow st.vertical) ['a']⟩ := by
    rw [hlines]
    rfl
  obtain ⟨hflow, hend⟩ := hroom 0 _ 'a' hfirst (by simp)
  rw [hbeside, hlength, lineHeight_squareFont, cellEnd_squareFont hsize, Nat.cast_one, mul_one,
    Placement.acrossOffset_eq] at hend
  have hoffset : l.placement.blockAnchor.offset (size + insetOf st) size ≤ 0 := by linarith
  rw [placement_of_compute hl] at hflow hoffset
  exact (Placement.near_iff st).1 ⟨hflow, Anchor.offset_slack_le_zero hinset hoffset⟩

/-- One character in such squares has a layout. -/
theorem exists_compute_squareFont (cut : Segmenter) (h : isFixed st = false)
    (htext : st.text = ['a']) :
    ∃ l, compute cut st (some (squareFont (max (st.font.size.toInt : Rat) 1))) = .ok l := by
  set size := max (st.font.size.toInt : Rat) 1
  have hpos : 0 < size := lt_max_of_lt_right zero_lt_one
  have hinset := insetOf_nonneg st
  have hbox : contentBox cut st (some (squareFont size)) =
      ⟨0, 0, size + insetOf st, size + insetOf st⟩ := by
    have hflow : (squareFont size).flow st.vertical 'a' = size := by
      cases hv : st.vertical with
      | false => exact advance_squareFont size 'a'
      | true => exact (regular_squareFont hpos true).cellHeight_eq
    have hlines : linesOf cut st (squareFont size) = [⟨['a'], size⟩] := by
      rw [linesOf, h, htext]
      change [(⟨['a'], measure ((squareFont size).flow st.vertical) ['a']⟩ : Line Rat)] = _
      rw [measure_singleton, hflow]
    have hlongest : longest [(⟨['a'], size⟩ : Line Rat)] = size := max_eq_right hpos.le
    cases hv : st.vertical <;>
      simp [contentBox, usedFont, htext, boxOf, h, blockSize, hv, hlines, hlongest,
        lineHeight_squareFont]
  have hshort : size + insetOf st < 2 ^ 62 := by
    have hsize : (st.font.size.toInt : Rat) < 2 ^ 31 := by exact_mod_cast st.font.size.toInt_lt
    have hsize' : size < 2 ^ 31 := max_lt hsize (by norm_num)
    have hinset' : (insetOf st : Rat) < 2 ^ 32 := by
      rw [insetOf_rat]
      exact_mod_cast st.inset.toNat_lt
    linarith
  have hlong : 0 ≤ size + insetOf st := by linarith
  refine exists_compute_of_short ?_ ?_ ?_ ?_
  all_goals rw [hbox]
  · exact hlong
  · exact hlong
  · exact hshort
  · exact hshort

/-- The box of text that is not wrapped holds every text in every font exactly when there is no
outline or the text stands at the left and the top. -/
theorem holdsText_always_iff (cut : Segmenter) (h : isFixed st = false) :
    (∀ text ≠ [], ∀ font : Font Rat, font.Regular st.vertical →
        ∀ l, compute cut { st with text := text } (some font) = .ok l → HoldsText st font l) ↔
      st.inset = 0 ∨ st.align = .left ∧ st.valign = .top := by
  constructor
  · intro hall
    have hsize : 0 < max (st.font.size.toInt : Rat) 1 := lt_max_of_lt_right zero_lt_one
    have hfree : isFixed { st with text := ['a'] } = false := h
    obtain ⟨l, hl⟩ := exists_compute_squareFont cut hfree rfl
    have hholds := hall ['a'] (by simp) _ (regular_squareFont hsize st.vertical) l hl
    rcases (holdsText_iff hl hfree (by simp) (regular_squareFont hsize st.vertical)).1 hholds with
      hzero | hroom
    · exact .inl hzero
    · by_cases hzero : st.inset = 0
      · exact .inl hzero
      · have hinset : (0 : Rat) < insetOf { st with text := ['a'] } := insetOf_pos hzero
        have haligns := left_top_of_leavesRoom hl hfree hinset rfl hroom
        exact .inr haligns
  · intro hst text ht font hfont l hl
    have hfree : isFixed { st with text := text } = false := h
    refine (holdsText_iff hl hfree ht hfont).2 (hst.imp_right fun haligns => ?_)
    exact leavesRoom_of_left_top hl hfree ht hfont haligns

/-- The box of text that is not wrapped holds the text with its outline exactly when there is no
outline or all lines start at the near side and leave it room; only the alignment to the left and
the top makes sure of that. -/
theorem outlined_text_held_iff (cut : Segmenter) (st : State) (h : isFixed st = false) :
    (st.text ≠ [] → ∀ font : Font Rat, font.Regular st.vertical →
        ∀ l, compute cut st (some font) = .ok l →
          (HoldsText st font l ↔ st.inset = 0 ∨ LeavesRoom st font l)) ∧
      ((∀ text ≠ [], ∀ font : Font Rat, font.Regular st.vertical →
          ∀ l, compute cut { st with text := text } (some font) = .ok l → HoldsText st font l) ↔
        st.inset = 0 ∨ st.align = .left ∧ st.valign = .top) :=
  ⟨fun ht _ hfont _ hl => holdsText_iff hl h ht hfont, holdsText_always_iff cut h⟩

/-- A word with an outline. -/
def outlinedHello (align : HorizontalAlign) : State :=
  { State.initial with
    text := "Hello".toList
    font := ⟨"Arial", 20, .plain⟩
    outline := true
    outlineSize := 4
    align := align }

def plainFont : Font Rat := ⟨.plainBlock "Block", 20, .plain⟩

theorem regular_plainFont : plainFont.Regular false := by
  have hmetrics : plainFont.face.metrics.descent < plainFont.face.metrics.ascent := by decide
  have hscale : 0 ≤ plainFont.scale := by
    change 0 ≤ 20 / plainFont.cellUnits
    rw [Font.cellUnits_eq hmetrics]
    change (0 : Rat) ≤ 20 / (800 - -200)
    norm_num
  have hadvance (c : Char) : plainFont.advance c = 500 * plainFont.scale := rfl
  exact
    { size_pos := by decide
      descent_lt_ascent := hmetrics
      lineGap_nonneg := le_refl (0 : Rat)
      advance_nonneg := fun c => hadvance c ▸ mul_nonneg (by norm_num) hscale
      advance_le := by simp }

theorem exists_compute_hello (align : HorizontalAlign) :
    ∃ l, compute .words (outlinedHello align) (some plainFont) = .ok l := by
  have hbox : contentBox .words (outlinedHello align) (some plainFont) = ⟨0, 0, 54, 24⟩ := by
    cases align <;> decide +kernel
  refine exists_compute_of_short ?_ ?_ ?_ ?_
  all_goals
    rw [hbox]
    decide +kernel

/-- The word has a layout, and it is held at the left. -/
theorem outlined_text_held_hello :
    isFixed (outlinedHello .left) = false ∧ (outlinedHello .left).text ≠ [] ∧
      plainFont.Regular (outlinedHello .left).vertical ∧
      ∃ l, compute .words (outlinedHello .left) (some plainFont) = .ok l ∧
        HoldsText (outlinedHello .left) plainFont l := by
  have ht : (outlinedHello .left).text ≠ [] := by decide
  have halways := (outlined_text_held_iff .words (outlinedHello .left) rfl).2.2 (.inr ⟨rfl, rfl⟩)
  obtain ⟨l, hl⟩ := exists_compute_hello .left
  exact ⟨rfl, ht, regular_plainFont, l, hl, halways _ ht plainFont regular_plainFont l hl⟩

/-- At the right it is not. -/
theorem outlined_text_leaves_box :
    isFixed (outlinedHello .right) = false ∧ (outlinedHello .right).text ≠ [] ∧
      plainFont.Regular (outlinedHello .right).vertical ∧
      ∃ l, compute .words (outlinedHello .right) (some plainFont) = .ok l ∧
        ¬HoldsText (outlinedHello .right) plainFont l := by
  obtain ⟨l, hl⟩ := exists_compute_hello .right
  refine ⟨rfl, by decide, regular_plainFont, l, hl, fun hholds => ?_⟩
  have hlines : l.lines = breakLines (plainFont.flow false) none "Hello".toList .words :=
    lines_of_compute hl rfl (by decide)
  have hmem : ⟨"Hello".toList, measure (plainFont.flow false) "Hello".toList⟩ ∈ l.lines := by
    rw [hlines]
    exact List.mem_singleton.2 rfl
  have hinset : (0 : Rat) < insetOf (outlinedHello .right) := insetOf_pos (by decide)
  have hnear := flow_near_of_holdsText hl rfl (by decide) regular_plainFont hinset hholds hmem
    (by decide)
  exact absurd hnear (by decide)

end Layout

end Caption
