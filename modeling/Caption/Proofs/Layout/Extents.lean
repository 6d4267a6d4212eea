import Caption.Proofs.Layout.Wrapped

/-!
# Draw boxes within the extents

The block of wrapped lines is placed in the room that the extents leave beside the outline, and
what stands out of it is cut off. The draw box is this block, moved by half of the outline. It
stays within the room, moved as far, but for one case: across the lines it is raised to the size of
the font that was asked for, and a box that was thinner may end outside, though it starts inside.

## Main definitions

* `Layout.Inside`, `Layout.Raised`: what one axis of the draw box is to the room

## Main statements

* `Layout.inside_contentBox`: the block that was cut stays in the room
* `Layout.drawBox_within_extents`: the draw box, the clip and the canvas of wrapped text
-/
namespace Caption

open Scalar

namespace Layout

/-! ## One axis -/

/-- A stretch with room on both sides: it starts no sooner than `low`, ends no later than `high`
and is not turned round. -/
structure Inside (start extent low high : Rat) : Prop where
  low_le : low ≤ start
  extent_nonneg : 0 ≤ extent
  end_le : start + extent ≤ high

/-- A stretch that was raised to at least `size` from what it was before: it is inside unless it was
shorter, and then it is as long as `size` and starts inside. -/
structure Raised (placed size start extent low high : Rat) : Prop where
  inside : size ≤ placed → Inside start extent low high
  extent_eq : placed < size → extent = size
  low_le : low ≤ start
  start_le : start ≤ high
  extent_nonneg : 0 ≤ extent

variable {start extent room : Rat}

theorem Inside.move (h : Inside start extent 0 room) (d : Rat) :
    Inside (start + d) extent d (d + room) := by
  obtain ⟨hlow, hextent, hend⟩ := h
  exact ⟨by linarith, hextent, by linarith⟩

theorem Inside.raise (h : Inside start extent 0 room) (size d : Rat) :
    Raised extent size (start + d) (max extent size) d (d + room) := by
  obtain ⟨hlow, hextent, hend⟩ := h.move d
  refine ⟨fun hle => ?_, fun hlt => max_eq_right hlt.le, hlow, by linarith, ?_⟩
  · rw [max_eq_left hle]
    exact ⟨hlow, hextent, hend⟩
  · exact le_max_of_le_left hextent

/-- What is cut to the space stays in it, wherever it is aligned. -/
theorem inside_offset (a : Anchor) {available used : Rat} (havailable : 0 ≤ available)
    (hused : 0 ≤ used) :
    Inside (a.offset available (min used available)) (min used available) 0 available where
  low_le := Anchor.offset_nonneg a (min_le_right _ _)
  extent_nonneg := le_min hused havailable
  end_le := Anchor.offset_add_le a (min_le_right _ _)

/-! ## The block -/

/-- The block of lines stays in the room that the extents leave beside the outline. -/
theorem inside_contentBox (cut : Segmenter) {st : State} (h : isFixed st = true)
    {font : Option (Font Rat)} (hheight : ∀ f, font = some f → 0 ≤ f.lineHeight) :
    let placed := contentBox cut st font
    Inside placed.x placed.width 0 (wrapBox st).width ∧
      Inside placed.y placed.height 0 (wrapBox st).height := by
  obtain ⟨hbox, hbox'⟩ := wrapBox_nonneg st
  unfold contentBox
  cases hfont : usedFont st font with
  | none =>
    refine ⟨⟨le_rfl, le_rfl, ?_⟩, ⟨le_rfl, le_rfl, ?_⟩⟩
    · exact (add_zero (0 : Rat)).trans_le hbox
    · exact (add_zero (0 : Rat)).trans_le hbox'
  | some f =>
    have hf : font = some f := (Option.ite_none_left_eq_some.1 hfont).2
    obtain ⟨hwidth, hheight'⟩ := blockSize_nonneg (hheight f hf) st.vertical (linesOf cut st f)
    dsimp only
    rw [boxOf, if_pos h, placeInBox_eq _ _ _ hwidth hheight' hbox hbox']
    simp only [Placement.acrossOffset_eq, Placement.flowOffset]
    split
    · exact ⟨inside_offset _ hbox hwidth, inside_offset _ hbox' hheight'⟩
    · exact ⟨inside_offset _ hbox hwidth, inside_offset _ hbox' hheight'⟩

/-- The room on an axis of the extents. -/
theorem wrapBox_rat (st : State) :
    (wrapBox st : Size Rat) = ⟨max ((st.extentsWidth.toNat : Rat) - st.inset.toNat) 0,
      max ((st.extentsHeight.toNat : Rat) - st.inset.toNat) 0⟩ := by
  simp [wrapBox, insetOf]

/-- Wrapped text whose extents fix the canvas has a layout, and its draw box is its clip. Along the
lines it lies in the room that the extents leave beside the outline, moved by half of the outline.
So it does across the lines, unless the block there was thinner than the font that was asked for;
then it is as thick as that and starts in the room. The canvas is that of the extents. -/
theorem drawBox_within_extents (cut : Segmenter) (st : State) (font : Option (Font Rat))
    (h : isFixed st = true) (hheight : ∀ f, font = some f → 0 ≤ f.lineHeight) :
    let placed := contentBox cut st font
    let size : Rat := st.font.size.toInt
    let before : Rat := (st.inset.toNat : Rat) / 2
    let right : Rat := before + max ((st.extentsWidth.toNat : Rat) - st.inset.toNat) 0
    let bottom : Rat := before + max ((st.extentsHeight.toNat : Rat) - st.inset.toNat) 0
    ∃ l box, compute cut st font = .ok l ∧ l.drawBox = box ∧ l.clip = some box ∧
      (st.vertical = false →
        Inside box.x box.width before right ∧
          Raised placed.height size box.y box.height before bottom) ∧
      (st.vertical = true →
        Inside box.y box.height before bottom ∧
          Raised placed.width size box.x box.width before right) ∧
      Canvas.quantized st.extentsWidth.toUInt64.toInt64 st.extentsHeight.toUInt64.toInt64 =
        .ok l.canvas := by
  intro placed size before right bottom
  obtain ⟨hx, hy⟩ := inside_contentBox cut h hheight
  rw [wrapBox_rat] at hx hy
  obtain ⟨l, hl⟩ := exists_compute_of_fixed cut font h
  have hbox : l.drawBox = (measureBox st placed).1.translate before before := by
    rw [drawBox_of_compute hl, boundingBox_of_compute hl, insetOf_rat]
    rfl
  have hclip : l.clip = some l.drawBox := by
    rw [eq_onCanvas hl]
    exact if_pos h
  refine ⟨l, l.drawBox, hl, rfl, hclip, fun hv => ?_, fun hv => ?_, canvas_of_fixed h hl⟩
  · have hmeasured : (measureBox st placed).1 =
        ⟨placed.x, placed.y, placed.width, max placed.height size⟩ := by
      simp [measureBox, hv, floorToSize_fst, size]
    rw [hbox, hmeasured]
    exact ⟨hx.move before, hy.raise size before⟩
  · have hmeasured : (measureBox st placed).1 =
        ⟨placed.x, placed.y, max placed.width size, placed.height⟩ := by
      simp [measureBox, hv, floorToSize_fst, size]
    rw [hbox, hmeasured]
    exact ⟨hy.move before, hx.raise size before⟩

/-- The same lines in a room that is lower than one of them. -/
def lowRoom : State := { overflowing with extentsHeight := 10, valign := .bottom }

/-- The box is cut to 6, raised to 20, and ends outside the room. -/
theorem drawBox_within_extents_low :
    isFixed lowRoom = true ∧ (∀ f, some plainFont = some f → 0 ≤ f.lineHeight) ∧
      (contentBox .words lowRoom (some plainFont)).height = 6 ∧
      ∃ l box, compute .words lowRoom (some plainFont) = .ok l ∧ l.drawBox = box ∧
        box.height = 20 ∧ Inside box.x box.width 2 7 ∧ 2 ≤ box.y ∧ box.y ≤ 8 ∧
        l.canvas = ⟨32, 32⟩ := by
  have hheight (f : Font Rat) (hf : some plainFont = some f) : 0 ≤ f.lineHeight := by
    obtain rfl := Option.some.inj hf
    decide +kernel
  have hplaced : (contentBox .words lowRoom (some plainFont)).height = 6 := by decide +kernel
  obtain ⟨l, box, hl, hbox, -, hrow, -, hcanvas⟩ :=
    drawBox_within_extents .words lowRoom (some plainFont) rfl hheight
  obtain ⟨hinside, hraised⟩ := hrow rfl
  have hbefore : (lowRoom.inset.toNat : Rat) / 2 = 2 := by decide +kernel
  have hright : (lowRoom.inset.toNat : Rat) / 2 +
      max ((lowRoom.extentsWidth.toNat : Rat) - lowRoom.inset.toNat) 0 = 7 := by decide +kernel
  have hbottom : (lowRoom.inset.toNat : Rat) / 2 +
      max ((lowRoom.extentsHeight.toNat : Rat) - lowRoom.inset.toNat) 0 = 8 := by decide +kernel
  have hthin : (contentBox .words lowRoom (some plainFont)).height <
      (lowRoom.font.size.toInt : Rat) := by
    rw [hplaced]
    decide +kernel
  rw [hright, hbefore] at hinside
  refine ⟨rfl, hheight, hplaced, l, box, hl, hbox, hraised.extent_eq hthin, hinside, ?_, ?_, ?_⟩
  · exact hbefore ▸ hraised.low_le
  · exact hbottom ▸ hraised.start_le
  · exact (Except.ok.inj hcanvas).symm

end Layout

end Caption
