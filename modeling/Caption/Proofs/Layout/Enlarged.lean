import Caption.Proofs.Layout.Request

/-!
# Extents around text that is not wrapped

Extents that do not wrap leave the lines and the boxes of a layout as they are and only enlarge its
canvas: its width if they ask for more whole pixels than were measured, else its height. Rounding
the edges keeps their order, so no edge becomes shorter. There is a layout with the extents exactly
if there is one without, which is the case as long as the measured box stays within 64 bits.

## Main definitions

* `Layout.measuredPixels`: the whole pixels of the measured box
* `Layout.Enlarges`: what a requested size makes of measured pixels
* `Layout.Enlarged`: what the extents make of a layout

## Main statements

* `Layout.enlarges_requestedEdges`: at most one of the measured edges is enlarged
* `Layout.compute_enlarged`: the layout with the extents beside the one without
-/
namespace Caption

namespace Layout

open Scalar

/-- The whole pixels of the measured box, raised to the font's size across the lines. -/
def measuredPixels (cut : Segmenter) (st : State) (font : Option (Font Float32)) : Int64 × Int64 :=
  (measureBox st (contentBox cut st font)).2

/-- The state without its extents. -/
def bare (st : State) : State := { st with extents := false }

/-- What a requested size makes of measured pixels: it enlarges the width, or the height if the
width suffices, or neither. -/
inductive Enlarges (width height : UInt32) (cx cy : Int64) : Int64 × Int64 → Prop
  | width (h : cx < width.toUInt64.toInt64) :
      Enlarges width height cx cy (width.toUInt64.toInt64, cy)
  | height (hwidth : width.toUInt64.toInt64 ≤ cx) (h : cy < height.toUInt64.toInt64) :
      Enlarges width height cx cy (cx, height.toUInt64.toInt64)
  | neither (hwidth : width.toUInt64.toInt64 ≤ cx) (hheight : height.toUInt64.toInt64 ≤ cy) :
      Enlarges width height cx cy (cx, cy)

namespace Enlarges

open Canvas

variable {width height : UInt32} {cx cy : Int64} {request : Int64 × Int64}

theorem le (h : Enlarges width height cx cy request) : cx ≤ request.1 ∧ cy ≤ request.2 := by
  cases h with
  | width h => exact ⟨Int64.le_of_lt h, Int64.le_refl _⟩
  | height _ h => exact ⟨Int64.le_refl _, Int64.le_of_lt h⟩
  | neither => exact ⟨Int64.le_refl _, Int64.le_refl _⟩

theorem eq_or_eq (h : Enlarges width height cx cy request) : request.1 = cx ∨ request.2 = cy := by
  cases h with
  | width => exact .inr rfl
  | height | neither => exact .inl rfl

/-- The height is enlarged only if the width suffices. -/
theorem width_le_of_ne (h : Enlarges width height cx cy request) (hne : request.2 ≠ cy) :
    width.toUInt64.toInt64 ≤ cx := by
  cases h with
  | width => exact absurd rfl hne
  | height hwidth | neither hwidth => exact hwidth

end Enlarges

theorem toInt_extent (n : UInt32) : n.toUInt64.toInt64.toInt = n.toNat := by
  have hlt := n.toNat_lt
  have hword : 2 * n.toUInt64.toBitVec.toNat < 2 ^ 64 := by
    simp only [UInt64.toNat_toBitVec, UInt32.toNat_toUInt64]
    omega
  exact BitVec.toInt_eq_toNat_of_lt hword

/-- What the extents of a state make of its layout without them: all but the canvas stays, no edge
of the canvas becomes shorter and at most one becomes longer, the height only if the width that is
asked for is no more than the measured one. -/
structure Enlarged (st : State) (measured : Int64 × Int64) (l plain : Layout Float32) : Prop where
  rest : l = { plain with canvas := l.canvas }
  plain_canvas : Canvas.quantized measured.1 measured.2 = .ok plain.canvas
  width_le : plain.canvas.width ≤ l.canvas.width
  height_le : plain.canvas.height ≤ l.canvas.height
  one_axis : l.canvas.width = plain.canvas.width ∨ l.canvas.height = plain.canvas.height
  width_suffices : l.canvas.height ≠ plain.canvas.height →
    (st.extentsWidth.toNat : Int) ≤ measured.1.toInt

section Extents

variable {st : State} (hextents : st.extents = true) (hwrap : st.wrap = false)
  (cut : Segmenter) (font : Option (Font Float32))

include hextents hwrap

theorem enlarges_requestedEdges :
    Enlarges st.extentsWidth st.extentsHeight (measuredPixels cut st font).1
      (measuredPixels cut st font).2 (requestedEdges cut st font) := by
  change Enlarges _ _ _ _
    (applyExtents st (measuredPixels cut st font).1 (measuredPixels cut st font).2)
  simp only [applyExtents, hextents, hwrap, Bool.not_true, Bool.false_eq_true, if_false]
  split
  next hwidth => exact .width hwidth
  next hwidth =>
    split
    next hheight => exact .height (Int64.not_lt.1 hwidth) hheight
    next hheight => exact .neither (Int64.not_lt.1 hwidth) (Int64.not_lt.1 hheight)

/-- Without wrapping no definition but that of the canvas asks for the extents. -/
theorem onCanvas_bare (canvas : Canvas) :
    onCanvas cut (bare st) font canvas = onCanvas cut st font canvas := by
  cases st
  cases hextents
  cases hwrap
  rfl

theorem measuredBox_bare : measuredBox cut (bare st) font = measuredBox cut st font :=
  congrArg boundingBox (onCanvas_bare hextents hwrap cut font default)

theorem requestedEdges_bare : requestedEdges cut (bare st) font = measuredPixels cut st font := by
  cases st
  cases hextents
  cases hwrap
  rfl

theorem enlarged_of_compute {l plain : Layout Float32} (hl : compute cut st font = .ok l)
    (hplain : compute cut (bare st) font = .ok plain) :
    Enlarged st (measuredPixels cut st font) l plain := by
  have henlarges := enlarges_requestedEdges hextents hwrap cut font
  have hcanvas := quantized_of_compute hplain
  rw [requestedEdges_bare hextents hwrap] at hcanvas
  obtain ⟨hwidth, hheight⟩ := Canvas.quantized_eq_ok_iff.1 (quantized_of_compute hl)
  obtain ⟨hwidth', hheight'⟩ := Canvas.quantized_eq_ok_iff.1 hcanvas
  obtain ⟨hle, hle'⟩ := henlarges.le
  -- an edge that is not enlarged is rounded alike
  have hsame {request request' : Int64} {edge edge' : UInt32} (h : request = request')
      (hedge : Canvas.quantizeEdge request = .ok edge)
      (hedge' : Canvas.quantizeEdge request' = .ok edge') : edge = edge' :=
    Except.ok.inj (hedge.symm.trans ((congrArg Canvas.quantizeEdge h).trans hedge'))
  refine
    { rest := ?_
      plain_canvas := hcanvas
      width_le := Canvas.quantizeEdge_mono hwidth' hwidth hle
      height_le := Canvas.quantizeEdge_mono hheight' hheight hle'
      one_axis := ?_
      width_suffices := fun hne => ?_ }
  · rw [eq_onCanvas hplain, onCanvas_bare hextents hwrap, eq_onCanvas hl]
    rfl
  · exact henlarges.eq_or_eq.imp (hsame · hwidth hwidth') (hsame · hheight hheight')
  · have hsuffices := henlarges.width_le_of_ne fun hy => hne (hsame hy hheight hheight')
    rw [← toInt_extent]
    exact Int64.le_iff_toInt_le.1 hsuffices

theorem compute_bare_eq_overflow_iff :
    compute cut (bare st) font = .error .overflow ↔ compute cut st font = .error .overflow := by
  have hfixed : isFixed st = false := by simp [isFixed, hwrap]
  have hfixed' : isFixed (bare st) = false := rfl
  rw [compute_eq_overflow_iff, compute_eq_overflow_iff, measuredBox_bare hextents hwrap, hfixed,
    hfixed']

/-- Extents that do not wrap only enlarge a layout. There is a layout with them exactly if there is
one without, and there are both if the box is less than `2 ^ 63` pixels long on both axes. -/
theorem compute_enlarged :
    Checked.Both (Enlarged st (measuredPixels cut st font)) (compute cut st font)
        (compute cut (bare st) font) ∧
      ((∃ l, compute cut st font = .ok l) ↔
        ¬ofInt (2 ^ 63) ≤ (measuredBox cut st font).width ∧
          ¬ofInt (2 ^ 63) ≤ (measuredBox cut st font).height) := by
  have hoverflow := compute_bare_eq_overflow_iff hextents hwrap cut font
  constructor
  · cases hl : compute cut st font with
    | error =>
      rw [hoverflow.2 hl]
      exact .overflow
    | ok l =>
      cases hplain : compute cut (bare st) font with
      | error => exact absurd (hl.symm.trans (hoverflow.1 hplain)) nofun
      | ok plain => exact .ok (enlarged_of_compute hextents hwrap cut font hl hplain)
  · have hfixed : isFixed st = false := by simp [isFixed, hwrap]
    rw [← not_or, ← not_iff_not, not_not, ← Checked.eq_overflow_iff, compute_eq_overflow_iff,
      hfixed, eq_self, true_and]

end Extents

/-- Two letters that are asked to fill a size less wide than they are, and higher. -/
def highExtents : State :=
  { twoLetters with
    extents := true
    extentsWidth := 10
    extentsHeight := 101 }

/-- The width is that of the letters and the height is enlarged. -/
theorem compute_enlarged_high :
    let font := some ⟨.plainBlock "Block", ofInt 20, .plain⟩
    highExtents.extents = true ∧ highExtents.wrap = false ∧
      ∃ l plain, compute .words highExtents font = .ok l ∧
        compute .words (bare highExtents) font = .ok plain ∧
        l = { plain with canvas := ⟨32, 102⟩ } ∧ plain.canvas = ⟨32, 32⟩ ∧
        10 ≤ (measuredPixels .words highExtents font).1.toInt := by
  intro font
  have hextents : highExtents.extents = true := rfl
  obtain ⟨hboth, hok⟩ := compute_enlarged hextents rfl .words font
  have hwidth : ¬ofInt (2 ^ 63) ≤ (measuredBox .words highExtents font).width := by decide +kernel
  have hheight : ¬ofInt (2 ^ 63) ≤ (measuredBox .words highExtents font).height := by
    decide +kernel
  obtain ⟨l, hl⟩ := hok.2 ⟨hwidth, hheight⟩
  have hcanvas : (requestedEdges .words highExtents font) = (20, 101) := by decide +kernel
  have hcanvas' : (measuredPixels .words highExtents font) = (20, 20) := by decide +kernel
  cases hplain : compute .words (bare highExtents) font with
  | error =>
    rw [hl, hplain] at hboth
    cases hboth
  | ok plain =>
    rw [hl, hplain] at hboth
    cases hboth with
    | ok henlarged =>
      have hrequest := quantized_of_compute hl
      have hplain' := henlarged.plain_canvas
      rw [hcanvas] at hrequest
      rw [hcanvas'] at hplain'
      have hhigh : (⟨32, 102⟩ : Canvas) = l.canvas := Except.ok.inj hrequest
      have hsmall : (⟨32, 32⟩ : Canvas) = plain.canvas := Except.ok.inj hplain'
      refine ⟨rfl, rfl, l, plain, hl, rfl, ?_, hsmall.symm, ?_⟩
      · rw [hhigh]
        exact henlarged.rest
      · exact henlarged.width_suffices (by rw [← hhigh, ← hsmall]; decide)

end Layout

end Caption
