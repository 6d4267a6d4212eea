import Caption.Proofs.Canvas.Rounding
import Caption.Proofs.Layout.OnCanvas
import Caption.Proofs.Scalar.Large

/-!
# Canvases that follow their text

Where the extents do not fix the canvas, each of its axes follows the length of the measured box,
however long it is. A length of `2 ^ 63` or more, infinite ones among them, asks for the last
number of 64 bits. That cannot be rounded up to even, so there is no such canvas and no layout.

## Main statements

* `Layout.pixelsOf_requestedEdges`: what is asked for is the whole pixels of the box, or more
* `Layout.compute_eq_overflow_iff`: the boxes that no canvas can follow
* `Layout.canvas_right`: the requests and the boxes that get the right canvas
-/
namespace Caption

namespace Layout

open Scalar

variable (cut : Segmenter) (st : State) (font : Option (Font Float32))

/-- Both axes are measured by their whole pixels, one of them raised to the font's size. -/
theorem pixelsOf_measureBox (box : Rect Float32) :
    PixelsOf (measureBox st box).1.width (measureBox st box).2.1 ∧
      PixelsOf (measureBox st box).1.height (measureBox st box).2.2 := by
  unfold measureBox
  split
  · exact ⟨pixelsOf_floorToSize st.font.size box.width, pixelsOf_wholePixels box.height⟩
  · exact ⟨pixelsOf_wholePixels box.width, pixelsOf_floorToSize st.font.size box.height⟩

/-! ## Extents -/

variable {st}

/-- Pixels that the extents raise still belong to their length. -/
theorem pixelsOf_raised {length : Float32} {pixels : Int64} (h : PixelsOf length pixels)
    {n : UInt32} (hlt : pixels < n.toUInt64.toInt64) : PixelsOf length n.toUInt64.toInt64 where
  large hlong := by
    have hpixels := h.large hlong
    have hraised := Int64.lt_iff_toInt_lt.1 hlt
    omega
  eq_max_iff := by
    refine iff_of_false (extent_ne_maxValue n) fun hlong => ?_
    have hlast : pixels = .maxValue := h.eq_max_iff.2 hlong
    rw [hlast] at hlt
    exact absurd (Int64.le_maxValue _) (Int64.not_le.2 hlt)

theorem pixelsOf_applyExtents (h : isFixed st = false) {width height : Float32} {cx cy : Int64}
    (hwidth : PixelsOf width cx) (hheight : PixelsOf height cy) :
    PixelsOf width (applyExtents st cx cy).1 ∧ PixelsOf height (applyExtents st cx cy).2 := by
  cases hextents : st.extents with
  | false => simpa [applyExtents, hextents] using ⟨hwidth, hheight⟩
  | true =>
    have hwrap : st.wrap = false := by simpa [isFixed, hextents] using h
    simp only [applyExtents, hextents, hwrap, Bool.not_true, Bool.false_eq_true, if_false]
    split
    next hlt => exact ⟨pixelsOf_raised hwidth hlt, hheight⟩
    next =>
      split
      next hlt => exact ⟨hwidth, pixelsOf_raised hheight hlt⟩
      next => exact ⟨hwidth, hheight⟩

/-! ## Axes -/

section Axes

variable {cut font} {l : Layout Float32}

variable (cut font) in
/-- Where the extents do not fix the canvas, what is asked for belongs to the measured box. -/
theorem pixelsOf_requestedEdges (h : isFixed st = false) :
    PixelsOf (measuredBox cut st font).width (requestedEdges cut st font).1 ∧
      PixelsOf (measuredBox cut st font).height (requestedEdges cut st font).2 := by
  obtain ⟨hwidth, hheight⟩ := pixelsOf_measureBox st (contentBox cut st font)
  exact pixelsOf_applyExtents h hwidth hheight

/-- There is no layout if the canvas is to follow a box of `2 ^ 63` pixels or more. -/
theorem compute_eq_overflow_iff : compute cut st font = .error .overflow ↔
    isFixed st = false ∧ (ofInt (2 ^ 63) ≤ (measuredBox cut st font).width ∨
      ofInt (2 ^ 63) ≤ (measuredBox cut st font).height) := by
  rw [compute_overflows_iff]
  cases hfixed : isFixed st with
  | true =>
    simp [requestedEdges_of_fixed cut font hfixed, extent_ne_maxValue]
  | false =>
    obtain ⟨hwidth, hheight⟩ := pixelsOf_requestedEdges cut font hfixed
    simp [hwidth.eq_max_iff, hheight.eq_max_iff]

/-- A long axis gets the greatest edge. -/
theorem eq_max_of_compute (h : compute cut st font = .ok l) (hfixed : isFixed st = false) :
    (ofInt 8192 ≤ l.boundingBox.width → l.canvas.width = 8192) ∧
      (ofInt 8192 ≤ l.boundingBox.height → l.canvas.height = 8192) := by
  obtain ⟨hquantized, hl⟩ := compute_eq_ok_iff.1 h
  obtain ⟨hwidth, hheight⟩ := Canvas.quantized_eq_ok_iff.1 hquantized
  obtain ⟨hpixels, hpixels'⟩ := pixelsOf_requestedEdges cut font hfixed
  rw [hl]
  exact ⟨fun hlong => Canvas.eq_max_of_quantizeEdge hwidth (hpixels.large hlong),
    fun hlong => Canvas.eq_max_of_quantizeEdge hheight (hpixels'.large hlong)⟩

end Axes

/-- There is a canvas for all requests but the last number of 64 bits. Its edges are the least even
ones from the requests up, within the bounds, and longer requests get edges as long. There is a
layout unless its canvas is to follow a box of `2 ^ 63` pixels or more; a long axis that the canvas
follows gets the greatest edge. -/
theorem canvas_right (width height : Int64) (cut : Segmenter) (st : State)
    (font : Option (Font Float32)) :
    (Canvas.quantized width height = .error .overflow ↔ width = .maxValue ∨ height = .maxValue) ∧
      (∀ c, Canvas.quantized width height = .ok c →
        Canvas.RightEdge width.toInt c.width ∧ Canvas.RightEdge height.toInt c.height ∧
          ∀ width' height' c', width ≤ width' → height ≤ height' →
            Canvas.quantized width' height' = .ok c' →
              c.width ≤ c'.width ∧ c.height ≤ c'.height) ∧
      (compute cut st font = .error .overflow ↔ isFixed st = false ∧
        (ofInt (2 ^ 63) ≤ (measuredBox cut st font).width ∨
          ofInt (2 ^ 63) ≤ (measuredBox cut st font).height)) ∧
      (∀ l, compute cut st font = .ok l → l.boundingBox = measuredBox cut st font ∧
        (isFixed st = false →
          (ofInt 8192 ≤ l.boundingBox.width → l.canvas.width = 8192) ∧
            (ofInt 8192 ≤ l.boundingBox.height → l.canvas.height = 8192))) := by
  refine ⟨Canvas.quantized_eq_overflow_iff, fun c hc => ?_, compute_eq_overflow_iff, fun l hl => ?_⟩
  · obtain ⟨hwidth, hheight⟩ := Canvas.quantized_eq_ok_iff.1 hc
    refine ⟨Canvas.rightEdge_of_quantizeEdge hwidth, Canvas.rightEdge_of_quantizeEdge hheight, ?_⟩
    intro width' height' c' hle hle' hc'
    obtain ⟨hwidth', hheight'⟩ := Canvas.quantized_eq_ok_iff.1 hc'
    exact ⟨Canvas.quantizeEdge_mono hwidth hwidth' hle,
      Canvas.quantizeEdge_mono hheight hheight' hle'⟩
  · exact ⟨boundingBox_of_compute hl, eq_max_of_compute hl⟩

/-- Two letters, each half an em wide. -/
def twoLetters : State :=
  { State.initial with
    text := ['H', 'i']
    font := ⟨"Arial", 20, .plain⟩ }

/-- A font whose cells are only `10 ^ -digits` units high, so that its letters are very wide. -/
def shallowFont (digits : Nat) : Font Float32 :=
  ⟨.block "Block" false false (decimal 1 digits) zero, ofInt 20, .plain⟩

/-- A longer request, and a line of about `2 * 10 ^ 14` pixels on the greatest canvas. -/
theorem canvas_right_shallow :
    let font := some (shallowFont 10)
    Canvas.quantized 7 33 = .ok ⟨32, 34⟩ ∧ Canvas.quantized 41 33 = .ok ⟨42, 34⟩ ∧
      Canvas.RightEdge 33 34 ∧ (32 : UInt32) ≤ 42 ∧
      twoLetters.extents = false ∧ ofInt 8192 ≤ (measuredBox .words twoLetters font).width ∧
      ∃ l, compute .words twoLetters font = .ok l ∧ l.canvas.width = 8192 := by
  intro font
  obtain ⟨-, hrequest, hoverflow, hlayout⟩ := canvas_right 7 33 .words twoLetters font
  have hsmall : Canvas.quantized 7 33 = .ok ⟨32, 34⟩ := by rfl
  have hlarge : Canvas.quantized 41 33 = .ok ⟨42, 34⟩ := by rfl
  obtain ⟨-, hright, hmono⟩ := hrequest _ hsmall
  have hlong : ofInt 8192 ≤ (measuredBox .words twoLetters font).width := by decide +kernel
  have hwidth : ¬ofInt (2 ^ 63) ≤ (measuredBox .words twoLetters font).width := by decide +kernel
  have hheight : ¬ofInt (2 ^ 63) ≤ (measuredBox .words twoLetters font).height := by decide +kernel
  refine ⟨hsmall, hlarge, hright, (hmono 41 33 _ (by decide) (by decide) hlarge).1, rfl, hlong, ?_⟩
  cases hl : compute .words twoLetters font with
  | error =>
    obtain ⟨-, hwide | hhigh⟩ := hoverflow.1 hl
    · exact absurd hwide hwidth
    · exact absurd hhigh hheight
  | ok l =>
    obtain ⟨hbox, hfollows⟩ := hlayout l hl
    exact ⟨l, rfl, (hfollows rfl).1 (hbox ▸ hlong)⟩

/-- The longest request has no canvas, though its right edge is the greatest, and a line of about
`2 * 10 ^ 24` pixels has no layout. -/
theorem canvas_overflows_for_last :
    Canvas.quantized .maxValue 33 = .error .overflow ∧
      Canvas.RightEdge Int64.maxValue.toInt 8192 ∧ twoLetters.extents = false ∧
      ofInt 8192 ≤ (measuredBox .words twoLetters (some (shallowFont 20))).width ∧
      compute .words twoLetters (some (shallowFont 20)) = .error .overflow := by
  have hlong : ofInt (2 ^ 63) ≤ (measuredBox .words twoLetters (some (shallowFont 20))).width := by
    decide +kernel
  exact ⟨rfl, Canvas.rightEdge_iff.2 (by decide), rfl, by decide +kernel,
    compute_eq_overflow_iff.2 ⟨rfl, .inl hlong⟩⟩

end Layout

end Caption
