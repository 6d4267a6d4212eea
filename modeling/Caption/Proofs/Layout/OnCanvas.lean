import Caption.Layout.Basic
import Caption.Proofs.Canvas.Rounding

/-!
# Layouts on a canvas

Measuring a state asks for a canvas and puts everything else on it. Only the canvas can be refused,
and no other part of a layout depends on it.

## Main definitions

* `Layout.contentBox`, `Layout.measuredBox`: the box of the lines, before and after it is raised to
  the font's size
* `Layout.requestedEdges`: the edges that a layout asks of its canvas
* `Layout.onCanvas`: the layout of a state on any canvas

## Main statements

* `Layout.compute_eq_ok_iff`, `Layout.compute_overflows_iff`: when there is a layout, and which
* `Layout.exists_compute_of_fixed`: there is one if the extents fix the canvas
-/
namespace Caption

namespace Layout

variable {α : Type} [Scalar α] (cut : Segmenter) (st : State) (font : Option (Font α))

/-- The font that the text is set in, if there is a text. -/
def usedFont : Option (Font α) := if st.text = [] then none else font

/-- The lines of the text, none without a font. -/
def usedLines : List (Line α) :=
  match usedFont st font with
  | some f => linesOf cut st f
  | none => []

/-- The box of the lines, empty without a font or a text. -/
def contentBox : Rect α :=
  match usedFont st font with
  | some f => boxOf st f (linesOf cut st f)
  | none => .zero

/-- The box of the lines, raised to the font's size across them. -/
def measuredBox : Rect α := (measureBox st (contentBox cut st font)).1

/-- The edges that a layout asks of its canvas. -/
def requestedEdges : Int64 × Int64 :=
  let (_, cx, cy) := measureBox st (contentBox cut st font)
  applyExtents st cx cy

/-- The layout of a state on any canvas. -/
def onCanvas (canvas : Canvas) : Layout α where
  placement := .ofState st
  lines := usedLines cut st font
  boundingBox := measuredBox cut st font
  drawBox := drawBoxOf st (measuredBox cut st font)
  canvas := canvas
  clip := if isFixed st then some (drawBoxOf st (measuredBox cut st font)) else none
  font := usedFont st font

/-- Nothing that is put on a canvas can fail. -/
theorem compute_eq : compute cut st font =
    (Canvas.quantized (requestedEdges cut st font).1 (requestedEdges cut st font).2).map
      (onCanvas cut st font) := by
  unfold compute requestedEdges onCanvas usedLines measuredBox contentBox usedFont
  cases (if st.text = [] then none else font) with
  | none =>
    dsimp only
    cases Canvas.quantized _ _ <;> rfl
  | some f =>
    dsimp only
    cases Canvas.quantized _ _ <;> rfl

variable {cut st font} {l : Layout α}

theorem compute_eq_ok_iff : compute cut st font = .ok l ↔
    Canvas.quantized (requestedEdges cut st font).1 (requestedEdges cut st font).2 =
      .ok l.canvas ∧ l = onCanvas cut st font l.canvas := by
  rw [compute_eq]
  cases Canvas.quantized (requestedEdges cut st font).1 (requestedEdges cut st font).2 with
  | error => simp [Except.map]
  | ok canvas =>
    simp only [Except.map, Except.ok.injEq]
    constructor
    · rintro rfl
      exact ⟨rfl, rfl⟩
    · rintro ⟨rfl, hl⟩
      exact hl.symm

theorem compute_of_requestedEdges {width height : Int64} {canvas : Canvas}
    (h : requestedEdges cut st font = (width, height))
    (hcanvas : Canvas.quantized width height = .ok canvas) :
    compute cut st font = .ok (onCanvas cut st font canvas) := by
  rw [compute_eq, h, hcanvas]
  rfl

/-- A layout is that of its state on its own canvas. -/
theorem eq_onCanvas (h : compute cut st font = .ok l) : l = onCanvas cut st font l.canvas :=
  (compute_eq_ok_iff.1 h).2

theorem placement_of_compute (h : compute cut st font = .ok l) : l.placement = .ofState st :=
  congrArg placement (eq_onCanvas h)

theorem boundingBox_of_compute (h : compute cut st font = .ok l) :
    l.boundingBox = measuredBox cut st font :=
  congrArg boundingBox (eq_onCanvas h)

theorem quantized_of_compute (h : compute cut st font = .ok l) :
    Canvas.quantized (requestedEdges cut st font).1 (requestedEdges cut st font).2 =
      .ok l.canvas :=
  (compute_eq_ok_iff.1 h).1

/-- There is no layout if the last number of 64 bits is asked for. -/
theorem compute_overflows_iff : compute cut st font = .error .overflow ↔
    (requestedEdges cut st font).1 = .maxValue ∨ (requestedEdges cut st font).2 = .maxValue := by
  rw [← Canvas.quantized_eq_overflow_iff, compute_eq]
  cases Canvas.quantized (requestedEdges cut st font).1 (requestedEdges cut st font).2 <;>
    simp [Except.map]

/-! ## Requests that can be rounded -/

theorem extent_ne_maxValue (n : UInt32) : n.toUInt64.toInt64 ≠ .maxValue := by
  intro h
  have hword : n.toUInt64.toNat = Int64.maxValue.toUInt64.toNat :=
    congrArg (fun edge => edge.toUInt64.toNat) h
  have hmax : Int64.maxValue.toUInt64.toNat = 2 ^ 63 - 1 := by decide
  have hlt := n.toNat_lt
  rw [UInt32.toNat_toUInt64] at hword
  omega

theorem size_ne_maxValue (size : Int32) : size.toInt64 ≠ .maxValue := by
  intro h
  have hedge := congrArg Int64.toInt h
  have hmax : Int64.maxValue.toInt = 2 ^ 63 - 1 := by decide
  have hlt := size.toInt_lt
  rw [Int32.toInt_toInt64] at hedge
  omega

/-- No extents ask for the last number. -/
theorem applyExtents_ne_maxValue {cx cy : Int64} (hx : cx ≠ .maxValue) (hy : cy ≠ .maxValue) :
    (applyExtents st cx cy).1 ≠ .maxValue ∧ (applyExtents st cx cy).2 ≠ .maxValue := by
  have hwidth := extent_ne_maxValue st.extentsWidth
  have hheight := extent_ne_maxValue st.extentsHeight
  unfold applyExtents
  dsimp only
  split
  · exact ⟨hx, hy⟩
  split
  · exact ⟨hwidth, hheight⟩
  split
  · exact ⟨hwidth, hy⟩
  split
  · exact ⟨hx, hheight⟩
  · exact ⟨hx, hy⟩

/-- There is a layout if a box measures less than the last number. -/
theorem exists_compute_of_ne
    (hx : (measureBox st (contentBox cut st font)).2.1 ≠ .maxValue)
    (hy : (measureBox st (contentBox cut st font)).2.2 ≠ .maxValue) :
    ∃ l, compute cut st font = .ok l := by
  rw [← Checked.ne_overflow_iff, ne_eq, compute_overflows_iff]
  exact not_or.2 (applyExtents_ne_maxValue hx hy)

section Fixed

variable (cut) (font) (h : isFixed st = true)
include h

theorem requestedEdges_of_fixed : requestedEdges cut st font =
    (st.extentsWidth.toUInt64.toInt64, st.extentsHeight.toUInt64.toInt64) := by
  obtain ⟨hextents, hwrap⟩ : st.extents = true ∧ st.wrap = true := by simpa [isFixed] using h
  simp [requestedEdges, applyExtents, hextents, hwrap]

variable {cut font} in
theorem canvas_of_fixed (hl : compute cut st font = .ok l) : Canvas.quantized
    st.extentsWidth.toUInt64.toInt64 st.extentsHeight.toUInt64.toInt64 = .ok l.canvas := by
  rw [← quantized_of_compute hl, requestedEdges_of_fixed cut font h]

/-- A fixed canvas can always be rounded. -/
theorem exists_compute_of_fixed : ∃ l, compute cut st font = .ok l := by
  rw [← Checked.ne_overflow_iff, ne_eq, compute_overflows_iff, requestedEdges_of_fixed cut font h]
  simp [extent_ne_maxValue]

end Fixed

end Layout

end Caption
