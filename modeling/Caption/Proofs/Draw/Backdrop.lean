import Caption.Proofs.Draw.Finished
import Caption.Proofs.Draw.Kept
import Caption.Proofs.Draw.Unsigned
import Caption.Proofs.Layout.Request

/-!
# Pictures without a text

What is drawn before the text is the backdrop. Without a font or without a text it is all there is:
clear while the canvas follows the text, since a box without lines has no room, and of one colour
where the extents ask for a size.

## Main definitions

* `backdrop`: the picture of a layout when its text is left out

## Main statements

* `rasterize_of_not_hasText`: a layout without a text shows its backdrop
* `rasterize_without_text`: no font and no text are the same, and what they show
-/
namespace Caption

open Scalar

section Backdrop

variable (d : Backend) (name : String) (st : State) (l : Layout Float32)

/-- The picture of a layout when its text is left out. -/
def backdrop : Checked Pixels :=
  if canDraw l.canvas then .ok (drawBackground d name st l).value.toPixels
  else Pixels.blank l.canvas

/-- A layout without a text shows its backdrop. -/
theorem rasterize_of_not_hasText (h : l.hasText = false) :
    (rasterize d name st l).value = backdrop d name st l := by
  unfold backdrop
  cases hdraw : canDraw l.canvas with
  | true =>
    rw [rasterize_of_canDraw d name st l hdraw, value_drawText, if_pos rfl]
    cases l.font with
    | none => rfl
    | some font => simp [h]
  | false =>
    rw [rasterize_of_not_canDraw d name st l hdraw]
    rfl

end Backdrop

theorem Canvas.Legal.canDraw {c : Canvas} (h : c.Legal) : Caption.canDraw c = true := by
  have hmax := h.width.le_max
  simp only [Caption.canDraw, h.width.ne_zero, h.height.ne_zero, ne_eq, not_false_eq_true,
    decide_true, Bool.and_self, Bool.true_and, decide_eq_true_eq]
  omega

/-! ## Layouts without lines -/

namespace Layout

variable (cut : Segmenter) (st : State)

/-- Without a text no font is asked. -/
theorem compute_of_text_eq_nil (h : st.text = []) (font : Option (Font Float32)) :
    compute cut st font = compute cut st none := by
  simp only [compute, h, if_true]

/-- Without a font the text is not read. -/
theorem compute_none_congr_text (text : List Char) :
    compute cut { st with text := text } (none : Option (Font Float32)) = compute cut st none := by
  simp only [compute, ite_self]
  rfl

theorem contentBox_none : contentBox cut st (none : Option (Font Float32)) = .zero := by
  simp only [contentBox, usedFont, ite_self]

/-- A box without lines has a canvas. -/
theorem exists_compute_none : ∃ l, compute cut st (none : Option (Font Float32)) = .ok l := by
  have hnothing : wholePixels (zero : Float32) ≠ .maxValue := by decide +kernel
  have hraised : (floorToSize st.font.size (zero : Float32)).2 ≠ .maxValue := by
    unfold floorToSize
    dsimp only
    split
    · exact size_ne_maxValue st.font.size
    · exact hnothing
  refine exists_compute_of_ne ?_ ?_
  all_goals
    rw [contentBox_none, measureBox]
    split
  · exact hraised
  · exact hnothing
  · exact hnothing
  · exact hraised

/-- A box without lines has no room along them, whatever the font's size raises across them. -/
theorem isEmpty_measuredBox_none :
    (measuredBox cut st (none : Option (Font Float32))).isEmpty = true := by
  have hzero : le (zero : Float32) zero = true := by decide
  rw [measuredBox, contentBox_none, measureBox]
  split
  · exact Bool.or_eq_true_iff.2 (.inr hzero)
  · exact Bool.or_eq_true_iff.2 (.inl hzero)

/-- An axis without a length gets the shortest edge, which is longer. -/
theorem zero_lt_edge {edge : UInt32}
    (h : Canvas.quantizeEdge (wholePixels (zero : Float32)) = .ok edge) :
    (zero : Float32) < Float32.ofNat edge.toNat := by
  have hnothing : wholePixels (zero : Float32) = 0 := by decide +kernel
  rw [hnothing] at h
  obtain rfl : 32 = edge := Except.ok.inj h
  decide +kernel

variable {cut st} in
theorem growsPast_none {l : Layout Float32} (hl : compute cut st none = .ok l)
    (h : st.extents = false) : growsPast l = true := by
  have hrequest : requestedEdges cut st (none : Option (Font Float32)) =
      (measureBox st (Rect.zero : Rect Float32)).2 := by
    simp [requestedEdges, contentBox_none, applyExtents, h]
  obtain ⟨hwidth, hheight⟩ := Canvas.quantized_eq_ok_iff.1 (quantized_of_compute hl)
  rw [growsPast, boundingBox_of_compute hl, measuredBox, contentBox_none]
  rw [hrequest] at hwidth hheight
  unfold measureBox at hwidth hheight ⊢
  split at hwidth
  next hv =>
    rw [if_pos hv] at hheight ⊢
    exact Bool.or_eq_true_iff.2 (.inr (decide_eq_true (zero_lt_edge hheight)))
  next hv =>
    rw [if_neg hv]
    exact Bool.or_eq_true_iff.2 (.inl (decide_eq_true (zero_lt_edge hwidth)))

end Layout

/-! ## Backdrops -/

section Backdrop

variable (d : Backend) (name : String) {st : State} {l : Layout Float32} (hlegal : l.canvas.Legal)
include hlegal

/-- A box without room leaves the canvas clear, if the canvas follows it. -/
theorem backdrop_of_isEmpty (hempty : l.boundingBox.isEmpty = true) (hgrows : growsPast l = true)
    (h : st.extents = false) : backdrop d name st l = .ok (.clear l.canvas) := by
  have hclear : (drawBackground d name st l).value =
      .filled l.canvas.width.toNat l.canvas.height.toNat .clear := by
    rw [drawBackground, hgrows, h, hempty]
    rfl
  rw [backdrop, if_pos hlegal.canDraw, hclear, Picture.toPixels_filled_clear]

/-- Where the extents ask for a size, the whole canvas has the background's colour. -/
theorem at?_backdrop (h : st.extents = true) {p : Pixels} (hp : backdrop d name st l = .ok p)
    (x y : Nat) : p.at? x y =
      if x < l.canvas.width.toNat ∧ y < l.canvas.height.toNat then
        some (NativeColor.ofBgr st.backColor st.backOpacity).toRgba.kept
      else none := by
  have hcolor : st.backgroundColor = .ofBgr st.backColor st.backOpacity := by
    simp [State.backgroundColor, h]
  have hfilled : (drawBackground d name st l).value =
      .filled l.canvas.width.toNat l.canvas.height.toNat
        (Ink.ofColor (.ofBgr st.backColor st.backOpacity)).color := by
    rw [drawBackground, h, Bool.not_true, Bool.and_false, hcolor]
    rfl
  rw [backdrop, if_pos hlegal.canDraw, hfilled] at hp
  rw [← Except.ok.inj hp, Picture.at?_toPixels rfl, Picture.pixel?_filled, apply_ite (Option.map _)]
  rfl

end Backdrop

/-- No font and no text are the same, and they show the background alone. While the canvas follows
the text there is nothing to fill and every byte is zero. Where the extents ask for a size every
pixel has the background's colour as a picture keeps it: with the alpha of its opacity, exact if it
is opaque and clear if it has no opacity. -/
theorem rasterize_without_text (d : Backend) (cut : Segmenter) (st : State)
    (font : Option (Font Float32)) (name : String) :
    let bare := { st with text := [] }
    let background := (NativeColor.ofBgr st.backColor st.backOpacity).toRgba
    ∃ l p, Layout.compute cut st (none : Option (Font Float32)) = .ok l ∧
      Layout.compute cut bare font = .ok l ∧ l.lines = [] ∧
      (rasterize d name st l).value = .ok p ∧ (rasterize d name bare l).value = .ok p ∧
      (st.extents = false → p = .clear l.canvas ∧ ∀ b ∈ p.data.data, b = 0) ∧
      (st.extents = true →
        (∀ x y, p.at? x y =
          if x < l.canvas.width.toNat ∧ y < l.canvas.height.toNat then some background.kept
          else none) ∧
        background.kept.alpha = background.alpha ∧
        (background.alpha = 255 → background.kept = background) ∧
        (background.alpha = 0 → background.kept = ⟨0, 0, 0, 0⟩)) := by
  intro bare background
  obtain ⟨l, hl⟩ := Layout.exists_compute_none cut st
  have hbare : Layout.compute cut bare font = .ok l :=
    calc Layout.compute cut bare font
        = Layout.compute cut bare none := Layout.compute_of_text_eq_nil cut bare rfl font
      _ = Layout.compute cut st none := Layout.compute_none_congr_text cut st []
      _ = .ok l := hl
  have hfont : l.font = none := (congrArg Layout.font (Layout.eq_onCanvas hl)).trans (ite_self _)
  have hlines : l.lines = [] := by
    refine (congrArg Layout.lines (Layout.eq_onCanvas hl)).trans ?_
    simp [Layout.onCanvas, Layout.usedLines, Layout.usedFont]
  have hlegal : l.canvas.Legal := Canvas.legal_of_quantized (Layout.quantized_of_compute hl)
  have hbackdrop (a : State) : (rasterize d name a l).value = backdrop d name a l :=
    rasterize_of_not_hasText d name a l (by simp [Layout.hasText, hfont])
  have hempty : l.boundingBox.isEmpty = true :=
    Layout.boundingBox_of_compute hl ▸ Layout.isEmpty_measuredBox_none cut st
  have hclear (a : State) (h : st.extents = false) (ha : a.extents = false) :
      backdrop d name a l = .ok (.clear l.canvas) :=
    backdrop_of_isEmpty d name hlegal hempty (Layout.growsPast_none hl h) ha
  obtain ⟨p, hp⟩ := (exists_rasterize_iff d _ _ _).2 hlegal.countable
  refine ⟨l, p, hl, hbare, hlines, hp, ?_, fun h => ?_, fun h => ⟨fun x y => ?_, ?_, ?_, ?_⟩⟩
  · rw [← hp, hbackdrop st, hbackdrop bare]
    cases h : st.extents with
    | false => rw [hclear st h h, hclear bare h h]
    | true => simp [backdrop, drawBackground, State.backgroundColor, bare, h]
  · have hblank : p = .clear l.canvas :=
      Except.ok.inj (hp.symm.trans ((hbackdrop st).trans (hclear st h h)))
    refine ⟨hblank, fun b hb => ?_⟩
    rw [hblank, ← Array.mem_toList_iff, Pixels.toList_clear] at hb
    exact List.eq_of_mem_replicate hb
  · exact at?_backdrop d name hlegal h ((hbackdrop st).symm.trans hp) x y
  · exact background.alpha_kept
  · exact background.kept_of_opaque
  · exact background.kept_of_clear

/-- No text on opaque red. -/
def emptyRed : State :=
  { State.initial with
    backColor := 0xFF
    backOpacity := 100
    wrap := true
    extentsWidth := 64
    extentsHeight := 50 }

/-- The same on a canvas of a fixed size. -/
def fixedRed : State := { emptyRed with extents := true }

theorem rasterize_without_text_red :
    let font : Option (Font Float32) :=
      some ⟨.block "Block" false false (Scalar.ofInt 800) (Scalar.ofInt (-200)),
        Scalar.ofInt 22, .plain⟩
    emptyRed.extents = false ∧ fixedRed.extents = true ∧
      (∃ l, Layout.compute .words emptyRed font = .ok l ∧
        (rasterize .sampled "text" emptyRed l).value = .ok (.clear ⟨32, 32⟩)) ∧
      ∃ l p, Layout.compute .words fixedRed font = .ok l ∧
        (rasterize .sampled "text" fixedRed l).value = .ok p ∧
        p.at? 63 49 = some ⟨255, 0, 0, 255⟩ := by
  intro font
  obtain ⟨l, p, hl, hoff, -, -, hpicture, hclear, -⟩ :=
    rasterize_without_text .sampled .words emptyRed font "text"
  obtain ⟨m, q, hm, hon, -, -, hfilled, -, hcolor⟩ :=
    rasterize_without_text .sampled .words fixedRed font "text"
  obtain ⟨hblank, -⟩ := hclear rfl
  obtain ⟨hpixels, -, hopaque, -⟩ := hcolor rfl
  have hsmall : l.canvas = ⟨32, 32⟩ := by
    have hrequest :
        Layout.requestedEdges .words emptyRed (none : Option (Font Float32)) = (0, 0) := by
      decide +kernel
    have hcanvas := Layout.quantized_of_compute hl
    rw [hrequest] at hcanvas
    exact (Except.ok.inj hcanvas).symm
  have hlarge : m.canvas = ⟨64, 50⟩ := (Except.ok.inj (Layout.canvas_of_fixed rfl hm)).symm
  have hred : (NativeColor.ofBgr fixedRed.backColor fixedRed.backOpacity).toRgba =
      ⟨255, 0, 0, 255⟩ := by decide
  refine ⟨rfl, rfl, ⟨l, hoff, ?_⟩, m, q, hon, hfilled, ?_⟩
  · rw [← hsmall, ← hblank]
    exact hpicture
  · have hcorner := hpixels 63 49
    rw [hlarge, hopaque (congrArg Rgba.alpha hred), hred] at hcorner
    exact hcorner

end Caption
