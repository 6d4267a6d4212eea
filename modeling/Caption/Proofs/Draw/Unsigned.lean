import Caption.Draw.Sampled
import Caption.Proofs.Draw.Whole
import Caption.Proofs.Layout.Settled

/-!
# Pictures without the sign of zeros

Bounds and the decision what to draw do not tell the two zeros apart. If masks do not either, a
layout has the same picture with either of them, as long as no place in its box depends on the sign.

## Main definitions

* `Backend.SignFree`: masks do not tell the two zeros apart
* `Plan.drawn?`: what a decision draws

## Main statements

* `Backend.sampled_signFree`: drawing by samples
* `drawn?_planText_unsigned`: the sign of a zero decides nothing that is drawn
* `value_rasterize_unsigned`: nor does it change a pixel
-/
namespace Caption

open Scalar

/-! ## Bounds and masks -/

namespace Trace

open Float.Model (UnpackedFloat)

theorem lt_eq_unpack_lt (a b : Float) : decide (a < b) = a.toModel.unpack.lt b.toModel.unpack :=
  have h : a < b ↔ a.toModel.unpack.lt b.toModel.unpack = true := decide_eq_true_iff
  Bool.eq_iff_iff.2 (decide_eq_true_iff.trans h)

theorem unpack_widened_sub (x : Float32) (s : UnpackedFloat.Sign) {y : Float32}
    (hy : (widened y).toModel.unpack = .zero s) :
    (widened x - widened y).toModel.unpack = UnpackedFloat.unpack .binary64
      (UnpackedFloat.pack .binary64
        (UnpackedFloat.sub .binary64 (widened x).toModel.unpack (.zero s))) := by
  rw [← hy]
  rfl

theorem spans_unsigned (low high : Float32) :
    spans (Single.unsigned low) high = spans low high := by
  refine Single.apply_unsigned (f := (spans · high)) ?_ low
  have hle : le zero high = le (-zero) high := by
    rw [← Single.le_unsigned_left (-zero), Single.unsigned_neg_zero]
  change decide (zero ≤ high) = decide (-zero ≤ high) at hle
  unfold spans
  simp only [hle, Bool.and_assoc, lt_eq_unpack_lt]
  rw [unpack_widened_sub high .positive rfl, unpack_widened_sub high .negative rfl]
  congr 1
  cases (widened high).toModel.unpack with
  | notANumber | infinity | finite => rfl
  | zero s => cases s <;> decide

namespace Bounds

theorem areEdges_unsigned (left top right bottom : Float32) :
    areEdges (Single.unsigned left) (Single.unsigned top) right bottom =
      areEdges left top right bottom := by
  have hfinite (x : Float32) : (Single.unsigned x).isFinite = x.isFinite :=
    Single.apply_unsigned (f := Float32.isFinite) rfl x
  simp only [areEdges, hfinite, spans_unsigned]

/-- The same bounds, with no negative zero for their start. -/
def unsigned (b : Bounds) : Bounds where
  left := Single.unsigned b.left
  top := Single.unsigned b.top
  right := b.right
  bottom := b.bottom
  valid := by rw [areEdges_unsigned, b.valid]

theorem ofEdges?_unsigned (left top right bottom : Float32) :
    ofEdges? (Single.unsigned left) (Single.unsigned top) right bottom =
      (ofEdges? left top right bottom).map unsigned := by
  unfold ofEdges?
  simp only [areEdges_unsigned]
  split <;> rfl

end Bounds

end Trace

/-- A mask does not tell the two zeros apart. -/
def Backend.SignFree (d : Backend) : Prop := ∀ c b, d.mask c b.unsigned = d.mask c b

theorem Coverage.isThin_unsigned (low high : Float32) :
    isThin (Single.unsigned low) high = isThin low high := by
  refine Single.apply_unsigned (f := (isThin · high)) ?_ low
  change le (high - zero) (1 / 4096) = le (high - -zero) (1 / 4096)
  rw [Single.sub_zero, Single.sub_neg_zero, Single.le_unsigned_left]

theorem Mask.edge_unsigned (x : Float32) : edge (Single.unsigned x) = edge x :=
  Single.apply_unsigned (f := edge) (by decide) x

theorem Backend.sampled_signFree : sampled.SignFree := by
  intro c b
  have hvisible : Coverage.isVisible b.unsigned = Coverage.isVisible b := by
    simp only [Coverage.isVisible, Trace.Bounds.unsigned, Coverage.isThin_unsigned]
  have hleft : Mask.edge b.unsigned.left = Mask.edge b.left := Mask.edge_unsigned b.left
  have htop : Mask.edge b.unsigned.top = Mask.edge b.top := Mask.edge_unsigned b.top
  change Mask.ofBounds b.unsigned = Mask.ofBounds b
  rw [Mask.ofBounds, hvisible, hleft, htop]
  rfl

section Settled

variable {r : Rect Float32} (h : r.Settled)
include h

theorem Rect.Settled.right_unsigned : r.unsigned.right = r.right := h.x.add_extent

theorem Rect.Settled.bottom_unsigned : r.unsigned.bottom = r.bottom := h.y.add_extent

theorem drawableRect?_unsigned :
    (drawableRect? r.unsigned).toOption = (drawableRect? r).toOption.map Trace.Bounds.unsigned := by
  unfold drawableRect?
  rw [h.right_unsigned, h.bottom_unsigned]
  have hedges := Trace.Bounds.ofEdges?_unsigned r.x r.y r.right r.bottom
  change Trace.Bounds.ofEdges? r.unsigned.x r.unsigned.y r.right r.bottom = _ at hedges
  rw [hedges]
  cases Trace.Bounds.ofEdges? r.x r.y r.right r.bottom <;> rfl

end Settled

/-! ## Plans -/

/-- What a decision draws. -/
def Plan.drawn? : Except DrawError Plan → Option Plan
  | .ok (.draw trace bounds mask) => some (.draw trace bounds mask)
  | _ => none

theorem drawn?_planText (d : Backend) (l : Layout Float32) (font : Font Float32) :
    Plan.drawn? (planText d l font) =
      let path := textPath font (l.arrange l.drawBox)
      let trace := Trace.ofPath (canvasPath path)
      if path.isEmpty then none
      else trace.drawable?.bind fun bounds =>
        match l.clip with
        | none => some (.draw trace bounds none)
        | some clip =>
          if clip.isEmpty then none
          else (drawableRect? clip).toOption.map fun b =>
            .draw trace bounds (some (d.mask l.canvas b)) := by
  unfold planText
  dsimp only
  split
  · rfl
  · cases (Trace.ofPath (canvasPath (textPath font (l.arrange l.drawBox)))).drawable? with
    | none => rfl
    | some bounds =>
      cases l.clip with
      | none => rfl
      | some clip =>
        dsimp only
        by_cases hempty : clip.isEmpty = true
        · simp only [hempty, if_true]
          rfl
        · simp only [hempty]
          cases drawableRect? clip <;> rfl

theorem drawn?_of_isEmpty (d : Backend) {l : Layout Float32} {clip : Rect Float32}
    (hclip : l.clip = some clip) (h : clip.isEmpty = true) (font : Font Float32) :
    Plan.drawn? (planText d l font) = none := by
  rw [drawn?_planText]
  simp only [hclip, h, if_true, Option.bind_fun_none, ite_self]

/-- The sign of a zero decides nothing that is drawn. -/
theorem drawn?_planText_unsigned {d : Backend} (hd : d.SignFree) {l : Layout Float32}
    (h : l.SignFree) (font : Font Float32) :
    Plan.drawn? (planText d l.unsigned font) = Plan.drawn? (planText d l font) := by
  rcases h with ⟨hsettled, hclip⟩ | ⟨clip, hclip, hempty⟩
  · have harrange : l.unsigned.arrange l.unsigned.drawBox = l.arrange l.drawBox :=
      l.arrange_unsigned hsettled
    rw [drawn?_planText, drawn?_planText, harrange]
    cases hsome : l.clip with
    | none =>
      have hnone : l.unsigned.clip = none := congrArg (Option.map Rect.unsigned) hsome
      simp only [hnone]
    | some clip =>
      have hclip' : l.unsigned.clip = some clip.unsigned :=
        congrArg (Option.map Rect.unsigned) hsome
      have hclipSettled : clip.Settled := hclip clip hsome ▸ hsettled
      have hempty : clip.unsigned.isEmpty = clip.isEmpty := rfl
      simp only [hclip', hempty, drawableRect?_unsigned hclipSettled, Option.map_map,
        Function.comp_def, hd _ _]
      rfl
  · have hclip' : l.unsigned.clip = some clip.unsigned :=
      congrArg (Option.map Rect.unsigned) hclip
    rw [drawn?_of_isEmpty d hclip hempty, drawn?_of_isEmpty d hclip' hempty]

theorem value_drawText (d : Backend) (name : String) (st : State) (l : Layout Float32)
    (p : Picture) :
    (drawText d name st l p).value =
      match l.font with
      | none => p
      | some font =>
        if !l.hasText then p
        else (Plan.drawn? (planText d l font)).elim p fun plan => drawPlan d st font plan p := by
  unfold drawText
  cases l.font with
  | none => rfl
  | some font =>
    dsimp only
    split
    · rfl
    · match planText d l font with
      | .ok .blank => rfl
      | .ok .clipped => rfl
      | .ok (.draw ..) => rfl
      | .error _ => rfl

/-- The sign of a zero changes no pixel. -/
theorem value_rasterize_unsigned {d : Backend} (hd : d.SignFree) (name : String) (st : State)
    {l : Layout Float32} (h : l.SignFree) :
    (rasterize d name st l.unsigned).value = (rasterize d name st l).value := by
  have htext (p : Picture) :
      (drawText d name st l.unsigned p).value = (drawText d name st l p).value := by
    rw [value_drawText, value_drawText]
    simp only [drawn?_planText_unsigned hd h]
    rfl
  have hcanvas : l.unsigned.canvas = l.canvas := rfl
  cases hdraw : canDraw l.canvas with
  | true =>
    rw [rasterize_of_canDraw d name st l hdraw, rasterize_of_canDraw d name st l.unsigned hdraw,
      htext]
    rfl
  | false =>
    rw [rasterize_of_not_canDraw d name st l hdraw,
      rasterize_of_not_canDraw d name st l.unsigned hdraw]
    rfl

end Caption
