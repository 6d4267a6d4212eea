import Caption.Proofs.Draw.Backdrop
import Caption.Proofs.Draw.Masked

/-!
# Clipped pictures

Everything that draws a text is given the mask of its clip. So if a backend keeps to its masks, a
pixel whose centre is outside the clip keeps what the backdrop gave it.

## Main statements

* `pixel?_drawPlan_of_masked`: a text keeps to its mask
* `rasterize_outside_clip`: a picture outside its clip
-/
namespace Caption

/-! ## Texts -/

section Masked

variable {d : Backend} (hd : d.KeepsToMask) (p : Picture) {mask : Option Mask} {x y : Nat}
variable (h : allowed mask x y = false)
include hd h

/-- Outline, letters and the outline of a bold face all keep to the mask. -/
theorem pixel?_drawPlan_of_masked (st : State) (font : Font Float32) (trace : Trace)
    (bounds : Trace.Bounds) :
    (drawPlan d st font (.draw trace bounds mask) p).pixel? x y = p.pixel? x y := by
  unfold drawPlan
  dsimp only
  split <;> split <;> simp only [hd.pixel?_strokeTrace _ _ _ _ _ _ _ h,
    hd.pixel?_fillTrace _ _ _ _ _ _ _ h]

end Masked

/-! ## Clips -/

section Clip

variable {l : Layout Float32} {clip : Rect Float32} (hclip : l.clip = some clip)

theorem drawableRect?_eq_ok_iff {r : Rect Float32} {b : Trace.Bounds} :
    drawableRect? r = .ok b ↔ Trace.Bounds.ofEdges? r.x r.y r.right r.bottom = some b := by
  unfold drawableRect?
  cases Trace.Bounds.ofEdges? r.x r.y r.right r.bottom <;> simp

/-- The bounds of a rectangle cover the same points. -/
theorem covers_of_drawableRect? {r : Rect Float32} {b : Trace.Bounds} (h : drawableRect? r = .ok b)
    {x y : Rat} (hb : b.Covers x y) : r.Covers x y := by
  obtain ⟨_, hbounds⟩ := Option.dite_none_right_eq_some.1 (drawableRect?_eq_ok_iff.1 h)
  obtain rfl := Option.some.inj hbounds
  exact hb

include hclip

/-- What is drawn under a clip is masked by it. -/
theorem drawn?_of_clip {d : Backend} {font : Font Float32} {plan : Plan}
    (h : Plan.drawn? (planText d l font) = some plan) :
    ∃ trace bounds b, drawableRect? clip = .ok b ∧
      plan = .draw trace bounds (some (d.mask l.canvas b)) := by
  rw [drawn?_planText] at h
  simp only [hclip, Option.ite_none_left_eq_some, Option.bind_eq_some_iff,
    Option.map_eq_some_iff] at h
  obtain ⟨-, bounds, -, -, b, hb, rfl⟩ := h
  refine ⟨_, bounds, b, ?_, rfl⟩
  cases hrect : drawableRect? clip with
  | ok b' =>
    rw [hrect] at hb
    exact congrArg _ (Option.some.inj hb)
  | error => simp [hrect, Except.toOption] at hb

variable {d : Backend} (name : String) (st : State)

/-- Outside its clip a text changes nothing. -/
theorem pixel?_drawText_of_clip (hd : d.KeepsToMask) (p : Picture) {x y : Nat}
    (hout : ¬clip.Covers (x + 1 / 2) (y + 1 / 2)) :
    (drawText d name st l p).value.pixel? x y = p.pixel? x y := by
  rw [value_drawText]
  cases l.font with
  | none => rfl
  | some font =>
    dsimp only
    split
    · rfl
    · cases hplan : Plan.drawn? (planText d l font) with
      | none => rfl
      | some plan =>
        obtain ⟨trace, bounds, b, hb, rfl⟩ := drawn?_of_clip hclip hplan
        have hmasked : allowed (some (d.mask l.canvas b)) x y = false :=
          Bool.eq_false_iff.2 fun hin =>
            hout (covers_of_drawableRect? hb (hd.covers_of_mask _ _ _ _ hin))
        exact pixel?_drawPlan_of_masked hd p hmasked st font trace bounds

theorem drawText_of_clip_isEmpty (p : Picture) (h : clip.isEmpty = true) :
    (drawText d name st l p).value = p := by
  rw [value_drawText]
  cases l.font with
  | none => rfl
  | some font =>
    simp only [drawn?_of_isEmpty d hclip h]
    split <;> rfl

/-- Nothing of a text is seen outside its clip: a pixel whose centre the clip does not cover is that
of the backdrop, and under an empty clip all of them are. -/
theorem rasterize_outside_clip (hd : d.KeepsToMask) :
    Checked.Both (fun p q => ∀ x y : Nat, ¬clip.Covers (x + 1 / 2) (y + 1 / 2) →
        p.at? x y = q.at? x y)
      (rasterize d name st l).value (backdrop d name st l) ∧
      (clip.isEmpty = true → (rasterize d name st l).value = backdrop d name st l) := by
  unfold backdrop
  cases hdraw : canDraw l.canvas with
  | false =>
    rw [rasterize_of_not_canDraw d name st l hdraw, if_neg Bool.false_ne_true]
    exact ⟨.refl (fun _ _ _ _ => rfl) _, fun _ => rfl⟩
  | true =>
    rw [rasterize_of_canDraw d name st l hdraw, if_pos rfl]
    have hbackground := Picture.edges_drawBackground d name st l
    have htext := (Picture.edges_drawText _ d name st l).trans hbackground
    constructor
    · refine .ok fun x y hout => ?_
      rw [Picture.at?_toPixels htext, Picture.at?_toPixels hbackground,
        pixel?_drawText_of_clip hclip name st hd _ hout]
    · intro hempty
      rw [drawText_of_clip_isEmpty hclip name st _ hempty]

end Clip

/-- A text of two letters under a clip that leaves out the first pixel. -/
def cornerCut (width : Float32) : Layout Float32 :=
  { Layout.onCanvas .words
      { State.initial with text := ['H', 'i'], font := ⟨"Block", 22, .plain⟩ }
      (some ⟨.block "Block" false false (Scalar.ofInt 800) (Scalar.ofInt (-200)),
        Scalar.ofInt 22, .plain⟩) ⟨32, 32⟩ with
    clip := some ⟨8, 4, width, 8⟩ }

theorem rasterize_outside_clip_corner :
    Backend.sampled.KeepsToMask ∧ ¬Rect.Covers ⟨8, 4, 16, 8⟩ (0 + 1 / 2) (0 + 1 / 2) ∧
      (∃ p q, (rasterize .sampled "text" .initial (cornerCut 16)).value = .ok p ∧
        backdrop .sampled "text" .initial (cornerCut 16) = .ok q ∧ p.at? 0 0 = q.at? 0 0) ∧
      (⟨8, 4, 0, 8⟩ : Rect Float32).isEmpty = true ∧
      (rasterize .sampled "text" .initial (cornerCut 0)).value =
        backdrop .sampled "text" .initial (cornerCut 0) := by
  have hd : Backend.sampled.KeepsToMask := Backend.sampled_keepsToMask
  have hout : ¬Rect.Covers ⟨8, 4, 16, 8⟩ ((0 : Nat) + 1 / 2) ((0 : Nat) + 1 / 2) := by
    rintro ⟨left, -, -, -, hleft, -, -, -, hbefore, -⟩
    have hvalue : Single.value? 8 = some (2 ^ 23 * 2 ^ (-20 : Int)) := rfl
    obtain rfl : 2 ^ 23 * 2 ^ (-20 : Int) = left := Option.some.inj (hvalue.symm.trans hleft)
    norm_num at hbefore
  have hempty : (⟨8, 4, 0, 8⟩ : Rect Float32).isEmpty = true := by decide
  obtain ⟨hpixels, -⟩ := rasterize_outside_clip (l := cornerCut 16) rfl "text" .initial hd
  obtain ⟨-, hnone⟩ := rasterize_outside_clip (l := cornerCut 0) rfl "text" .initial hd
  have hdraw : canDraw (cornerCut 16).canvas = true := by decide
  have hpicture := rasterize_of_canDraw .sampled "text" .initial (cornerCut 16) hdraw
  obtain ⟨q, hq, hsame⟩ := hpixels.exists_right hpicture
  exact ⟨hd, by simpa using hout, ⟨_, q, hpicture, hq, hsame 0 0 hout⟩, hempty, hnone hempty⟩

end Caption
