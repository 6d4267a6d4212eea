import Caption.Draw.Rasterizer
import Caption.Proofs.Canvas.Size

/-!
# Pictures are whole

Drawing changes the pixels of a picture and never its edges, so the finished picture has the
size of its canvas and four bytes for each pixel. A picture that could not be drawn at all is
blank and as large, if its bytes can be counted.

## Main statements

* `Picture.edges_drawBackground`, `Picture.edges_drawText`: each step keeps the edges
* `canvas_of_rasterize`, `whole_of_rasterize`: the picture of a layout
* `exists_rasterize_iff`: when there is one
-/
namespace Caption

namespace Picture

variable (p : Picture) (d : Backend)

theorem edges_drawPlan (st : State) (font : Font Float32) (plan : Plan) :
    (drawPlan d st font plan p).edges = p.edges := by
  cases plan with
  | blank => rfl
  | clipped => rfl
  | draw trace bounds mask =>
    unfold drawPlan
    dsimp only
    split <;> split <;> simp

theorem edges_drawBackground (name : String) (st : State) (l : Layout Float32) :
    (drawBackground d name st l).value.edges = (l.canvas.width.toNat, l.canvas.height.toNat) := by
  unfold drawBackground
  dsimp only
  split
  next =>
    split
    next => rfl
    next =>
      split
      next b _ => exact d.edges_fillRect st.backgroundColor b _
      next => rfl
  next => rfl

theorem edges_drawText (name : String) (st : State) (l : Layout Float32) :
    (drawText d name st l p).value.edges = p.edges := by
  unfold drawText
  split
  next => rfl
  next font _ =>
    split
    next => rfl
    next =>
      split
      next => rfl
      next plan _ _ => exact edges_drawPlan p d st font plan
      next => rfl

/-! ## The finished picture -/

theorem size_foldl_push (pixels : List Premultiplied) (data : ByteArray) :
    (pixels.foldl (fun data q =>
      (((data.push q.toRgba.red).push q.toRgba.green).push q.toRgba.blue).push q.toRgba.alpha)
      data).size = data.size + 4 * pixels.length := by
  induction pixels generalizing data with
  | nil => rfl
  | cons q pixels ih =>
    rw [List.foldl_cons, ih, List.length_cons]
    simp only [ByteArray.size_push]
    omega

theorem size_toPixels : p.toPixels.data.size = p.width * p.height * 4 := by
  unfold toPixels
  dsimp only
  rw [← Array.foldl_toList, size_foldl_push, Array.length_toList, p.size_pixels]
  have hempty : (ByteArray.emptyWithCapacity (4 * (p.width * p.height))).size = 0 := rfl
  omega

theorem canvas_toPixels {c : Canvas} (h : p.edges = (c.width.toNat, c.height.toNat)) :
    p.toPixels.canvas = c := by
  obtain ⟨hwidth, hheight⟩ := Prod.mk.inj h
  calc p.toPixels.canvas
      = ⟨p.width.toUInt32, p.height.toUInt32⟩ := rfl
    _ = ⟨c.width.toNat.toUInt32, c.height.toNat.toUInt32⟩ := by rw [hwidth, hheight]
    _ = c := by simp

theorem whole_toPixels {c : Canvas} (h : p.edges = (c.width.toNat, c.height.toNat)) :
    p.toPixels.Whole := by
  obtain ⟨hwidth, hheight⟩ := Prod.mk.inj h
  have hcanvas := canvas_toPixels p h
  have hw : p.toPixels.width = c.width := congrArg Canvas.width hcanvas
  have hh : p.toPixels.height = c.height := congrArg Canvas.height hcanvas
  rw [Pixels.Whole, size_toPixels, hw, hh, hwidth, hheight]

end Picture

/-! ## Rasterizing -/

variable (d : Backend) (name : String) (st : State) (l : Layout Float32)

/-- A picture that can be drawn is what the text leaves of the background. -/
theorem rasterize_of_canDraw (h : canDraw l.canvas = true) :
    (rasterize d name st l).value =
      .ok (drawText d name st l (drawBackground d name st l).value).value.toPixels := by
  rw [rasterize, if_pos h]
  rfl

theorem rasterize_of_not_canDraw (h : canDraw l.canvas = false) :
    (rasterize d name st l).value = Pixels.blank l.canvas := by
  rw [rasterize, if_neg (by simp [h])]
  rfl

/-- A canvas that can be drawn on has countable bytes. -/
theorem countable_of_canDraw {c : Canvas} (h : canDraw c = true) : c.Countable := by
  have hrow : c.width.toNat * 4 < 0x80000000 := by
    simp only [canDraw, Bool.and_eq_true, decide_eq_true_eq] at h
    exact h.2
  calc c.width.toNat * c.height.toNat * 4
      = c.width.toNat * 4 * c.height.toNat := Nat.mul_right_comm ..
    _ < 0x80000000 * 2 ^ 32 := Nat.mul_lt_mul'' hrow c.height.toNat_lt
    _ < UInt64.size := by decide

variable {d name st l}

theorem canvas_of_rasterize {p : Pixels} (hp : (rasterize d name st l).value = .ok p) :
    p.canvas = l.canvas := by
  cases h : canDraw l.canvas with
  | true =>
    rw [rasterize_of_canDraw d name st l h] at hp
    rw [← Except.ok.inj hp]
    exact Picture.canvas_toPixels _ (by rw [Picture.edges_drawText, Picture.edges_drawBackground])
  | false =>
    rw [rasterize_of_not_canDraw d name st l h] at hp
    rw [(Pixels.blank_eq_ok_iff.1 hp).2, Pixels.canvas_clear]

theorem whole_of_rasterize {p : Pixels} (hp : (rasterize d name st l).value = .ok p) :
    p.Whole := by
  cases h : canDraw l.canvas with
  | true =>
    rw [rasterize_of_canDraw d name st l h] at hp
    rw [← Except.ok.inj hp]
    exact Picture.whole_toPixels _ (by rw [Picture.edges_drawText, Picture.edges_drawBackground])
  | false =>
    rw [rasterize_of_not_canDraw d name st l h] at hp
    rw [(Pixels.blank_eq_ok_iff.1 hp).2]
    exact Pixels.whole_clear _

variable (d name st l) in
/-- There is a picture unless its bytes cannot be counted. -/
theorem exists_rasterize_iff :
    (∃ p, (rasterize d name st l).value = .ok p) ↔ l.canvas.Countable := by
  cases h : canDraw l.canvas with
  | true =>
    rw [rasterize_of_canDraw d name st l h]
    exact iff_of_true ⟨_, rfl⟩ (countable_of_canDraw h)
  | false =>
    rw [rasterize_of_not_canDraw d name st l h]
    simp [Pixels.blank_eq_ok_iff]

end Caption
