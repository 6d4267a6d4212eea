import Caption.Draw.Ink
import Caption.Pixels

/-!
# Pictures

A picture while it is drawn, and the mask that keeps drawing inside a box.

## Main definitions

* `Picture`: rows of premultiplied pixels
* `Mask`: the pixels that may be drawn on
* `Picture.paint`: draws with a coverage for every pixel
* `Picture.dab`: draws on single pixels, one after another
* `Picture.toPixels`: the finished picture

## Main statements

* `Picture.edges_paint`, `Picture.edges_dab`: drawing keeps the edges
* `Picture.pixel?_paint_of_masked`, `Picture.pixel?_dab_of_masked`: no pixel outside the mask
  changes
-/
namespace Caption

structure Picture where
  width : Nat
  height : Nat
  pixels : Array Premultiplied
  size_pixels : pixels.size = width * height

/-- The pixels that drawing may change, by column and row. -/
structure Mask where
  contains : Nat → Nat → Bool

/-- Whether a pixel may be drawn on; without a mask all may. -/
def allowed (mask : Option Mask) (x y : Nat) : Bool :=
  match mask with
  | none => true
  | some m => m.contains x y

namespace Picture

/-- Width and height. -/
def edges (p : Picture) : Nat × Nat := (p.width, p.height)

/-- A picture of one colour. -/
def filled (width height : Nat) (p : Premultiplied) : Picture :=
  ⟨width, height, Array.replicate (width * height) p, Array.size_replicate⟩

/-- Draws on every pixel with its coverage. -/
def paint (p : Picture) (ink : Ink) (mask : Option Mask) (coverage : Nat → Nat → UInt8) :
    Picture where
  width := p.width
  height := p.height
  pixels := p.pixels.mapIdx fun i below =>
    let x := i % p.width
    let y := i / p.width
    if allowed mask x y then ink.blend mask.isSome (coverage x y) below else below
  size_pixels := by rw [Array.size_mapIdx, p.size_pixels]

/-- Coverage of one pixel. -/
structure Dab where
  x : Nat
  y : Nat
  coverage : UInt8
deriving DecidableEq, Repr

def paintDab (p : Picture) (ink : Ink) (mask : Option Mask) (d : Dab) : Picture :=
  if d.x < p.width ∧ allowed mask d.x d.y then
    { p with
      pixels := p.pixels.modify (d.y * p.width + d.x) (ink.blend mask.isSome d.coverage)
      size_pixels := by rw [Array.size_modify, p.size_pixels] }
  else p

/-- Draws on single pixels in order. -/
def dab (p : Picture) (ink : Ink) (mask : Option Mask) (dabs : List Dab) : Picture :=
  dabs.foldl (fun p d => p.paintDab ink mask d) p

/-- The pixel in a column and a row. -/
def pixel? (p : Picture) (x y : Nat) : Option Premultiplied :=
  if x < p.width then p.pixels[y * p.width + x]? else none

def toPixels (p : Picture) : Pixels :=
  ⟨p.width.toUInt32, p.height.toUInt32,
    p.pixels.foldl (fun data q =>
      let c := q.toRgba
      (((data.push c.red).push c.green).push c.blue).push c.alpha)
      (ByteArray.emptyWithCapacity (4 * p.pixels.size))⟩

/-! ## Edges -/

section Edges

variable (p : Picture) (ink : Ink) (mask : Option Mask)

@[simp] theorem edges_filled (width height : Nat) (q : Premultiplied) :
    (filled width height q).edges = (width, height) := rfl

@[simp] theorem edges_paint (coverage : Nat → Nat → UInt8) :
    (p.paint ink mask coverage).edges = p.edges := rfl

@[simp] theorem edges_paintDab (d : Dab) : (p.paintDab ink mask d).edges = p.edges := by
  unfold paintDab
  split <;> rfl

@[simp] theorem edges_dab (dabs : List Dab) : (p.dab ink mask dabs).edges = p.edges := by
  unfold dab
  induction dabs generalizing p with
  | nil => rfl
  | cons d dabs ih => rw [List.foldl_cons, ih, edges_paintDab]

end Edges

/-! ## Masked pixels -/

section Masked

variable (p : Picture) (ink : Ink) {mask : Option Mask} {x y : Nat}
variable (h : allowed mask x y = false)
include h

theorem pixel?_paint_of_masked (coverage : Nat → Nat → UInt8) :
    (p.paint ink mask coverage).pixel? x y = p.pixel? x y := by
  unfold pixel? paint
  split
  next hx =>
    have hx : x < p.width := hx
    have hmod : (y * p.width + x) % p.width = x := by
      rw [Nat.mul_comm, Nat.mul_add_mod, Nat.mod_eq_of_lt hx]
    have hdiv : (y * p.width + x) / p.width = y := by
      rw [Nat.mul_comm, Nat.mul_add_div (by omega), Nat.div_eq_of_lt hx, Nat.add_zero]
    simp only [Array.getElem?_mapIdx, hmod, hdiv, h]
    simp
  next => rfl

theorem pixel?_paintDab_of_masked (d : Dab) :
    (p.paintDab ink mask d).pixel? x y = p.pixel? x y := by
  unfold paintDab
  split
  next hdab =>
    unfold pixel?
    dsimp only
    split
    next hx =>
      -- another place in a row, or another row, is another place in the array
      have hother : d.y * p.width + d.x ≠ y * p.width + x := by
        intro hsame
        have hdx : d.x = x := by
          have hmod := congrArg (· % p.width) hsame
          simpa [Nat.mul_add_mod_self_right, Nat.mod_eq_of_lt hx, Nat.mod_eq_of_lt hdab.1]
            using hmod
        have hdy : d.y = y := by
          rw [hdx] at hsame
          exact Nat.eq_of_mul_eq_mul_right (by omega) (Nat.add_right_cancel hsame)
        rw [hdx, hdy, h] at hdab
        exact absurd hdab.2 (by simp)
      rw [Array.getElem?_modify, if_neg hother]
    next => rfl
  next => rfl

theorem pixel?_dab_of_masked (dabs : List Dab) :
    (p.dab ink mask dabs).pixel? x y = p.pixel? x y := by
  unfold dab
  induction dabs generalizing p with
  | nil => rfl
  | cons d dabs ih => rw [List.foldl_cons, ih, p.pixel?_paintDab_of_masked ink h]

end Masked

end Picture

end Caption
