import Caption.Proofs.Draw.Whole

/-!
# Pixels of a finished picture

The bytes of a finished picture are those of its pixels, row after row and four for each pixel.
Columns, rows and bytes are counted here without a limit.

## Main definitions

* `Pixels.at?`: the pixel in a column and a row of a buffer

## Main statements

* `Picture.at?_toPixels`: finishing a picture makes every pixel straight and moves none
* `Picture.toPixels_filled_clear`: a picture without a colour is clear
-/
namespace Caption

/-- The bytes of a pixel in their order. -/
def Rgba.bytes (c : Rgba) : List UInt8 := [c.red, c.green, c.blue, c.alpha]

/-- The pixel in a column and a row, if both are within the edges and the data reaches that far. -/
def Pixels.at? (p : Pixels) (x y : Nat) : Option Rgba :=
  if x < p.width.toNat ∧ y < p.height.toNat then do
    let i := 4 * (y * p.width.toNat + x)
    return {
      red := ← p.data.data[i]?
      green := ← p.data.data[i + 1]?
      blue := ← p.data.data[i + 2]?
      alpha := ← p.data.data[i + 3]? }
  else none

/-! ## Bytes -/

theorem toList_pushBytes (b : UInt8) (n : Nat) (data : ByteArray) :
    (pushBytes b n data).data.toList = data.data.toList ++ List.replicate n b := by
  induction n generalizing data with
  | zero => simp [pushBytes]
  | succ n ih =>
    rw [pushBytes, ih]
    simp [List.replicate_succ]

theorem Pixels.toList_clear (c : Canvas) :
    (clear c).data.data.toList = List.replicate (c.width.toNat * c.height.toNat * 4) 0 :=
  toList_pushBytes 0 _ _

namespace Picture

theorem toList_foldl_push (pixels : List Premultiplied) (data : ByteArray) :
    (pixels.foldl (fun data q =>
      (((data.push q.toRgba.red).push q.toRgba.green).push q.toRgba.blue).push q.toRgba.alpha)
      data).data.toList = data.data.toList ++ pixels.flatMap fun q => q.toRgba.bytes := by
  induction pixels generalizing data with
  | nil => simp
  | cons q pixels ih =>
    rw [List.foldl_cons, ih]
    simp [Rgba.bytes]

theorem toList_toPixels (p : Picture) :
    p.toPixels.data.data.toList = p.pixels.toList.flatMap fun q => q.toRgba.bytes := by
  unfold toPixels
  dsimp only
  rw [← Array.foldl_toList, toList_foldl_push]
  rfl

theorem getElem?_flatMap_bytes (pixels : List Premultiplied) (i : Nat) {k : Nat} (hk : k < 4) :
    (pixels.flatMap fun q => q.toRgba.bytes)[4 * i + k]? =
      pixels[i]?.bind fun q => q.toRgba.bytes[k]? := by
  induction pixels generalizing i with
  | nil => rfl
  | cons q pixels ih =>
    have hlength : q.toRgba.bytes.length = 4 := rfl
    rw [List.flatMap_cons]
    cases i with
    | zero =>
      rw [List.getElem?_append_left (by omega), Nat.mul_zero, Nat.zero_add]
      rfl
    | succ i =>
      rw [List.getElem?_append_right (by omega), hlength]
      have hindex : 4 * (i + 1) + k - 4 = 4 * i + k := by omega
      rw [hindex, ih, List.getElem?_cons_succ]

theorem getElem?_toPixels (p : Picture) (i : Nat) {k : Nat} (hk : k < 4) :
    p.toPixels.data.data[4 * i + k]? = p.pixels[i]?.bind fun q => q.toRgba.bytes[k]? := by
  rw [← Array.getElem?_toList, toList_toPixels, getElem?_flatMap_bytes _ i hk,
    Array.getElem?_toList]

/-! ## Pixels -/

section Pixels

variable {p : Picture} {c : Canvas} (h : p.edges = (c.width.toNat, c.height.toNat))
include h

/-- Finishing a picture makes its pixels straight. -/
theorem at?_toPixels (x y : Nat) :
    p.toPixels.at? x y = (p.pixel? x y).map Premultiplied.toRgba := by
  obtain ⟨hwidth, hheight⟩ := Prod.mk.inj h
  have hcanvas := canvas_toPixels p h
  have hw : p.toPixels.width.toNat = p.width :=
    (congrArg (fun c => c.width.toNat) hcanvas).trans hwidth.symm
  have hh : p.toPixels.height.toNat = p.height :=
    (congrArg (fun c => c.height.toNat) hcanvas).trans hheight.symm
  unfold Pixels.at? pixel?
  rw [hw, hh]
  by_cases hx : x < p.width
  · by_cases hy : y < p.height
    · have hfirst := p.getElem?_toPixels (y * p.width + x) (k := 0) (by decide)
      rw [Nat.add_zero] at hfirst
      rw [if_pos ⟨hx, hy⟩, if_pos hx]
      dsimp only
      rw [hfirst,
        p.getElem?_toPixels _ (by decide : 1 < 4), p.getElem?_toPixels _ (by decide : 2 < 4),
        p.getElem?_toPixels _ (by decide : 3 < 4)]
      cases p.pixels[y * p.width + x]? <;> rfl
    · have hbehind : p.pixels.size ≤ y * p.width + x := by
        have hrows := Nat.mul_le_mul_right p.width (Nat.not_lt.1 hy)
        rw [p.size_pixels, Nat.mul_comm]
        omega
      rw [if_neg fun hxy => hy hxy.2, if_pos hx, Array.getElem?_eq_none hbehind]
      rfl
  · rw [if_neg fun hxy => hx hxy.1, if_neg hx]
    rfl

end Pixels

/-! ## Pictures of one colour -/

theorem pixel?_filled (width height : Nat) (q : Premultiplied) (x y : Nat) :
    (filled width height q).pixel? x y = if x < width ∧ y < height then some q else none := by
  unfold pixel? filled
  dsimp only
  by_cases hx : x < width
  · have hindex : y * width + x < width * height ↔ y < height := by
      rw [Nat.mul_comm width height]
      constructor
      · exact fun h => Nat.lt_of_mul_lt_mul_right (Nat.lt_of_le_of_lt (Nat.le_add_right _ x) h)
      · intro hy
        have hrows := Nat.mul_le_mul_right width (Nat.succ_le_of_lt hy)
        rw [Nat.succ_mul] at hrows
        omega
    simp only [hx, if_true, true_and, Array.getElem?_replicate, hindex]
  · simp only [hx, if_false, false_and]

/-- A picture without a colour is clear. -/
theorem toPixels_filled_clear (c : Canvas) :
    (filled c.width.toNat c.height.toNat .clear).toPixels = .clear c := by
  have hbytes : Premultiplied.clear.toRgba.bytes = List.replicate 4 0 := by decide +kernel
  have hdata :
      (filled c.width.toNat c.height.toNat .clear).toPixels.data = (Pixels.clear c).data := by
    apply ByteArray.ext
    apply Array.toList_inj.1
    rw [toList_toPixels]
    calc (Array.replicate (c.width.toNat * c.height.toNat) Premultiplied.clear).toList.flatMap
          (fun q => q.toRgba.bytes)
        = (List.replicate (c.width.toNat * c.height.toNat) (List.replicate 4 0)).flatten := by
          rw [Array.toList_replicate, List.flatMap_replicate, hbytes]
      _ = (Pixels.clear c).data.data.toList := by
          rw [List.flatten_replicate_replicate, Pixels.toList_clear]
  have hcanvas : (filled c.width.toNat c.height.toNat .clear).toPixels.canvas = c :=
    canvas_toPixels _ rfl
  obtain ⟨width, height⟩ := c
  obtain ⟨hwidth, hheight⟩ := Canvas.mk.inj hcanvas
  exact (Pixels.mk.injEq ..).mpr ⟨hwidth, hheight, hdata⟩

end Picture

end Caption
