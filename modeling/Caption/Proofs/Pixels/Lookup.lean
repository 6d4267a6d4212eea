import Mathlib.Algebra.Group.Nat.Defs
import Caption.Pixels

/-!
# Looking pixels up

A pixel of a picture is found in its data row by row, four bytes each. Where it starts is counted
in 32 bits. Within `2 ^ 30` pixels the count fits and every lookup is right, however long the data
is. In a larger picture a lookup past that ends in an overflow, also where the data has no such
pixel.

## Main definitions

* `Pixels.place`: where a pixel starts, counted without a limit
* `Pixels.Finds`: what looking a pixel up should give

## Main statements

* `Pixels.pixel?_eq`: lookup in terms of the place
* `Pixels.finds_of_pixel?_eq_ok`: what is found is right
* `Pixels.forall_pixel?_iff`: in which sizes no lookup overflows
* `Pixels.pixel?_finds`: both, for every picture
-/
namespace Caption

namespace Pixels

variable {p : Pixels} {x y : UInt32} {data : ByteArray} {i : Nat} {c : Rgba}

/-- Where the pixel at `(x, y)` starts, counted without a limit. -/
def place (p : Pixels) (x y : UInt32) : Nat := 4 * (y.toNat * p.width.toNat + x.toNat)

/-- The four bytes from `i` on are those of a colour. -/
structure Shows (data : ByteArray) (i : Nat) (c : Rgba) : Prop where
  red : data[i]? = some c.red
  green : data[i + 1]? = some c.green
  blue : data[i + 2]? = some c.blue
  alpha : data[i + 3]? = some c.alpha

/-- What looking a pixel up should give: its four bytes if it lies in the picture and in the data,
and nothing otherwise. -/
structure Finds (p : Pixels) (x y : UInt32) (found : Option Rgba) : Prop where
  isSome_iff : found.isSome ↔ x < p.width ∧ y < p.height ∧ p.place x y + 4 ≤ p.data.size
  shows : ∀ c, found = some c → Shows p.data (p.place x y) c

/-! ## Four bytes -/

theorem isSome_colorAt? : (colorAt? data i).isSome ↔ i + 4 ≤ data.size := by
  unfold colorAt?
  split <;> simp [*]

theorem colorAt?_eq_some_iff : colorAt? data i = some c ↔ Shows data i c := by
  constructor
  · intro h
    unfold colorAt? at h
    split at h
    next hfits =>
      cases h
      exact ⟨getElem?_pos .., getElem?_pos .., getElem?_pos .., getElem?_pos ..⟩
    next => cases h
  · rintro ⟨hred, hgreen, hblue, halpha⟩
    obtain ⟨hfits, halpha⟩ := getElem?_eq_some_iff.1 halpha
    rw [getElem?_eq_some_iff] at hred hgreen hblue
    have hfour : i + 4 ≤ data.size := hfits
    rw [colorAt?, dif_pos hfour, hred.2, hgreen.2, hblue.2, halpha]

/-! ## Places -/

/-- Where a pixel starts is its place, if 32 bits can count it. -/
theorem offset_eq_ok_iff {start : UInt32} :
    p.offset x y = .ok start ↔ start.toNat = p.place x y := by
  have hbytes : bytesPerPixel.toNat = 4 := rfl
  simp only [offset, bind_eq_ok_iff, Checked.mul32, Checked.add32, Checked.word_eq_ok_iff, hbytes,
    place]
  constructor
  · rintro ⟨rows, hrows, pixels, hpixels, hstart⟩
    rw [hstart, hpixels, hrows, Nat.mul_comm]
  · intro hstart
    have hlt : start.toNat < UInt32.size := start.toNat_lt
    have hrows : y.toNat * p.width.toNat < UInt32.size := by omega
    have hpixels : y.toNat * p.width.toNat + x.toNat < UInt32.size := by omega
    have hrows := UInt32.toNat_ofNat_of_lt' hrows
    have hpixels := UInt32.toNat_ofNat_of_lt' hpixels
    exact ⟨_, hrows, _, by rw [hpixels, hrows], by rw [hpixels, hstart, Nat.mul_comm]⟩

theorem offset_eq_overflow_iff :
    p.offset x y = .error .overflow ↔ UInt32.size ≤ p.place x y := by
  simp only [Checked.eq_overflow_iff, offset_eq_ok_iff, ← Checked.word_eq_ok_iff,
    Checked.exists_word_eq_ok_iff, Nat.not_lt]

/-- A pixel of the picture is looked up at its place. -/
theorem pixel?_eq (p : Pixels) (x y : UInt32) : p.pixel? x y =
    if x < p.width ∧ y < p.height then
      if p.place x y < UInt32.size then .ok (colorAt? p.data (p.place x y)) else .error .overflow
    else .ok none := by
  unfold pixel?
  split
  · split
    next hplace =>
      obtain ⟨start, hstart⟩ := Checked.exists_word_eq_ok_iff.2 hplace
      have hstart := Checked.word_eq_ok_iff.1 hstart
      rw [offset_eq_ok_iff.2 hstart, ← hstart]
      rfl
    next hplace =>
      rw [offset_eq_overflow_iff.2 (Nat.not_lt.1 hplace)]
      rfl
  · rfl

/-- The lookups of which nothing comes. -/
theorem pixel?_eq_overflow_iff : p.pixel? x y = .error .overflow ↔
    x < p.width ∧ y < p.height ∧ UInt32.size ≤ p.place x y := by
  rw [pixel?_eq]
  split
  next hin =>
    obtain ⟨hx, hy⟩ := hin
    split
    next hplace => simp [hplace]
    next hplace => simp [hx, hy, Nat.not_lt.1 hplace]
  next hin =>
    simp only [reduceCtorEq, false_iff]
    exact fun h => hin ⟨h.1, h.2.1⟩

/-- What a lookup gives is right. -/
theorem finds_of_pixel?_eq_ok {found : Option Rgba} (h : p.pixel? x y = .ok found) :
    p.Finds x y found := by
  rw [pixel?_eq] at h
  split at h
  next hin =>
    split at h
    · cases h
      refine ⟨?_, fun c => colorAt?_eq_some_iff.1⟩
      rw [isSome_colorAt?]
      exact ⟨fun hfits => ⟨hin.1, hin.2, hfits⟩, fun hfits => hfits.2.2⟩
    · cases h
  next hin =>
    cases h
    exact ⟨⟨nofun, fun hfound => absurd ⟨hfound.1, hfound.2.1⟩ hin⟩, nofun⟩

/-! ## Sizes -/

/-- Within `2 ^ 30` pixels every place can be counted. -/
theorem place_lt (h : p.width.toNat * p.height.toNat ≤ 2 ^ 30) (hx : x < p.width)
    (hy : y < p.height) : p.place x y < UInt32.size := by
  rw [UInt32.lt_iff_toNat_lt] at hx hy
  have hrow : (y.toNat + 1) * p.width.toNat ≤ p.height.toNat * p.width.toNat :=
    Nat.mul_le_mul_right _ hy
  rw [Nat.succ_mul, Nat.mul_comm p.height.toNat] at hrow
  simp only [place, UInt32.size]
  omega

/-- In a larger picture a pixel starts at the word size. -/
theorem exists_place_eq (h : 2 ^ 30 < p.width.toNat * p.height.toNat) :
    ∃ x y, x < p.width ∧ y < p.height ∧ p.place x y = UInt32.size := by
  have hwidth : 0 < p.width.toNat := Nat.pos_of_mul_pos_right (Nat.zero_lt_of_lt h)
  have hx : 2 ^ 30 % p.width.toNat < p.width.toNat := Nat.mod_lt _ hwidth
  have hy : 2 ^ 30 / p.width.toNat < p.height.toNat := by
    rwa [Nat.div_lt_iff_lt_mul hwidth, Nat.mul_comm]
  have hsum := Nat.div_add_mod' (2 ^ 30) p.width.toNat
  have hx' := UInt32.toNat_ofNat_of_lt' (Nat.lt_trans hx p.width.toNat_lt)
  have hy' := UInt32.toNat_ofNat_of_lt' (Nat.lt_trans hy p.height.toNat_lt)
  refine ⟨_, _, UInt32.lt_iff_toNat_lt.2 (hx' ▸ hx), UInt32.lt_iff_toNat_lt.2 (hy' ▸ hy), ?_⟩
  calc p.place _ _
      = 4 * 2 ^ 30 := by rw [place, hx', hy', hsum]
    _ = UInt32.size := by decide

/-- No lookup in a picture overflows exactly if it has no more than `2 ^ 30` pixels. -/
theorem forall_pixel?_iff (p : Pixels) :
    (∀ x y, ∃ found, p.pixel? x y = .ok found) ↔ p.width.toNat * p.height.toNat ≤ 2 ^ 30 := by
  constructor
  · refine fun h => Nat.le_of_not_lt fun hlarge => ?_
    obtain ⟨x, y, hx, hy, hplace⟩ := exists_place_eq hlarge
    exact Checked.eq_overflow_iff.1
      (pixel?_eq_overflow_iff.2 ⟨hx, hy, Nat.le_of_eq hplace.symm⟩) (h x y)
  · intro h x y
    rw [pixel?_eq]
    split
    next hin => exact ⟨_, if_pos (place_lt h hin.1 hin.2)⟩
    next => exact ⟨_, rfl⟩

/-- What a lookup gives is right, and it gives nothing exactly for a pixel of the picture whose
place 32 bits cannot count. So every pixel of a picture can be looked up exactly if it has no more
than `2 ^ 30`. -/
theorem pixel?_finds (p : Pixels) (x y : UInt32) :
    (∀ found, p.pixel? x y = .ok found → p.Finds x y found) ∧
      (p.pixel? x y = .error .overflow ↔
        x < p.width ∧ y < p.height ∧ UInt32.size ≤ p.place x y) ∧
      ((∀ x y, ∃ found, p.pixel? x y = .ok found) ↔
        p.width.toNat * p.height.toNat ≤ 2 ^ 30) :=
  ⟨fun _ => finds_of_pixel?_eq_ok, pixel?_eq_overflow_iff, forall_pixel?_iff p⟩

/-- With four bytes of data there is nothing to find at the word size, but the lookup overflows. -/
theorem pixel?_overflows_behind :
    let p : Pixels := ⟨65536, 16385, ⟨#[1, 2, 3, 4]⟩⟩
    p.pixel? 0 16384 = .error .overflow ∧ p.Finds 0 16384 none := by
  refine ⟨?_, ⟨nofun, fun h => ?_⟩, nofun⟩
  · exact pixel?_eq_overflow_iff.2 ⟨by decide, by decide, by decide⟩
  · exact absurd h.2.2 (by decide)

end Pixels

end Caption
