import Caption.Pixels

/-!
# Legal canvases and whole pictures

The edges that are made of a request are even and lie within the bounds. A picture is whole if it
has four bytes for each pixel of its canvas. Its bytes can be counted if there are fewer than
`2 ^ 64`, and the bytes of one of its rows if there are fewer than `2 ^ 32`.

## Main definitions

* `Canvas.LegalEdge`, `Canvas.Legal`: edges within the bounds
* `Canvas.Countable`: a size whose bytes can be counted
* `Pixels.Whole`: as many bytes as the size says

## Main statements

* `Canvas.legal_of_quantized`
* `Canvas.byteLength_eq_ok_iff`: a count that is given is exact
* `Pixels.blank_eq_ok_iff`: when there is a blank picture
-/
namespace Caption

namespace Canvas

/-- An even edge from 32 to 8192. -/
structure LegalEdge (edge : UInt32) : Prop where
  even : edge.toNat % 2 = 0
  min_le : 32 ≤ edge.toNat
  le_max : edge.toNat ≤ 8192

structure Legal (c : Canvas) : Prop where
  width : LegalEdge c.width
  height : LegalEdge c.height

theorem mod_two_eq_zero_iff (edge : Int64) : edge % 2 = 0 ↔ edge.toInt % 2 = 0 := by
  have hmod : (edge % 2).toInt = edge.toInt.tmod 2 := Int64.toInt_mod edge 2
  calc edge % 2 = 0
      ↔ edge.toInt.tmod 2 = 0 := by rw [← hmod, ← Int64.toInt_inj]; rfl
    _ ↔ 2 ∣ edge.toInt := Int.dvd_iff_tmod_eq_zero.symm
    _ ↔ edge.toInt % 2 = 0 := Int.dvd_iff_emod_eq_zero

theorem toInt_parity (edge : Int64) : (parity edge).toInt = edge.toInt % 2 := by
  have heven := mod_two_eq_zero_iff edge
  unfold parity
  split
  next h => exact (heven.1 h).symm
  next h =>
    have hone : edge.toInt % 2 = 1 := by
      have hne := mt heven.2 h
      omega
    exact hone.symm

theorem toNat_toUInt32_of_le {edge : Int64} (hmin : 0 ≤ edge) (hmax : edge.toInt < UInt32.size) :
    (edge.toUInt64.toUInt32.toNat : Int) = edge.toInt := by
  have hzero : 0 ≤ edge.toInt := Int64.le_iff_toInt_le.1 hmin
  have hclamp : edge.toNatClampNeg = edge.toInt.toNat := rfl
  have hword : edge.toInt < 4294967296 := hmax
  rw [UInt64.toNat_toUInt32, Int64.toNat_toUInt64_of_le hmin, hclamp]
  omega

theorem legalEdge_clampEdge {edge : Int64} (heven : edge.toInt % 2 = 0) :
    LegalEdge (clampEdge edge) := by
  unfold clampEdge
  split
  next => exact ⟨rfl, by decide, by decide⟩
  next hmin =>
    split
    next => exact ⟨rfl, by decide, by decide⟩
    next hmax =>
      have hlow : 32 ≤ edge.toInt := Int64.le_iff_toInt_le.1 (Int64.not_lt.1 hmin)
      have hhigh : edge.toInt ≤ 8192 := Int64.le_iff_toInt_le.1 (Int64.not_lt.1 hmax)
      have hnonneg : 0 ≤ edge := Int64.le_iff_toInt_le.2 (Int.le_trans (by decide) hlow)
      have hedge := toNat_toUInt32_of_le hnonneg (Int.lt_of_le_of_lt hhigh (by decide))
      refine ⟨?_, ?_, ?_⟩ <;> omega

theorem legalEdge_of_quantizeEdge {request : Int64} {edge : UInt32}
    (h : quantizeEdge request = .ok edge) : LegalEdge edge := by
  obtain ⟨even, heven, hclamp⟩ := bind_eq_ok_iff.1 h
  obtain rfl : clampEdge even = edge := Except.ok.inj hclamp
  refine legalEdge_clampEdge ?_
  rw [Checked.addInt64_eq_ok_iff.1 heven, toInt_parity]
  omega

theorem quantized_eq_ok_iff {width height : Int64} {c : Canvas} : quantized width height = .ok c ↔
    quantizeEdge width = .ok c.width ∧ quantizeEdge height = .ok c.height := by
  cases c
  unfold quantized
  cases quantizeEdge width <;> cases quantizeEdge height <;>
    simp [bind, Except.bind, pure, Except.pure]

theorem legal_of_quantized {width height : Int64} {c : Canvas}
    (h : quantized width height = .ok c) :
    Legal c :=
  have hedges := quantized_eq_ok_iff.1 h
  ⟨legalEdge_of_quantizeEdge hedges.1, legalEdge_of_quantizeEdge hedges.2⟩

theorem LegalEdge.ne_zero {edge : UInt32} (h : LegalEdge edge) : edge ≠ 0 := by
  rintro rfl
  exact absurd h.min_le (by decide)

/-! ## Byte counts -/

/-- The bytes of a picture of this size, without a limit, are less than a word can count. -/
def Countable (c : Canvas) : Prop := c.width.toNat * c.height.toNat * 4 < UInt64.size

instance (c : Canvas) : Decidable c.Countable := inferInstanceAs (Decidable (_ < _))

section Counts

variable {c : Canvas} {n : UInt64}

theorem byteLength_eq_ok_iff :
    c.byteLength = .ok n ↔ n.toNat = c.width.toNat * c.height.toNat * 4 := by
  have hpixels : c.width.toNat * c.height.toNat < UInt64.size :=
    Nat.mul_lt_mul'' c.width.toNat_lt c.height.toNat_lt
  obtain ⟨pixels, hp⟩ := Checked.exists_long_eq_ok_iff.2 hpixels
  have hcount : c.byteLength = Checked.long (pixels.toNat * 4) := by
    simp only [byteLength, Checked.mul64, UInt32.toNat_toUInt64, hp]
    rfl
  rw [hcount, Checked.long_eq_ok_iff, Checked.long_eq_ok_iff.1 hp]

theorem exists_byteLength_iff : (∃ n, c.byteLength = .ok n) ↔ c.Countable := by
  simp only [byteLength_eq_ok_iff, ← Checked.long_eq_ok_iff]
  exact Checked.exists_long_eq_ok_iff

theorem byteLength_eq_overflow_iff : c.byteLength = .error .overflow ↔ ¬c.Countable := by
  rw [Checked.eq_overflow_iff, exists_byteLength_iff]

theorem exists_stride_iff : (∃ row, c.stride = .ok row) ↔ c.width.toNat * 4 < UInt32.size :=
  Checked.exists_word_eq_ok_iff

theorem stride_eq_overflow_iff : c.stride = .error .overflow ↔ UInt32.size ≤ c.width.toNat * 4 := by
  rw [Checked.eq_overflow_iff, exists_stride_iff, Nat.not_lt]

end Counts

theorem Legal.exists_stride {c : Canvas} (h : c.Legal) : ∃ row, c.stride = .ok row := by
  have hmax := h.width.le_max
  have hword : 8192 * 4 < UInt32.size := by decide
  exact exists_stride_iff.2 (by omega)

/-- The bytes of a legal canvas can be counted. -/
theorem Legal.countable {c : Canvas} (h : c.Legal) : c.Countable := by
  have hpixels : c.width.toNat * c.height.toNat ≤ 8192 * 8192 :=
    Nat.mul_le_mul h.width.le_max h.height.le_max
  exact Nat.lt_of_le_of_lt (Nat.mul_le_mul_right 4 hpixels) (by decide)

end Canvas

namespace Pixels

/-- A picture with four bytes for each of its pixels. -/
def Whole (p : Pixels) : Prop := p.data.size = p.width.toNat * p.height.toNat * 4

/-- A picture is whole if it has as many bytes as are counted for its size. -/
theorem whole_iff {p : Pixels} {n : UInt64} (h : p.canvas.byteLength = .ok n) :
    p.Whole ↔ p.data.size = n.toNat := by
  rw [Canvas.byteLength_eq_ok_iff.1 h]
  rfl

/-- A fully transparent picture, its bytes counted without a limit. -/
def clear (c : Canvas) : Pixels :=
  ⟨c.width, c.height, replicateBytes (c.width.toNat * c.height.toNat * 4) 0⟩

@[simp] theorem canvas_clear (c : Canvas) : (clear c).canvas = c := rfl

theorem whole_clear (c : Canvas) : (clear c).Whole :=
  (size_pushBytes 0 _ _).trans (Nat.zero_add _)

/-- A blank picture is clear, and there is one if its bytes can be counted. -/
theorem blank_eq_ok_iff {c : Canvas} {p : Pixels} :
    blank c = .ok p ↔ c.Countable ∧ p = clear c := by
  unfold blank clear
  cases h : c.byteLength with
  | error =>
    have hcount := Canvas.byteLength_eq_overflow_iff.1 h
    simp [bind, Except.bind, hcount]
  | ok n =>
    have hcount := Canvas.exists_byteLength_iff.1 ⟨n, h⟩
    have hn := Canvas.byteLength_eq_ok_iff.1 h
    simp [bind, Except.bind, pure, Except.pure, hcount, hn, eq_comm]

end Pixels

end Caption
