import Caption.Proofs.Scalar.Large

/-!
# Values of single precision

A finite number in single precision is a rational number. To multiply it by a power of two from
one up moves its exponent and drops no digit, so the product is exact unless it overflows, and
cutting it to 32 bits compares with whole numbers as the exact product does.

## Main definitions

* `Single.value?`: the value of a finite number

## Main statements

* `Single.mul_two_pow`: products with powers of two
* `Single.le_cut_iff`: such a product cut to 32 bits
-/
namespace Caption

namespace Single

open Float.Model (Format UnpackedFloat)
open Float.Model.UnpackedFloat (Sign ExtendedMantissa pack unpack)

/-- The value of an unpacked number, if it is finite. -/
def valueOf : UnpackedFloat → Option Rat
  | .zero _ => some 0
  | .finite .positive m e _ => some (m * 2 ^ e)
  | .finite .negative m e _ => some (-(m * 2 ^ e))
  | _ => none

/-- The value of a finite number. -/
def value? (x : Float32) : Option Rat := valueOf x.toModel.unpack

theorem exists_value? {x : Float32} (h : x.isFinite = true) : ∃ v, value? x = some v := by
  have hfinite : x.toModel.unpack.isFinite = true := h
  unfold value?
  cases hunpack : x.toModel.unpack with
  | notANumber | infinity => simp [hunpack, UnpackedFloat.isFinite] at hfinite
  | zero => exact ⟨_, rfl⟩
  | finite s => cases s <;> exact ⟨_, rfl⟩

/-! ## Whole parts -/

theorem le_scaled_iff (n m : Nat) (e : Int) :
    n ≤ m * 2 ^ e.toNat / 2 ^ (-e).toNat ↔ (n : Rat) ≤ m * 2 ^ e := by
  obtain ⟨k, rfl | rfl⟩ := e.eq_nat_or_neg
  · rw [zpow_natCast]
    simp only [Int.toNat_natCast, Int.toNat_neg_natCast, Nat.pow_zero, Nat.div_one]
    exact_mod_cast Iff.rfl
  · rw [zpow_neg, zpow_natCast, ← div_eq_mul_inv, le_div_iff₀ (by positivity)]
    simp only [Int.neg_neg, Int.toNat_natCast, Int.toNat_neg_natCast, Nat.pow_zero, Nat.mul_one,
      Nat.le_div_iff_mul_le (Nat.two_pow_pos k)]
    exact_mod_cast Iff.rfl

/-- Cutting to 32 bits keeps the order with the positive numbers of 32 bits. -/
theorem le_toInt_ofIntClamp_iff {n t : Int} (hpos : 0 < n) (hmax : n < 2 ^ 31) :
    n ≤ (Int32.ofIntClamp t).toInt ↔ n ≤ t := by
  have hmin : Int32.minValue.toInt = -2 ^ 31 := by decide
  have hlast : Int32.maxValue.toInt = 2 ^ 31 - 1 := by decide
  unfold Int32.ofIntClamp
  split
  · split
    · rw [Int32.toInt_ofIntLE]
    · omega
  · omega

/-! ## Products -/

theorem shiftRight_mul_two_pow (r k : Nat) :
    ExtendedMantissa.mk (r * 2 ^ k) false false >>> k = ⟨r, false, false⟩ := by
  induction k generalizing r with
  | zero =>
    rw [Nat.pow_zero, Nat.mul_one]
    rfl
  | succ k ih =>
    have hdouble : r * 2 ^ (k + 1) = 2 * r * 2 ^ k := by ring
    rw [shiftRight_succ, hdouble, ih]
    simp [ExtendedMantissa.shiftRightOne]

/-- A product with a power of two has the same digits. -/
theorem mul_two_pow (s : Sign) {m : Nat} {e : Int} (hm : 0 < m) (hc : Canonical m e) (j : Nat) :
    ∃ m' e' h, UnpackedFloat.mul .binary32 (.finite s m e hm)
        (.finite .positive (2 ^ 23) (j - 23) (by decide)) = .finite s m' e' h ∧
      Canonical m' e' ∧ (m' : Rat) * 2 ^ e' = m * 2 ^ e * 2 ^ j := by
  have hlog := log2_le hc.lt
  have hleast := hc.least_le
  have hlogm := log2_mul_two_pow hm 23
  obtain ⟨k, hk⟩ : ∃ k : Nat,
      (max ((m * 2 ^ 23).log2 + (e + (j - 23)) - 23) (-149) - (e + (j - 23))).toNat = k := ⟨_, rfl⟩
  have hk23 : k ≤ 23 := by omega
  have hdigits : m * 2 ^ 23 = m * 2 ^ (23 - k) * 2 ^ k := by
    rw [Nat.mul_assoc, ← Nat.pow_add, Nat.sub_add_cancel hk23]
  have hpos : 0 < m * 2 ^ (23 - k) := Nat.mul_pos hm (Nat.two_pow_pos _)
  have hlogr := log2_mul_two_pow hm (23 - k)
  have hlt : m * 2 ^ (23 - k) < 2 ^ 24 := (Nat.log2_lt (Nat.ne_of_gt hpos)).1 (by omega)
  have hr : (ExtendedMantissa.mk (m * 2 ^ 23) false false >>> k).roundedMantissa =
      m * 2 ^ (23 - k) := by
    rw [hdigits, shiftRight_mul_two_pow]
    rfl
  refine ⟨m * 2 ^ (23 - k), e + (j - 23) + k, hpos, ?_, ⟨hlt, by omega, ?_⟩, ?_⟩
  · have hsign : s * .positive = s := by cases s <;> rfl
    change UnpackedFloat.roundWithAccuracy .binary32 (s * .positive) (m * 2 ^ 23) (e + (j - 23))
      .exact = _
    rw [hsign, roundWithAccuracy_eq s hk (by omega) hr hpos hlt.le, if_pos hlt]
  · by_cases hfull : k = m.log2
    · exact .inl ((Nat.le_log2 (Nat.ne_of_gt hpos)).1 (by omega))
    · exact .inr (by omega)
  · have hexponent : (23 - k : Nat) + (e + (j - 23) + k) = e + j := by omega
    push_cast
    rw [mul_assoc, ← zpow_natCast, ← zpow_natCast, ← zpow_add₀ two_ne_zero, hexponent,
      zpow_add₀ two_ne_zero, mul_assoc]

theorem unpack_mul (x y : Float32) : (x * y).toModel.unpack =
    unpack .binary32
      (pack .binary32 (UnpackedFloat.mul .binary32 x.toModel.unpack y.toModel.unpack)) :=
  rfl

theorem toInt_finite (low high : Int) (s : Sign) {m : Nat} {e : Int} (h : 0 < m) :
    UnpackedFloat.toInt low high (.finite s m e h) =
      s.apply (m * 2 ^ e.toNat / 2 ^ (-e).toNat : Nat) :=
  wholePart_finite s h

section Cut

variable {n : Nat} (hpos : 0 < n) (hmax : n < 2 ^ 31)
include hpos hmax

/-- A stored result cut to 32 bits: one that overflows is as large as can be. -/
theorem le_toInt_stored_iff (s : Sign) {m : Nat} {e : Int} (h : 0 < m) (hc : Canonical m e) :
    (n : Int) ≤ (unpack .binary32 (pack .binary32 (.finite s m e h))).toInt Int32.minValue.toInt
        Int32.maxValue.toInt ↔ s = .positive ∧ (n : Rat) ≤ m * 2 ^ e := by
  by_cases he : e ≤ 104
  · rw [unpack_pack s h hc he, toInt_finite, ← le_scaled_iff]
    cases s with
    | positive =>
      rw [eq_self, true_and]
      exact Int.ofNat_le
    | negative =>
      refine iff_of_false (fun hle => ?_) (by simp)
      generalize m * 2 ^ e.toNat / 2 ^ (-e).toNat = whole at hle
      change (n : Int) ≤ -(whole : Int) at hle
      omega
  · rw [unpack_pack_of_large s h (Int.not_le.1 he)]
    cases s with
    | positive =>
      refine iff_of_true ?_ ⟨rfl, ?_⟩
      · change (n : Int) ≤ Int32.maxValue.toInt
        have hlast : Int32.maxValue.toInt = 2 ^ 31 - 1 := by decide
        omega
      · have hm : (1 : Rat) ≤ m := by exact_mod_cast h
        calc (n : Rat)
            ≤ 2 ^ 31 := by exact_mod_cast hmax.le
          _ = 1 * 2 ^ (31 : Int) := by norm_num
          _ ≤ m * 2 ^ e := mul_le_mul hm (zpow_le_zpow_right₀ one_le_two (by omega)) (by positivity)
            (by positivity)
    | negative =>
      refine iff_of_false (fun hle => ?_) (by simp)
      change (n : Int) ≤ Int32.minValue.toInt at hle
      have hfirst : Int32.minValue.toInt = -2 ^ 31 := by decide
      omega

/-- The product of a number with a power of two, cut to 32 bits. -/
theorem le_cut_iff {x c : Float32} {j : Nat} {v : Rat} {h : 0 < 2 ^ 23}
    (hc : c.toModel.unpack = .finite .positive (2 ^ 23) (j - 23) h) (hx : value? x = some v) :
    (n : Int) ≤ (x * c).toModel.toInt32.toInt ↔ (n : Rat) ≤ v * 2 ^ j := by
  have hcut : (x * c).toModel.toInt32 = Int32.ofIntClamp
      ((x * c).toModel.unpack.toInt Int32.minValue.toInt Int32.maxValue.toInt) := rfl
  have hnot {w : Rat} (hw : w ≤ 0) : ¬(n : Rat) ≤ w * 2 ^ j := by
    have hn : (0 : Rat) < n := by exact_mod_cast hpos
    have hproduct : w * 2 ^ j ≤ 0 := mul_nonpos_of_nonpos_of_nonneg hw (by positivity)
    exact not_le.2 (hproduct.trans_lt hn)
  rw [hcut, le_toInt_ofIntClamp_iff (by omega) (by omega), unpack_mul, hc]
  cases hunpack : x.toModel.unpack with
  | notANumber | infinity => simp [value?, hunpack, valueOf] at hx
  | zero s =>
    obtain rfl : 0 = v := by simpa [value?, hunpack, valueOf] using hx
    have hmul : UnpackedFloat.mul .binary32 (.zero s) (.finite .positive (2 ^ 23) (j - 23) h) =
        .zero (s * .positive) := rfl
    have hzero : (unpack .binary32 (pack .binary32 (.zero (s * .positive)))).toInt
        Int32.minValue.toInt Int32.maxValue.toInt = 0 := by cases s <;> rfl
    rw [hmul, hzero]
    exact iff_of_false (by omega) (hnot le_rfl)
  | finite s m e hm =>
    obtain ⟨hcanonical, -⟩ := canonical_of_value hunpack
    obtain ⟨m', e', hm', hmul, hcanonical', hvalue⟩ := mul_two_pow s hm hcanonical j
    rw [hmul, le_toInt_stored_iff hpos hmax s hm' hcanonical', hvalue]
    cases s with
    | positive =>
      obtain rfl : m * 2 ^ e = v := by simpa [value?, hunpack, valueOf] using hx
      simp
    | negative =>
      obtain rfl : -(m * 2 ^ e) = v := by simpa [value?, hunpack, valueOf] using hx
      exact iff_of_false (by simp) (hnot (by rw [neg_nonpos]; positivity))

end Cut

end Single

end Caption
