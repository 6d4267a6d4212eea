import Caption.Proofs.Scalar.Large

/-!
# Signed zeros

Single precision has two zeros. They compare equal, and adding or subtracting them changes
nothing but a zero: `x + 0` is `x` with the negative zero turned into the positive one, while
`x - 0` is `x`. Where something is placed in at least one whole pixel no negative zero comes out:
what is left of the space is nothing or far too large for a half of it to be rounded away.

## Main definitions

* `Single.unsigned`: the same number with the negative zero as the positive one
* `Single.Coarse`: values whose half is not rounded to the negative zero

## Main statements

* `Single.add_zero_eq`, `Single.sub_zero`, `Single.sub_neg_zero`: what zeros do to a number
* `Single.unsigned_add_unsigned`, `Single.lt_congr`: sums and comparisons up to the sign of zeros
* `Single.coarse_sub`: what is left of at least one pixel
* `Single.offset_ne`: no offset in at least one pixel is the negative zero
-/
namespace Caption

open Scalar

namespace Single

open Float.Model (Format UnpackedFloat)
open Float.Model.UnpackedFloat (Sign pack unpack)

theorem unpack_inj {x y : Float32} : x.toModel.unpack = y.toModel.unpack ↔ x = y := by
  calc x.toModel.unpack = y.toModel.unpack
      ↔ x.toModel.toBits.toBitVec = y.toModel.toBits.toBitVec :=
        UnpackedFloat.unpack_inj_of_valid x.toModel.valid y.toModel.valid
    _ ↔ x.toBits = y.toBits := UInt32.toBitVec_inj
    _ ↔ x = y := Float32.toBits_inj

theorem unpack_zero : (zero : Float32).toModel.unpack = .zero .positive := rfl

theorem unpack_neg_zero : (-zero : Float32).toModel.unpack = .zero .negative := rfl

theorem lt_eq (a b : Float32) : lt a b = a.toModel.unpack.lt b.toModel.unpack :=
  have h : a < b ↔ a.toModel.unpack.lt b.toModel.unpack = true := decide_eq_true_iff
  Bool.eq_iff_iff.2 (decide_eq_true_iff.trans h)

theorem le_eq (a b : Float32) : le a b = a.toModel.unpack.le b.toModel.unpack :=
  have h : a ≤ b ↔ a.toModel.unpack.le b.toModel.unpack = true := decide_eq_true_iff
  Bool.eq_iff_iff.2 (decide_eq_true_iff.trans h)

theorem zero_ne : (zero : Float32) ≠ -zero := by decide

theorem unpack_sub (x y : Float32) : (x - y).toModel.unpack =
    unpack .binary32
      (pack .binary32 (UnpackedFloat.sub .binary32 x.toModel.unpack y.toModel.unpack)) :=
  rfl

/-- Values are stored without loss. -/
theorem unpack_pack_unpack (x : Float32) :
    unpack .binary32 (pack .binary32 x.toModel.unpack) = x.toModel.unpack :=
  congrArg (unpack .binary32) (UnpackedFloat.pack_unpack_of_valid x.toModel.valid)

theorem add_zero_of_ne {x : Float32} (h : x ≠ -zero) : x + zero = x := by
  have hsum :
      UnpackedFloat.add .binary32 x.toModel.unpack (.zero .positive) = x.toModel.unpack := by
    rw [Ne, ← unpack_inj, unpack_neg_zero] at h
    cases hx : x.toModel.unpack with
    | notANumber | infinity | finite => rfl
    | zero s =>
      cases s with
      | positive => rfl
      | negative => exact absurd hx h
  rw [← unpack_inj, unpack_add, unpack_zero, hsum, unpack_pack_unpack]

theorem sub_zero (x : Float32) : x - zero = x := by
  have hdifference : UnpackedFloat.sub .binary32 x.toModel.unpack (.zero .positive) =
      x.toModel.unpack := by
    cases x.toModel.unpack with
    | notANumber | infinity | finite => rfl
    | zero s => cases s <;> rfl
  rw [← unpack_inj, unpack_sub, unpack_zero, hdifference, unpack_pack_unpack]

/-- What is added to one zero or the other comes out the same unless it is the negative one. -/
theorem zero_add_of_ne {c : Float32} (h : c ≠ -zero) : zero + c = -zero + c := by
  rw [Ne, ← unpack_inj, unpack_neg_zero] at h
  rw [← unpack_inj, unpack_add, unpack_add, unpack_zero, unpack_neg_zero]
  cases hc : c.toModel.unpack with
  | notANumber | infinity | finite => rfl
  | zero s =>
    cases s with
    | positive => rfl
    | negative => exact absurd hc h

theorem zero_sub_of_ne {c : Float32} (h : c ≠ zero) : zero - c = -zero - c := by
  rw [Ne, ← unpack_inj, unpack_zero] at h
  rw [← unpack_inj, unpack_sub, unpack_sub, unpack_zero, unpack_neg_zero]
  cases hc : c.toModel.unpack with
  | notANumber | infinity | finite => rfl
  | zero s =>
    cases s with
    | positive => exact absurd hc h
    | negative => rfl

/-! ## One zero for both -/

/-- The same number with the negative zero as the positive one. -/
def unsigned (x : Float32) : Float32 := if x = -zero then zero else x

theorem unsigned_of_ne {x : Float32} (h : x ≠ -zero) : unsigned x = x := if_neg h

theorem unsigned_neg_zero : unsigned (-zero) = zero := if_pos rfl

theorem add_zero_eq (x : Float32) : x + zero = unsigned x := by
  by_cases h : x = -zero
  · subst h
    rfl
  · rw [add_zero_of_ne h, unsigned_of_ne h]

theorem sub_neg_zero (x : Float32) : x - -zero = unsigned x := by
  by_cases h : x = -zero
  · subst h
    rfl
  · have hdifference : UnpackedFloat.sub .binary32 x.toModel.unpack (.zero .negative) =
        x.toModel.unpack := by
      rw [← unpack_inj, unpack_neg_zero] at h
      cases hx : x.toModel.unpack with
      | notANumber | infinity | finite => rfl
      | zero s =>
        cases s with
        | positive => rfl
        | negative => exact absurd hx h
    rw [unsigned_of_ne h, ← unpack_inj, unpack_sub, unpack_neg_zero, hdifference,
      unpack_pack_unpack]

/-- What does not tell the zeros apart takes a number either way. -/
theorem apply_unsigned {β : Sort*} {f : Float32 → β} (h : f zero = f (-zero)) (x : Float32) :
    f (unsigned x) = f x := by
  by_cases hx : x = -zero
  · rw [hx, unsigned_neg_zero, h]
  · rw [unsigned_of_ne hx]

theorem unsigned_unsigned (x : Float32) : unsigned (unsigned x) = unsigned x :=
  apply_unsigned rfl x

theorem unsigned_add_of_ne (x : Float32) {c : Float32} (h : c ≠ -zero) :
    unsigned x + c = x + c :=
  apply_unsigned (f := (· + c)) (zero_add_of_ne h) x

theorem unsigned_add_unsigned (x c : Float32) : unsigned (unsigned x + c) = unsigned (x + c) := by
  refine apply_unsigned (f := fun y => unsigned (y + c)) ?_ x
  by_cases h : c = -zero
  · subst h
    rfl
  · rw [zero_add_of_ne h]

theorem unsigned_sub_unsigned (x c : Float32) : unsigned (unsigned x - c) = unsigned (x - c) := by
  refine apply_unsigned (f := fun y => unsigned (y - c)) ?_ x
  by_cases h : c = zero
  · subst h
    rfl
  · rw [zero_sub_of_ne h]

section Congruence

variable {x y : Float32} (h : unsigned x = unsigned y)
include h

theorem unsigned_add_congr (c : Float32) : unsigned (x + c) = unsigned (y + c) := by
  rw [← unsigned_add_unsigned x, h, unsigned_add_unsigned]

theorem unsigned_sub_congr (c : Float32) : unsigned (x - c) = unsigned (y - c) := by
  rw [← unsigned_sub_unsigned x, h, unsigned_sub_unsigned]

end Congruence

/-! ## Comparing -/

theorem compare_zero_left (u : UnpackedFloat) :
    (UnpackedFloat.zero .positive).compare u = (UnpackedFloat.zero .negative).compare u := by
  cases u with
  | notANumber | zero => rfl
  | infinity s | finite s => cases s <;> rfl

theorem compare_zero_right (u : UnpackedFloat) :
    u.compare (.zero .positive) = u.compare (.zero .negative) := by
  cases u with
  | notANumber | zero => rfl
  | infinity s | finite s => cases s <;> rfl

theorem lt_unsigned_left (x c : Float32) : lt (unsigned x) c = lt x c := by
  refine apply_unsigned (f := (lt · c)) ?_ x
  simp only [lt_eq, UnpackedFloat.lt, unpack_zero, unpack_neg_zero, compare_zero_left]

theorem lt_unsigned_right (c x : Float32) : lt c (unsigned x) = lt c x := by
  refine apply_unsigned (f := lt c) ?_ x
  simp only [lt_eq, UnpackedFloat.lt, unpack_zero, unpack_neg_zero, compare_zero_right]

theorem le_unsigned_left (x c : Float32) : le (unsigned x) c = le x c := by
  refine apply_unsigned (f := (le · c)) ?_ x
  simp only [le_eq, UnpackedFloat.le, unpack_zero, unpack_neg_zero, compare_zero_left]

theorem lt_congr {x x' y y' : Float32} (hx : unsigned x = unsigned x')
    (hy : unsigned y = unsigned y') : lt x y = lt x' y' := by
  rw [← lt_unsigned_left x, ← lt_unsigned_right _ y, hx, hy, lt_unsigned_right, lt_unsigned_left]

/-! ## Cutting at zero -/

theorem larger_zero (x : Float32) : larger x zero = if lt x zero || x.isNaN then zero else x := rfl

theorem smaller_zero (x : Float32) : smaller x zero = if lt zero x || x.isNaN then zero else x :=
  rfl

theorem le_zero_iff (x : Float32) : le x zero = true ↔ lt zero x = false ∧ x.isNaN = false := by
  have hnan : x.isNaN = x.toModel.unpack.isNaN := rfl
  rw [le_eq, lt_eq, hnan, unpack_zero]
  cases x.toModel.unpack with
  | notANumber => decide
  | zero s | infinity s => cases s <;> decide
  | finite s => cases s <;> simp [UnpackedFloat.le, UnpackedFloat.lt, UnpackedFloat.compare,
      UnpackedFloat.isNaN]

theorem smaller_zero_le (x : Float32) : le (smaller x zero) zero = true := by
  rw [smaller_zero]
  split
  next => decide
  next h => exact (le_zero_iff x).2 (Bool.or_eq_false_iff.1 (Bool.not_eq_true _ ▸ h))

theorem larger_zero_le {x : Float32} (h : le x zero = true) : le (larger x zero) zero = true := by
  rw [larger_zero]
  split
  · decide
  · exact h

theorem larger_zero_ne {x : Float32} (h : x ≠ -zero) : larger x zero ≠ -zero := by
  rw [larger_zero]
  split
  · exact zero_ne
  · exact h

/-! ## Far from zero -/

/-- The value is neither the negative zero nor one of the least, which half of might be. -/
def Coarse : UnpackedFloat → Prop
  | .zero .negative => False
  | .finite _ _ e _ => -149 < e
  | _ => True

/-- Rounding keeps the size. -/
theorem round_size (s : Sign) {m : Nat} {e : Int} (hm : 0 < m) (he : -149 ≤ e) :
    ∃ m' e' h, UnpackedFloat.round .binary32 s m e = .finite s m' e' h ∧ Canonical m' e' ∧
      m.log2 + e - 23 ≤ e' := by
  by_cases hlog : m.log2 ≤ 23
  · obtain ⟨m', h, hround, hc⟩ := round_of_short s hm hlog he
    exact ⟨m', _, h, hround, hc, by omega⟩
  · obtain ⟨k, hk⟩ : ∃ k, m.log2 = 23 + k := ⟨m.log2 - 23, by omega⟩
    obtain ⟨m', e', h, hround, hc, he'⟩ := round_of_long hk (by omega : -149 ≤ e + k) s
    exact ⟨m', e', h, hround, hc, by omega⟩

theorem coarse_round (s : Sign) {m : Nat} {e : Int} (hm : 0 < m) (he : -149 ≤ e)
    (hsize : -126 < m.log2 + e) :
    Coarse (unpack .binary32 (pack .binary32 (UnpackedFloat.round .binary32 s m e))) := by
  obtain ⟨m', e', h', hround, hc, he'⟩ := round_size s hm he
  rw [hround]
  by_cases hlarge : e' ≤ 104
  · rw [unpack_pack s h' hc hlarge]
    exact (by omega : -149 < e')
  · rw [unpack_pack_of_large s h' (Int.not_le.1 hlarge)]
    trivial

theorem normalize_of_neg {n : Int} (hn : n < 0) (e : Int) (z : Sign) :
    UnpackedFloat.normalize .binary32 n e z =
      UnpackedFloat.round .binary32 .negative n.natAbs e := by
  have habs : (-n).toNat = n.natAbs := by omega
  unfold UnpackedFloat.normalize
  rw [Int.compare_eq_lt.2 hn, ← habs]

theorem normalize_of_ne {n : Int} (hn : n ≠ 0) (e : Int) (z : Sign) :
    ∃ s, UnpackedFloat.normalize .binary32 n e z = UnpackedFloat.round .binary32 s n.natAbs e := by
  rcases Int.lt_or_gt_of_ne hn with hneg | hpos
  · exact ⟨.negative, normalize_of_neg hneg e z⟩
  · have habs : (n.natAbs : Int) = n := by omega
    exact ⟨.positive, habs ▸ normalize_natCast (Int.natAbs_pos.2 hn) e z⟩

theorem coarse_normalize {n e : Int} (he : -149 ≤ e) (hsize : n ≠ 0 → -126 < n.natAbs.log2 + e) :
    Coarse (unpack .binary32
      (pack .binary32 (UnpackedFloat.normalize .binary32 n e .positive))) := by
  by_cases hn : n = 0
  · have hnormalize : UnpackedFloat.normalize .binary32 n e .positive = .zero .positive := by
      rw [hn]
      rfl
    rw [hnormalize]
    exact trivial
  · obtain ⟨s, hs⟩ := normalize_of_ne hn e .positive
    rw [hs]
    exact coarse_round s (Int.natAbs_pos.2 hn) he (hsize hn)

theorem unpack_pack_infinity (s : Sign) :
    unpack .binary32 (pack .binary32 (.infinity s)) = .infinity s :=
  unpack_packedInfinity s

theorem unpack_pack_notANumber :
    unpack .binary32 (pack .binary32 .notANumber) = .notANumber :=
  UnpackedFloat.unpack_packedNaN

theorem coarse_infinity (s : Sign) : Coarse (unpack .binary32 (pack .binary32 (.infinity s))) := by
  rw [unpack_pack_infinity]
  exact trivial

theorem coarse_notANumber : Coarse (unpack .binary32 (pack .binary32 .notANumber)) := by
  rw [unpack_pack_notANumber]
  exact trivial

/-- Two finite numbers of which the first is at least one differ by nothing or by far more than
the least values: the other one is far from zero itself or far smaller. -/
theorem lt_size_sub {m n k l : Nat} {e d : Int} (hm : 2 ^ 23 ≤ m) (hn : n < 2 ^ 24) (he : -23 ≤ e)
    (hd : -149 ≤ d) (hk : (e - min e d).toNat = k) (hl : (d - min e d).toNat = l) {t : Sign}
    (hne : ((m <<< k : Nat) : Int) - t.apply (n <<< l : Nat) ≠ 0) :
    -126 < (((m <<< k : Nat) : Int) - t.apply (n <<< l : Nat)).natAbs.log2 + min e d := by
  by_cases hfar : -125 ≤ d
  · omega
  · have hl0 : l = 0 := by omega
    have hlarge : 2 ^ 125 ≤ m <<< k := by
      rw [Nat.shiftLeft_eq]
      calc 2 ^ 125 = 2 ^ 23 * 2 ^ 102 := by decide
        _ ≤ m * 2 ^ k := Nat.mul_le_mul hm (Nat.pow_le_pow_right (by decide) (by omega))
    subst hl0
    have habs : 2 ^ 124 ≤ (((m <<< k : Nat) : Int) - t.apply (n <<< 0 : Nat)).natAbs := by
      rw [Nat.shiftLeft_zero]
      generalize m <<< k = a at hlarge
      cases t with
      | negative =>
        change 2 ^ 124 ≤ ((a : Int) - -(n : Int)).natAbs
        omega
      | positive =>
        change 2 ^ 124 ≤ ((a : Int) - (n : Int)).natAbs
        omega
    have hlog := (Nat.le_log2 (by omega)).2 habs
    omega

/-- What is left of at least one is far from zero or nothing. -/
theorem coarse_sub {x : Float32} (hx : AtLeast (-23) x.toModel.unpack) (y : Float32) :
    Coarse (x - y).toModel.unpack := by
  rw [unpack_sub]
  cases hxu : x.toModel.unpack with
  | notANumber | zero => rw [hxu] at hx; cases hx
  | infinity s =>
    cases hyu : y.toModel.unpack with
    | notANumber => exact coarse_notANumber
    | zero | finite => exact coarse_infinity s
    | infinity t =>
      change Coarse (unpack .binary32 (pack .binary32
        (if s == -t then .infinity s else .notANumber)))
      split
      · exact coarse_infinity s
      · exact coarse_notANumber
  | finite s m e hm =>
    rw [hxu] at hx
    cases s with
    | negative => cases hx
    | positive =>
      have he : -23 ≤ e := hx
      obtain ⟨hc, hmax⟩ := canonical_of_value hxu
      have hfull : 2 ^ 23 ≤ m := hc.full.resolve_right (by omega)
      cases hyu : y.toModel.unpack with
      | notANumber => exact coarse_notANumber
      | infinity t => exact coarse_infinity _
      | zero t =>
        change Coarse (unpack .binary32 (pack .binary32 (.finite .positive m e hm)))
        rw [unpack_pack .positive hm hc hmax]
        exact (by omega : -149 < e)
      | finite t n d hn =>
        obtain ⟨hc', -⟩ := canonical_of_value hyu
        have hd := hc'.least_le
        exact coarse_normalize (by omega) (lt_size_sub hfull hc'.lt he hd rfl rfl)

/-! ## Halves -/

theorem unpack_div (x y : Float32) : (x / y).toModel.unpack =
    unpack .binary32
      (pack .binary32 (UnpackedFloat.div .binary32 x.toModel.unpack y.toModel.unpack)) :=
  rfl

theorem unpack_two :
    (ofInt 2 : Float32).toModel.unpack = .finite .positive (2 ^ 23) (-22) (by decide) :=
  rfl

theorem divCore_two {m : Nat} {e : Int} (hlog : m.log2 = 23) (he : -149 < e) :
    ∃ i : Nat, i ≤ 1 ∧ -149 ≤ e - 1 - i ∧
      UnpackedFloat.divCore .binary32 m e (2 ^ 23) (-22) = (m * 2 ^ i, e - 1 - i, .exact) := by
  obtain ⟨i, hi⟩ : ∃ i : Nat, (i : Int) = e - 1 - max (e - 2) (-149) :=
    ⟨(e - 1 - max (e - 2) (-149)).toNat, by omega⟩
  have hlogTwo : (2 ^ 23).log2 = 23 := Nat.log2_two_pow
  have hmin : Format.binary32.minExponent = -149 := by decide
  have htarget : min (e - -22) (Format.binary32.targetExponent
      (Float.Model.totalExponent m e - Float.Model.totalExponent (2 ^ 23) (-22))) = e - 1 - i := by
    simp only [Format.targetExponent, Float.Model.totalExponent, hmin, Format.mantissaBits, hlog,
      hlogTwo]
    omega
  have hshift : (e - -22 - (e - 1 - i)).toNat = i + 23 := by omega
  have hdigits : m <<< (i + 23) = m * 2 ^ i * 2 ^ 23 := by
    rw [Nat.shiftLeft_eq, Nat.pow_add, Nat.mul_assoc]
  refine ⟨i, by omega, by omega, ?_⟩
  unfold UnpackedFloat.divCore
  simp only [htarget, hshift, hdigits, Nat.mul_div_cancel _ (Nat.two_pow_pos 23),
    Nat.mul_mod_left]
  rfl

/-- Halving takes one off the exponent. -/
theorem div_two (s : Sign) {m : Nat} {e : Int} (h : 0 < m) (hc : Canonical m e) (he : -149 < e) :
    UnpackedFloat.div .binary32 (.finite s m e h) (.finite .positive (2 ^ 23) (-22) (by decide)) =
      .finite s m (e - 1) h := by
  have hfull : 2 ^ 23 ≤ m := hc.full.resolve_right (by omega)
  have hlog : m.log2 = 23 := (Nat.log2_eq_iff (Nat.ne_of_gt h)).2 ⟨hfull, hc.lt⟩
  obtain ⟨i, hi, hleast, hcore⟩ := divCore_two hlog he
  have hlogi := log2_mul_two_pow h i
  have hk : (max ((m * 2 ^ i).log2 + (e - 1 - i) - 23) (-149) - (e - 1 - i)).toNat = i := by omega
  have hr : (UnpackedFloat.ExtendedMantissa.mk (m * 2 ^ i) false false >>> i).roundedMantissa =
      m := by
    obtain rfl | rfl : i = 0 ∨ i = 1 := by omega
    · exact Nat.mul_one m
    · rw [roundedMantissa_of_roundBit, mantissa_shiftRight]
      · exact Nat.mul_div_cancel m (by decide)
      · rw [roundBit_shiftRight]
        simp
  have hsign : s / .positive = s := by cases s <;> rfl
  calc UnpackedFloat.div .binary32 (.finite s m e h)
        (.finite .positive (2 ^ 23) (-22) (by decide))
      = UnpackedFloat.roundWithAccuracy .binary32 (s / .positive)
          (UnpackedFloat.divCore .binary32 m e (2 ^ 23) (-22)).1
          (UnpackedFloat.divCore .binary32 m e (2 ^ 23) (-22)).2.1
          (UnpackedFloat.divCore .binary32 m e (2 ^ 23) (-22)).2.2 := rfl
    _ = UnpackedFloat.roundWithAccuracy .binary32 s (m * 2 ^ i) (e - 1 - i) .exact := by
      rw [hcore, hsign]
    _ = .finite s m (e - 1 - i + i) h := by
      rw [roundWithAccuracy_eq s hk (by omega) hr h (Nat.le_of_lt hc.lt), if_pos hc.lt]
    _ = .finite s m (e - 1) h := by rw [Int.sub_add_cancel]

/-- Half of what is far from zero is not rounded away. -/
theorem half_ne {x : Float32} (hx : Coarse x.toModel.unpack) : half x ≠ -zero := by
  have hhalf : half x = x / ofInt 2 := rfl
  rw [Ne, ← unpack_inj, unpack_neg_zero, hhalf, unpack_div, unpack_two]
  cases hxu : x.toModel.unpack with
  | notANumber =>
    change unpack .binary32 (pack .binary32 .notANumber) ≠ _
    rw [unpack_pack_notANumber]
    nofun
  | infinity s =>
    change unpack .binary32 (pack .binary32 (.infinity (s / .positive))) ≠ _
    rw [unpack_pack_infinity]
    nofun
  | zero s =>
    cases s with
    | negative => rw [hxu] at hx; exact absurd hx id
    | positive => exact nofun
  | finite s m e hm =>
    rw [hxu] at hx
    have he : -149 < e := hx
    obtain ⟨hc, hmax⟩ := canonical_of_value hxu
    have hfull : 2 ^ 23 ≤ m := hc.full.resolve_right (by omega)
    rw [div_two s hm hc he, unpack_pack s hm (.of_full hfull hc.lt (by omega)) (by omega)]
    nofun

/-! ## At least one -/

theorem ne_neg_zero_of_atLeast {k : Int} {x : Float32} (h : AtLeast k x.toModel.unpack) :
    x ≠ -zero := by
  rintro rfl
  exact h

theorem atLeast_ofInt {n : Int} (hn : 0 < n) :
    AtLeast (-23) (ofInt n : Float32).toModel.unpack := by
  obtain ⟨m, rfl⟩ := Int.eq_ofNat_of_zero_le (Int.le_of_lt hn)
  have hm : 0 < m := Int.natCast_pos.1 hn
  have hleast : (-149 : Int) ≤ 0 := by decide
  obtain ⟨m', e', h', hround, hc, he'⟩ := round_size .positive hm hleast
  change AtLeast (-23)
    (unpack .binary32 (pack .binary32 (UnpackedFloat.normalize .binary32 m 0 .positive)))
  rw [normalize_natCast hm, hround]
  by_cases hlarge : e' ≤ 104
  · rw [unpack_pack .positive h' hc hlarge]
    exact (by omega : -23 ≤ e')
  · rw [unpack_pack_of_large .positive h' (Int.not_le.1 hlarge)]
    exact trivial

theorem larger_of_atLeast {k : Int} {x : Float32} (h : AtLeast k x.toModel.unpack) :
    larger x zero = x := by
  have hnan : x.isNaN = x.toModel.unpack.isNaN := rfl
  rw [larger_zero, lt_eq, hnan, unpack_zero]
  cases hx : x.toModel.unpack with
  | notANumber | zero => rw [hx] at h; cases h
  | infinity s | finite s =>
    cases s with
    | negative => rw [hx] at h; cases h
    | positive => rfl

theorem ofInt_lt_zero {n : Int} (hn : n < 0) : lt (ofInt n : Float32) zero = true := by
  have hpos : 0 < n.natAbs := Int.natAbs_pos.2 (Int.ne_of_lt hn)
  have hleast : (-149 : Int) ≤ 0 := by decide
  obtain ⟨m, e, h, hround, hc, -⟩ := round_size .negative hpos hleast
  rw [lt_eq, unpack_zero]
  change (unpack .binary32 (pack .binary32
    (UnpackedFloat.normalize .binary32 n 0 .positive))).lt _ = true
  rw [normalize_of_neg hn, hround]
  by_cases hlarge : e ≤ 104
  · rw [unpack_pack .negative h hc hlarge]
    rfl
  · rw [unpack_pack_of_large .negative h (Int.not_le.1 hlarge)]
    rfl

/-- Cutting at zero before or after rounding is the same. -/
theorem larger_ofInt_zero (n : Int) : larger (ofInt n : Float32) zero = ofInt (max n 0) := by
  rcases Int.lt_trichotomy n 0 with hneg | rfl | hpos
  · rw [Int.max_eq_right (Int.le_of_lt hneg), larger_zero, ofInt_lt_zero hneg]
    rfl
  · rfl
  · rw [Int.max_eq_left (Int.le_of_lt hpos), larger_of_atLeast (atLeast_ofInt hpos)]

/-- In at least one pixel nothing is placed at the negative zero. -/
theorem offset_ne (a : Anchor) {available : Float32}
    (h : AtLeast (-23) available.toModel.unpack) (used : Float32) :
    a.offset available used ≠ -zero := by
  have hcoarse := coarse_sub h used
  cases a with
  | near => exact zero_ne
  | center => exact half_ne hcoarse
  | far =>
    intro hzero
    have hoffset : available - used = -zero := hzero
    rw [hoffset] at hcoarse
    exact hcoarse

end Single

end Caption
