import Caption.Layout.Basic
import Caption.Proofs.Scalar.Single

/-!
# Large lengths

A length in single precision from 8192 up has no digits that the slack before cutting to whole
pixels could reach, so the sum is the length. Its whole part is the last number of 64 bits
exactly when the length is `2 ^ 63` or more, infinite ones among them.

## Main definitions

* `Single.AtLeast`: values from a power of two up
* `PixelsOf`: a number of pixels that belongs to a length

## Main statements

* `Single.add_slack`: the slack does not change a large length
* `pixelsOf_wholePixels`: the whole pixels of a length
* `pixelsOf_floorToSize`: also where the length is raised to the font's size
-/
namespace Caption

open Scalar

namespace Single

open Float.Model (Format UnpackedFloat)
open Float.Model.UnpackedFloat (Sign ExtendedMantissa pack unpack)

/-! ## Magnitudes -/

/-- The value is `2 ^ (k + 23)` or more. -/
def AtLeast (k : Int) : UnpackedFloat → Prop
  | .infinity .positive => True
  | .finite .positive _ e _ => k ≤ e
  | _ => False

theorem AtLeast.mono {k k' : Int} {f : UnpackedFloat} (h : AtLeast k f) (hk : k' ≤ k) :
    AtLeast k' f := by
  cases f with
  | notANumber | zero => exact h
  | infinity s => cases s <;> exact h
  | finite s m e hm =>
    cases s with
    | negative => exact h
    | positive => exact Int.le_trans hk h

theorem canonical_of_value {x : Float32} {s : Sign} {m : Nat} {e : Int} {h : 0 < m}
    (hx : x.toModel.unpack = .finite s m e h) : Canonical m e ∧ e ≤ 104 :=
  canonical_of_unpack hx

/-- Comparing with a power of two compares exponents. -/
theorem le_iff {c x : Float32} {k : Int} {h : 0 < 2 ^ 23}
    (hc : c.toModel.unpack = .finite .positive (2 ^ 23) k h) (hk : -149 < k) :
    c ≤ x ↔ AtLeast k x.toModel.unpack := by
  have hle : c ≤ x ↔ c.toModel.unpack.le x.toModel.unpack = true := decide_eq_true_iff
  rw [hle, hc]
  cases hx : x.toModel.unpack with
  | notANumber => simp [AtLeast, UnpackedFloat.le, UnpackedFloat.compare]
  | infinity s => cases s <;> simp [AtLeast, UnpackedFloat.le, UnpackedFloat.compare]
  | zero s => simp [AtLeast, UnpackedFloat.le, UnpackedFloat.compare]
  | finite s m e hm =>
    cases s with
    | negative => simp [AtLeast, UnpackedFloat.le, UnpackedFloat.compare]
    | positive =>
      obtain ⟨⟨-, -, hfull⟩, -⟩ := canonical_of_value hx
      have hcompare : ((compare k e).then (compare (2 ^ 23) m)).isLE = true ↔ k ≤ e := by
        rw [Ordering.isLE_then_iff_or, Int.compare_eq_lt, Int.compare_eq_eq, Nat.isLE_compare]
        omega
      exact hcompare

theorem ofInt_8192_le_iff (x : Float32) : ofInt 8192 ≤ x ↔ AtLeast (-10) x.toModel.unpack :=
  have h : (ofInt 8192 : Float32).toModel.unpack = .finite .positive (2 ^ 23) (-10) (by decide) :=
    rfl
  le_iff h (by decide)

theorem ofInt_two_pow_63_le_iff (x : Float32) :
    ofInt (2 ^ 63) ≤ x ↔ AtLeast 40 x.toModel.unpack :=
  have h : (ofInt (2 ^ 63) : Float32).toModel.unpack = .finite .positive (2 ^ 23) 40 (by decide) :=
    rfl
  le_iff h (by decide)

/-! ## Whole parts -/

/-- The whole part before it is held within 64 bits. -/
def wholePart (f : UnpackedFloat) : Int := f.toInt Int64.minValue.toInt Int64.maxValue.toInt

theorem wholePart_finite (s : Sign) {m : Nat} {e : Int} (h : 0 < m) :
    wholePart (.finite s m e h) = s.apply (m * 2 ^ e.toNat / 2 ^ (-e).toNat : Nat) := by
  have hshift : (0 - (e - (e - 0).toNat)).toNat = (-e).toNat := by omega
  change s.apply (ExtendedMantissa.mk (m <<< (e - 0).toNat) false false >>>
    (0 - (e - (e - 0).toNat)).toNat).mantissa = _
  rw [mantissa_shiftRight, hshift, Nat.shiftLeft_eq, Int.sub_zero]

section Positive

variable {m : Nat} {e : Int}

theorem le_scaled (hm : 2 ^ 23 ≤ m) (he : -10 ≤ e) :
    8192 ≤ m * 2 ^ e.toNat / 2 ^ (-e).toNat := by
  have hdivisor : 2 ^ (-e).toNat ≤ 2 ^ 10 := Nat.pow_le_pow_right (by decide) (by omega)
  have hfactor := Nat.two_pow_pos e.toNat
  rw [Nat.le_div_iff_mul_le (Nat.two_pow_pos _)]
  calc 8192 * 2 ^ (-e).toNat
      ≤ 8192 * 2 ^ 10 := Nat.mul_le_mul_left _ hdivisor
    _ ≤ m * 1 := by omega
    _ ≤ m * 2 ^ e.toNat := Nat.mul_le_mul_left _ hfactor

theorem two_pow_63_le_scaled (hm : 2 ^ 23 ≤ m) (he : 40 ≤ e) :
    2 ^ 63 ≤ m * 2 ^ e.toNat / 2 ^ (-e).toNat := by
  have hdivisor : (-e).toNat = 0 := by omega
  have hfactor : 2 ^ 40 ≤ 2 ^ e.toNat := Nat.pow_le_pow_right (by decide) (by omega)
  rw [hdivisor, Nat.pow_zero, Nat.div_one]
  calc 2 ^ 63 = 2 ^ 23 * 2 ^ 40 := by decide
    _ ≤ m * 2 ^ e.toNat := Nat.mul_le_mul hm hfactor

theorem scaled_lt (hm : m < 2 ^ 24) (he : e < 40) :
    m * 2 ^ e.toNat / 2 ^ (-e).toNat < 2 ^ 63 - 1 := by
  have hfactor : 2 ^ e.toNat ≤ 2 ^ 39 := Nat.pow_le_pow_right (by decide) (by omega)
  calc m * 2 ^ e.toNat / 2 ^ (-e).toNat
      ≤ m * 2 ^ e.toNat := Nat.div_le_self _ _
    _ ≤ (2 ^ 24 - 1) * 2 ^ 39 := Nat.mul_le_mul (by omega) hfactor
    _ < 2 ^ 63 - 1 := by decide

end Positive

/-- Large values have large whole parts. -/
theorem le_wholePart {b : BitVec 32} (h : AtLeast (-10) (unpack .binary32 b)) :
    8192 ≤ wholePart (unpack .binary32 b) := by
  cases hb : unpack .binary32 b with
  | notANumber | zero => rw [hb] at h; cases h
  | infinity s =>
    rw [hb] at h
    cases s with
    | negative => cases h
    | positive => decide
  | finite s m e hm =>
    rw [hb] at h
    cases s with
    | negative => cases h
    | positive =>
      obtain ⟨⟨-, -, hfull⟩, -⟩ := canonical_of_unpack hb
      have he : -10 ≤ e := h
      have hscaled := le_scaled (hfull.resolve_right (by omega)) he
      rw [wholePart_finite]
      exact Int.ofNat_le.2 hscaled

/-- Only from `2 ^ 63` up do whole parts leave 64 bits. -/
theorem max_le_wholePart_iff {b : BitVec 32} :
    Int64.maxValue.toInt ≤ wholePart (unpack .binary32 b) ↔ AtLeast 40 (unpack .binary32 b) := by
  have hmax : Int64.maxValue.toInt = 2 ^ 63 - 1 := by decide
  have hzero : ¬Int64.maxValue.toInt ≤ 0 := by decide
  cases hb : unpack .binary32 b with
  | notANumber | zero => exact ⟨fun h => absurd h hzero, fun h => h.elim⟩
  | infinity s =>
    cases s with
    | negative => exact ⟨fun h => absurd h (by decide), fun h => h.elim⟩
    | positive => exact ⟨fun _ => trivial, fun _ => by decide⟩
  | finite s m e hm =>
    obtain ⟨⟨hlt, -, hfull⟩, -⟩ := canonical_of_unpack hb
    rw [wholePart_finite, hmax]
    cases s with
    | negative =>
      refine ⟨fun h => ?_, fun h => h.elim⟩
      generalize m * 2 ^ e.toNat / 2 ^ (-e).toNat = n at h
      have hneg : (2 ^ 63 - 1 : Int) ≤ -(n : Int) := h
      omega
    | positive =>
      change (2 ^ 63 - 1 : Int) ≤ (m * 2 ^ e.toNat / 2 ^ (-e).toNat : Nat) ↔ 40 ≤ e
      by_cases he : 40 ≤ e
      · have hscaled := two_pow_63_le_scaled (hfull.resolve_right (by omega)) he
        exact ⟨fun _ => he, fun _ => by omega⟩
      · have hscaled := scaled_lt hlt (Int.not_le.1 he)
        exact ⟨fun h => by omega, fun h => absurd h he⟩

/-- Whole parts are held within the bounds of 64 bits. -/
theorem toInt_ofIntClamp_eq (n : Int) : (Int64.ofIntClamp n).toInt =
    max Int64.minValue.toInt (min n Int64.maxValue.toInt) := by
  have hbounds : Int64.minValue.toInt ≤ Int64.maxValue.toInt := by decide
  unfold Int64.ofIntClamp
  split
  · split
    · rw [Int64.toInt_ofIntLE]
      omega
    · omega
  · omega

theorem ofIntClamp_eq_max_iff (n : Int) :
    Int64.ofIntClamp n = Int64.maxValue ↔ Int64.maxValue.toInt ≤ n := by
  have hbounds : Int64.minValue.toInt < Int64.maxValue.toInt := by decide
  rw [← Int64.toInt_inj, toInt_ofIntClamp_eq]
  omega

theorem le_toInt_ofIntClamp {n : Int} (h : 8192 ≤ n) : 8192 ≤ (Int64.ofIntClamp n).toInt := by
  have hmax : 8192 ≤ Int64.maxValue.toInt := by decide
  rw [toInt_ofIntClamp_eq]
  omega

/-! ## The slack -/

theorem unpack_add (x y : Float32) : (x + y).toModel.unpack =
    unpack .binary32
      (pack .binary32 (UnpackedFloat.add .binary32 x.toModel.unpack y.toModel.unpack)) :=
  rfl

theorem unpack_pixelSlack :
    (pixelSlack : Float32).toModel.unpack = .finite .positive 13743895 (-37) (by decide) :=
  rfl

theorem normalize_natCast {n : Nat} (h : 0 < n) (e : Int) (z : Sign) :
    UnpackedFloat.normalize .binary32 n e z = UnpackedFloat.round .binary32 .positive n e := by
  have hcompare : compare (n : Int) 0 = .gt := Int.compare_eq_gt.2 (Int.natCast_pos.2 h)
  unfold UnpackedFloat.normalize
  rw [hcompare]
  rfl

/-- Digits far behind the last one of a mantissa are dropped again. -/
theorem round_behind {m n k : Nat} {e : Int} (hm : 2 ^ 23 ≤ m) (hlt : m < 2 ^ 24)
    (hn : n < 2 ^ k) (he : -149 ≤ e + (k + 1 : Nat)) :
    ∃ h, UnpackedFloat.round .binary32 .positive (m * 2 ^ (k + 1) + n) e =
      .finite .positive m (e + (k + 1 : Nat)) h := by
  have hpow := Nat.two_pow_pos k
  have hdouble : m * 2 ^ (k + 1) = 2 * m * 2 ^ k := by
    rw [Nat.pow_succ, Nat.mul_comm (2 ^ k) 2, ← Nat.mul_assoc, Nat.mul_comm m 2]
  have hfirst : (m * 2 ^ (k + 1) + n) / 2 ^ k = 2 * m := by
    rw [hdouble, Nat.add_comm, Nat.add_mul_div_right _ _ hpow, Nat.div_eq_of_lt hn, Nat.zero_add]
  have hdigits : (m * 2 ^ (k + 1) + n) / 2 ^ (k + 1) = m := by
    rw [Nat.pow_succ, ← Nat.div_div_eq_div_mul, ← Nat.pow_succ, hfirst]
    omega
  have hpos : m * 2 ^ (k + 1) + n ≠ 0 := by
    intro hzero
    rw [hzero] at hdigits
    simp at hdigits
    omega
  have hlog : (m * 2 ^ (k + 1) + n).log2 = 23 + (k + 1) := by
    have hunit : n < 2 ^ (k + 1) :=
      Nat.lt_of_lt_of_le hn (Nat.pow_le_pow_right (by decide) (Nat.le_succ k))
    refine (Nat.log2_eq_iff hpos).2 ⟨?_, ?_⟩
    · calc 2 ^ (23 + (k + 1))
          = 2 ^ 23 * 2 ^ (k + 1) := Nat.pow_add 2 23 (k + 1)
        _ ≤ m * 2 ^ (k + 1) := Nat.mul_le_mul_right _ hm
        _ ≤ m * 2 ^ (k + 1) + n := Nat.le_add_right _ n
    · calc m * 2 ^ (k + 1) + n
          < m * 2 ^ (k + 1) + 2 ^ (k + 1) := Nat.add_lt_add_left hunit _
        _ = (m + 1) * 2 ^ (k + 1) := (Nat.succ_mul m _).symm
        _ ≤ 2 ^ 24 * 2 ^ (k + 1) := Nat.mul_le_mul_right _ hlt
        _ = 2 ^ (23 + (k + 1) + 1) := by rw [← Nat.pow_add, Nat.add_right_comm]
  have hround := round_of_long_low hlog he .positive (Nat.succ_pos k) (by
    rw [Nat.add_sub_cancel, hfirst]
    omega)
  rwa [hdigits] at hround

/-- The slack does not change a large length. -/
theorem add_slack {x : Float32} (h : AtLeast (-10) x.toModel.unpack) :
    (x + pixelSlack).toModel.unpack = x.toModel.unpack := by
  rw [unpack_add, unpack_pixelSlack]
  cases hx : x.toModel.unpack with
  | notANumber | zero => rw [hx] at h; cases h
  | infinity s =>
    rw [hx] at h
    cases s with
    | negative => cases h
    | positive => rfl
  | finite s m e hm =>
    rw [hx] at h
    cases s with
    | negative => cases h
    | positive =>
      obtain ⟨hc, hmax⟩ := canonical_of_value hx
      have he : -10 ≤ e := h
      obtain ⟨k, hk⟩ : ∃ k, (e + 37).toNat = k + 1 := ⟨(e + 37).toNat - 1, by omega⟩
      have hslack : 13743895 < 2 ^ k :=
        Nat.lt_of_lt_of_le (by decide) (Nat.pow_le_pow_right (by decide) (by omega : 24 ≤ k))
      obtain ⟨hpos, hround⟩ := round_behind (hc.full.resolve_right (by omega)) hc.lt hslack
        (by omega : -149 ≤ -37 + ((k + 1 : Nat) : Int))
      have hsum : UnpackedFloat.add .binary32 (.finite .positive m e hm)
          (.finite .positive 13743895 (-37) (by decide)) = .finite .positive m e hm := by
        calc UnpackedFloat.add .binary32 (.finite .positive m e hm)
              (.finite .positive 13743895 (-37) (by decide))
            = UnpackedFloat.normalize .binary32
                ((m <<< (e - min e (-37)).toNat : Nat) +
                  (13743895 <<< (-37 - min e (-37)).toNat : Nat)) (min e (-37)) .positive := rfl
          _ = UnpackedFloat.normalize .binary32 (m * 2 ^ (k + 1) + 13743895 : Nat) (-37)
                .positive := by
            have hleast : min e (-37) = -37 := by omega
            have hshift : (e - -37).toNat = k + 1 := by omega
            rw [hleast, hshift, Nat.shiftLeft_eq]
            rfl
          _ = UnpackedFloat.round .binary32 .positive (m * 2 ^ (k + 1) + 13743895) (-37) :=
            normalize_natCast (by omega) _ _
          _ = .finite .positive m e hm := by
            rw [hround]
            congr 1
            omega
      rw [hsum]
      exact unpack_pack .positive hm hc hmax

/-! ## Small values -/

/-- A result is large only if it was rounded from a large positive number. -/
theorem not_atLeast_normalize {n e k : Int} (he : -149 ≤ e) (hk : k ≤ 104)
    (h : ∀ m : Nat, n = m → 0 < m → ∃ m' e' h', UnpackedFloat.round .binary32 .positive m e =
      .finite .positive m' e' h' ∧ Canonical m' e' ∧ e' < k) :
    ¬AtLeast k (unpack .binary32
      (pack .binary32 (UnpackedFloat.normalize .binary32 n e .positive))) := by
  rcases Int.lt_trichotomy n 0 with hn | rfl | hn
  · have hnormalize : UnpackedFloat.normalize .binary32 n e .positive =
        UnpackedFloat.round .binary32 .negative (-n).toNat e := by
      unfold UnpackedFloat.normalize
      rw [Int.compare_eq_lt.2 hn]
    obtain ⟨m', e', h', hround, hc, -⟩ := round_spec .negative (by omega : 0 < (-n).toNat) he
    rw [hnormalize, hround]
    by_cases hlarge : e' ≤ 104
    · rw [unpack_pack _ h' hc hlarge]
      exact id
    · rw [unpack_pack_of_large _ h' (Int.not_le.1 hlarge)]
      exact id
  · have hnormalize : UnpackedFloat.normalize .binary32 0 e .positive = .zero .positive := rfl
    have hzero : unpack .binary32 (pack .binary32 (.zero .positive)) = .zero .positive := rfl
    rw [hnormalize, hzero]
    exact id
  · obtain ⟨m, rfl⟩ := Int.eq_ofNat_of_zero_le (Int.le_of_lt hn)
    have hm : 0 < m := Int.natCast_pos.1 hn
    obtain ⟨m', e', h', hround, hc, he'⟩ := h m rfl hm
    rw [normalize_natCast hm, hround, unpack_pack _ h' hc (by omega)]
    exact Int.not_le.2 he'

theorem not_atLeast_of_lt {n : Int} (hn : n < 8192) :
    ¬AtLeast (-10) (ofInt n : Float32).toModel.unpack := by
  refine not_atLeast_normalize (by decide) (by decide) fun m hm hpos => ?_
  have hlog : m.log2 < 13 := (Nat.log2_lt (Nat.ne_of_gt hpos)).2 (by omega)
  have hleast : (-149 : Int) ≤ 0 := by decide
  obtain ⟨m', h', hround, hc⟩ := round_of_short .positive hpos (by omega) hleast
  exact ⟨m', _, h', hround, hc, by omega⟩

theorem not_atLeast_of_lt_two_pow {n : Int} (hn : n < 2 ^ 31) :
    ¬AtLeast 40 (ofInt n : Float32).toModel.unpack := by
  refine not_atLeast_normalize (by decide) (by decide) fun m hm hpos => ?_
  have hlog : m.log2 < 31 := (Nat.log2_lt (Nat.ne_of_gt hpos)).2 (by omega)
  have hleast : (-149 : Int) ≤ 0 := by decide
  obtain ⟨m', e', h', hround, hc, he'⟩ := round_spec .positive hpos hleast
  exact ⟨m', e', h', hround, hc, by omega⟩

theorem shiftLeft_lt {m j k : Nat} (hm : m < 2 ^ 24) (hj : 24 + j ≤ k) : m <<< j < 2 ^ k := by
  rw [Nat.shiftLeft_eq]
  calc m * 2 ^ j
      < 2 ^ 24 * 2 ^ j := Nat.mul_lt_mul_of_pos_right hm (Nat.two_pow_pos j)
    _ = 2 ^ (24 + j) := (Nat.pow_add 2 24 j).symm
    _ ≤ 2 ^ k := Nat.pow_le_pow_right (by decide) hj

/-- The slack does not make a small length large. -/
theorem not_atLeast_add_slack {x : Float32} (h : ¬AtLeast (-10) x.toModel.unpack) :
    ¬AtLeast 40 (x + pixelSlack).toModel.unpack := by
  rw [unpack_add, unpack_pixelSlack]
  cases hx : x.toModel.unpack with
  | notANumber => exact id
  | zero s =>
    have hsum : UnpackedFloat.add .binary32 (.zero s)
        (.finite .positive 13743895 (-37) (by decide)) = .finite .positive 13743895 (-37)
          (by decide) := by cases s <;> rfl
    rw [hsum, unpack_pack _ _ (.of_full (by decide) (by decide) (by decide)) (by decide)]
    exact (by decide : ¬(40 : Int) ≤ -37)
  | infinity s =>
    cases s with
    | negative => exact id
    | positive =>
      rw [hx] at h
      exact absurd trivial h
  | finite s m e hm =>
    obtain ⟨hc, -⟩ := canonical_of_value hx
    have hleast := hc.least_le
    -- The sum is less than `2 ^ 14`, whichever of the two exponents it is aligned to.
    refine not_atLeast_normalize (by omega) (by decide) fun n hn hpos => ?_
    obtain ⟨k, hk⟩ : ∃ k : Nat, min e (-37) = 13 - k := ⟨(13 - min e (-37)).toNat, by omega⟩
    have hslack : 13743895 <<< (-37 - min e (-37)).toNat < 2 ^ k :=
      shiftLeft_lt (by decide) (by omega)
    have hlt : n < 2 ^ k + 2 ^ k := by
      cases s with
      | negative =>
        change -((m <<< (e - min e (-37)).toNat : Nat) : Int) +
          (13743895 <<< (-37 - min e (-37)).toNat : Nat) = n at hn
        generalize m <<< (e - min e (-37)).toNat = length at hn
        generalize 13743895 <<< (-37 - min e (-37)).toNat = slack at hn hslack
        omega
      | positive =>
        have he : ¬-10 ≤ e := fun he => h (by rw [hx]; exact he)
        have hlength : m <<< (e - min e (-37)).toNat < 2 ^ k := shiftLeft_lt hc.lt (by omega)
        change ((m <<< (e - min e (-37)).toNat : Nat) : Int) +
          (13743895 <<< (-37 - min e (-37)).toNat : Nat) = n at hn
        omega
    rw [← Nat.two_mul, Nat.mul_comm, ← Nat.pow_succ] at hlt
    have hlog : n.log2 < k + 1 := (Nat.log2_lt (Nat.ne_of_gt hpos)).2 hlt
    obtain ⟨m', e', h', hround, hc', he'⟩ := round_spec .positive hpos
      (by omega : -149 ≤ min e (-37))
    exact ⟨m', e', h', hround, hc', by omega⟩

theorem atLeast_add_slack_iff (x : Float32) :
    AtLeast 40 (x + pixelSlack).toModel.unpack ↔ AtLeast 40 x.toModel.unpack := by
  by_cases h : AtLeast (-10) x.toModel.unpack
  · rw [add_slack h]
  · have hx : ¬AtLeast 40 x.toModel.unpack := fun hlarge => h (hlarge.mono (by decide))
    exact iff_of_false (not_atLeast_add_slack h) hx

end Single

/-! ## Whole pixels -/

theorem wholePixels_eq (x : Float32) :
    wholePixels x = Int64.ofIntClamp (Single.wholePart (x + pixelSlack).toModel.unpack) :=
  rfl

theorem le_wholePixels {x : Float32} (h : ofInt 8192 ≤ x) : 8192 ≤ (wholePixels x).toInt := by
  have hlarge := (Single.ofInt_8192_le_iff x).1 h
  rw [wholePixels_eq, Single.add_slack hlarge]
  exact Single.le_toInt_ofIntClamp (Single.le_wholePart hlarge)

/-- The whole pixels of a length are the last number of 64 bits from `2 ^ 63` up. -/
theorem wholePixels_eq_max_iff (x : Float32) :
    wholePixels x = Int64.maxValue ↔ ofInt (2 ^ 63) ≤ x := by
  calc wholePixels x = Int64.maxValue
      ↔ Int64.maxValue.toInt ≤ Single.wholePart (x + pixelSlack).toModel.unpack :=
        Single.ofIntClamp_eq_max_iff _
    _ ↔ Single.AtLeast 40 (x + pixelSlack).toModel.unpack := Single.max_le_wholePart_iff
    _ ↔ Single.AtLeast 40 x.toModel.unpack := Single.atLeast_add_slack_iff x
    _ ↔ ofInt (2 ^ 63) ≤ x := (Single.ofInt_two_pow_63_le_iff x).symm

/-- A number of pixels that belongs to a length: large for a large one, and the last number of 64
bits exactly from `2 ^ 63` up. -/
structure PixelsOf (length : Float32) (pixels : Int64) : Prop where
  large : ofInt 8192 ≤ length → 8192 ≤ pixels.toInt
  eq_max_iff : pixels = Int64.maxValue ↔ ofInt (2 ^ 63) ≤ length

theorem pixelsOf_wholePixels (x : Float32) : PixelsOf x (wholePixels x) :=
  ⟨le_wholePixels, wholePixels_eq_max_iff x⟩

theorem floorToSize_eq (size : Int32) (length : Float32) : floorToSize size length =
    if lt length (ofInt size.toInt) then (ofInt size.toInt, size.toInt64)
    else (length, wholePixels length) :=
  rfl

/-- The numbers of 32 bits are not large in single precision if they are not. -/
theorem pixelsOf_size (size : Int32) : PixelsOf (ofInt size.toInt) size.toInt64 where
  large h := by
    rw [Int32.toInt_toInt64]
    refine Int.not_lt.1 fun hlt => ?_
    exact Single.not_atLeast_of_lt hlt ((Single.ofInt_8192_le_iff _).1 h)
  eq_max_iff := by
    have hsize : size.toInt < 2 ^ 31 := size.toInt_lt
    have hmax : Int64.maxValue.toInt = 2 ^ 63 - 1 := by decide
    refine iff_of_false ?_ fun h => ?_
    · rw [← Int64.toInt_inj, Int32.toInt_toInt64]
      omega
    · exact Single.not_atLeast_of_lt_two_pow hsize ((Single.ofInt_two_pow_63_le_iff _).1 h)

/-- Also where a length is raised to the font's size. -/
theorem pixelsOf_floorToSize (size : Int32) (length : Float32) :
    PixelsOf (floorToSize size length).1 (floorToSize size length).2 := by
  rw [floorToSize_eq]
  split
  · exact pixelsOf_size size
  · exact pixelsOf_wholePixels length

end Caption
