import Mathlib
import Caption.Scalar

/-!
# Single precision

What the arithmetic of single precision does, from its model: a value is a sign, a mantissa of
24 binary digits and an exponent, and a result is rounded to such a value. Rounding keeps the
first 24 digits or goes one up, so it moves the exponent by at most one, and it keeps what has
no more digits.

## Main definitions

* `Single.Canonical`: the mantissas and exponents of values

## Main statements

* `Single.canonical_of_unpack`: values are canonical
* `Single.unpack_pack`: canonical values are stored without loss
* `Single.round_spec`: what rounding comes to
* `Single.round_of_long_low`: digits far behind the last one do not change a value
-/
namespace Caption

namespace Single

open Float.Model (Format UnpackedFloat totalExponent)
open Float.Model.UnpackedFloat

/-! ## Values -/

/-- A mantissa of 24 digits, or one of fewer at the least exponent. -/
structure Canonical (m : Nat) (e : Int) : Prop where
  lt : m < 2 ^ 24
  least_le : -149 ≤ e
  full : 2 ^ 23 ≤ m ∨ e = -149

theorem Canonical.of_full {m : Nat} {e : Int} (hlow : 2 ^ 23 ≤ m) (hlt : m < 2 ^ 24)
    (he : -149 ≤ e) : Canonical m e :=
  ⟨hlt, he, .inl hlow⟩

theorem targetExponent_eq (m : Nat) (e : Int) :
    Format.binary32.targetExponent (totalExponent m e) = max (m.log2 + e - 23) (-149) := by
  have hmin : Format.binary32.minExponent = -149 := by decide
  simp only [Format.targetExponent, totalExponent, hmin, Format.mantissaBits]
  omega

/-! ## Shifts -/

section Shift

variable (em : ExtendedMantissa) (k : Nat)

theorem shiftRight_succ : em >>> (k + 1) = (em >>> k).shiftRightOne := rfl

theorem mantissa_shiftRight : (em >>> k).mantissa = em.mantissa / 2 ^ k := by
  induction k with
  | zero => exact (Nat.div_one _).symm
  | succ k ih =>
    rw [shiftRight_succ, Nat.pow_succ, ← Nat.div_div_eq_div_mul, ← ih]
    rfl

theorem roundBit_shiftRight :
    (em >>> (k + 1)).roundBit = (em.mantissa / 2 ^ k % 2 != 0) := by
  rw [shiftRight_succ, ← mantissa_shiftRight]
  rfl

theorem roundedMantissa_bounds :
    em.mantissa ≤ em.roundedMantissa ∧ em.roundedMantissa ≤ em.mantissa + 1 := by
  obtain ⟨m, round, sticky⟩ := em
  cases round <;> cases sticky <;>
    simp only [ExtendedMantissa.roundedMantissa, ExtendedMantissa.accuracy,
      Accuracy.roundToNearestEven] <;> omega

theorem roundedMantissa_of_roundBit (h : em.roundBit = false) :
    em.roundedMantissa = em.mantissa := by
  obtain ⟨m, round, sticky⟩ := em
  cases h
  cases sticky <;> rfl

end Shift

/-- An exact mantissa is shifted to its target exponent. -/
theorem shiftToTargetExponent_eq {m : Nat} {e : Int} {k : Nat}
    (h : (max (m.log2 + e - 23) (-149) - e).toNat = k) :
    shiftToTargetExponent .binary32 m e .exact =
      (ExtendedMantissa.mk m false false >>> k, e + k) := by
  unfold shiftToTargetExponent shiftToExponent
  simp only [targetExponent_eq, h]
  rfl

theorem log2_le {m : Nat} (h : m < 2 ^ 24) : m.log2 ≤ 23 := by
  by_cases hzero : m = 0
  · simp [hzero]
  · have hlt := (Nat.log2_lt hzero).2 h
    omega

/-- A canonical mantissa stays where it is. -/
theorem shiftToTargetExponent_of_lt {m : Nat} {e : Int} (hm : m < 2 ^ 24) (he : -149 ≤ e) :
    shiftToTargetExponent .binary32 m e .exact = (⟨m, false, false⟩, e) := by
  have hlog := log2_le hm
  have hk : (max (m.log2 + e - 23) (-149) - e).toNat = 0 := by omega
  rw [shiftToTargetExponent_eq hk]
  exact Prod.ext rfl (Int.add_zero e)

/-- A mantissa that rounding carried to a 25th digit is halved. -/
theorem shiftToTargetExponent_carry {e : Int} (he : -149 ≤ e) :
    shiftToTargetExponent .binary32 (2 ^ 24) e .exact = (⟨2 ^ 23, false, false⟩, e + 1) := by
  have hlog : (2 ^ 24).log2 = 24 := Nat.log2_two_pow
  have hk : (max ((2 ^ 24).log2 + e - 23) (-149) - e).toNat = 1 := by omega
  rw [shiftToTargetExponent_eq hk]
  rfl

/-! ## Rounding -/

/-- The first shift, rounding and, if a digit was carried, the second shift. -/
theorem roundWithAccuracy_eq (s : Sign) {m : Nat} {e : Int} {k r : Nat}
    (hk : (max (m.log2 + e - 23) (-149) - e).toNat = k) (he : -149 ≤ e + k)
    (hr : (ExtendedMantissa.mk m false false >>> k).roundedMantissa = r) (hpos : 0 < r)
    (hle : r ≤ 2 ^ 24) :
    roundWithAccuracy .binary32 s m e .exact =
      if r < 2 ^ 24 then .finite s r (e + k) hpos
      else .finite s (2 ^ 23) (e + k + 1) (by decide) := by
  unfold roundWithAccuracy
  simp only [shiftToTargetExponent_eq hk, hr]
  by_cases hlt : r < 2 ^ 24
  · simp only [shiftToTargetExponent_of_lt hlt he, hlt, if_true]
    exact dif_neg (Nat.ne_of_gt hpos)
  · obtain rfl : r = 2 ^ 24 := by omega
    simp only [shiftToTargetExponent_carry he]
    rfl

theorem log2_mul_two_pow {m : Nat} (h : 0 < m) (j : Nat) : (m * 2 ^ j).log2 = m.log2 + j := by
  have hlow := Nat.log2_self_le (Nat.ne_of_gt h)
  have hhigh := @Nat.lt_log2_self m
  have hpow := Nat.two_pow_pos j
  refine (Nat.log2_eq_iff (Nat.ne_of_gt (Nat.mul_pos h hpow))).2 ⟨?_, ?_⟩
  · rw [Nat.pow_add]
    exact Nat.mul_le_mul_right _ hlow
  · rw [Nat.add_right_comm, Nat.pow_add]
    exact Nat.mul_lt_mul_of_pos_right hhigh hpow

/-- The first 24 digits. -/
theorem div_bounds {m k : Nat} (hlog : m.log2 = 23 + k) :
    2 ^ 23 ≤ m / 2 ^ k ∧ m / 2 ^ k < 2 ^ 24 := by
  have hne : m ≠ 0 := by
    rintro rfl
    simp at hlog
    omega
  have hpow := Nat.two_pow_pos k
  obtain ⟨hlow, hhigh⟩ := (Nat.log2_eq_iff hne).1 hlog
  constructor
  · rw [Nat.le_div_iff_mul_le hpow, ← Nat.pow_add]
    exact hlow
  · have hdigits : 23 + k + 1 = 24 + k := by omega
    rw [hdigits] at hhigh
    rw [Nat.div_lt_iff_lt_mul hpow, ← Nat.pow_add]
    exact hhigh

/-- Before anything is dropped, the digits are moved up to the target exponent. -/
theorem round_eq (s : Sign) (m : Nat) (e : Int) {j : Nat}
    (hj : (e - max (m.log2 + e - 23) (-149)).toNat = j) :
    UnpackedFloat.round .binary32 s m e =
      roundWithAccuracy .binary32 s (m * 2 ^ j) (e - j) .exact := by
  unfold UnpackedFloat.round decreaseExponent
  simp only [targetExponent_eq, hj, Nat.shiftLeft_eq]

/-- What has no more than 24 digits is kept. -/
theorem round_of_short (s : Sign) {m : Nat} {e : Int} (hm : 0 < m) (hlog : m.log2 ≤ 23)
    (he : -149 ≤ e) :
    ∃ m' h, UnpackedFloat.round .binary32 s m e = .finite s m' (max (m.log2 + e - 23) (-149)) h ∧
      Canonical m' (max (m.log2 + e - 23) (-149)) := by
  obtain ⟨j, hj⟩ : ∃ j, (e - max (m.log2 + e - 23) (-149)).toNat = j := ⟨_, rfl⟩
  have hlogj := log2_mul_two_pow hm j
  have hpos : 0 < m * 2 ^ j := Nat.mul_pos hm (Nat.two_pow_pos j)
  have hk : (max ((m * 2 ^ j).log2 + (e - j) - 23) (-149) - (e - j)).toNat = 0 := by omega
  have hlt : m * 2 ^ j < 2 ^ 24 := (Nat.log2_lt (Nat.ne_of_gt hpos)).1 (by omega)
  have htarget : e - j = max (m.log2 + e - 23) (-149) := by omega
  have hfull : 2 ^ 23 ≤ m * 2 ^ j ∨ max (m.log2 + e - 23) (-149) = -149 := by
    by_cases hleast : max ((m.log2 : Int) + e - 23) (-149) = -149
    · exact .inr hleast
    · exact .inl ((Nat.le_log2 (Nat.ne_of_gt hpos)).1 (by omega))
  have hexact : (ExtendedMantissa.mk (m * 2 ^ j) false false >>> 0).roundedMantissa =
      m * 2 ^ j := rfl
  refine ⟨m * 2 ^ j, hpos, ?_, hlt, by omega, hfull⟩
  rw [round_eq s m e hj, roundWithAccuracy_eq s hk (by omega) hexact hpos (Nat.le_of_lt hlt),
    if_pos hlt]
  congr 1
  omega

section Long

variable {m k : Nat} {e : Int} (hlog : m.log2 = 23 + k) (he : -149 ≤ e + k)
include hlog he

theorem round_of_long_eq (s : Sign) {r : Nat}
    (hr : (ExtendedMantissa.mk m false false >>> k).roundedMantissa = r) (hpos : 0 < r)
    (hle : r ≤ 2 ^ 24) :
    UnpackedFloat.round .binary32 s m e =
      if r < 2 ^ 24 then .finite s r (e + k) hpos
      else .finite s (2 ^ 23) (e + k + 1) (by decide) := by
  have hj : (e - max (m.log2 + e - 23) (-149)).toNat = 0 := by omega
  have hk : (max (m.log2 + e - 23) (-149) - e).toNat = k := by omega
  have hround : UnpackedFloat.round .binary32 s m e = roundWithAccuracy .binary32 s m e .exact := by
    simpa using round_eq s m e hj
  rw [hround, roundWithAccuracy_eq s hk he hr hpos hle]

/-- Of what has more, the digits behind the first 24 are dropped and the last one may go up. -/
theorem round_of_long (s : Sign) :
    ∃ m' e' h, UnpackedFloat.round .binary32 s m e = .finite s m' e' h ∧ Canonical m' e' ∧
      (e' = e + k ∨ e' = e + k + 1) := by
  obtain ⟨hlow, hhigh⟩ := div_bounds hlog
  obtain ⟨hge, hle⟩ := roundedMantissa_bounds (ExtendedMantissa.mk m false false >>> k)
  rw [mantissa_shiftRight] at hge hle
  generalize hr : (ExtendedMantissa.mk m false false >>> k).roundedMantissa = r at hge hle
  have hge' : 2 ^ 23 ≤ r := Nat.le_trans hlow hge
  have hpos : 0 < r := Nat.lt_of_lt_of_le (by decide) hge'
  have hle' : r ≤ 2 ^ 24 := Nat.le_trans hle hhigh
  rw [round_of_long_eq hlog he s hr hpos hle']
  by_cases hlt : r < 2 ^ 24
  · rw [if_pos hlt]
    exact ⟨r, e + k, hpos, rfl, .of_full hge' hlt he, .inl rfl⟩
  · rw [if_neg hlt]
    exact ⟨2 ^ 23, e + k + 1, by decide, rfl, .of_full (by decide) (by decide) (by omega), .inr rfl⟩

/-- Where the first dropped digit is zero, the rest makes no difference. -/
theorem round_of_long_low (s : Sign) (hk : 0 < k) (hdigit : m / 2 ^ (k - 1) % 2 = 0) :
    ∃ h, UnpackedFloat.round .binary32 s m e = .finite s (m / 2 ^ k) (e + k) h := by
  obtain ⟨k, rfl⟩ := Nat.exists_eq_add_one.2 hk
  obtain ⟨hlow, hhigh⟩ := div_bounds hlog
  have hbit : (ExtendedMantissa.mk m false false >>> (k + 1)).roundBit = false := by
    rw [roundBit_shiftRight]
    simpa using hdigit
  have hr : (ExtendedMantissa.mk m false false >>> (k + 1)).roundedMantissa = m / 2 ^ (k + 1) := by
    rw [roundedMantissa_of_roundBit _ hbit, mantissa_shiftRight]
  have hpos : 0 < m / 2 ^ (k + 1) := Nat.lt_of_lt_of_le (by decide) hlow
  refine ⟨hpos, ?_⟩
  rw [round_of_long_eq hlog he s hr hpos (Nat.le_of_lt hhigh), if_pos hhigh]

end Long

/-- What rounding comes to: a canonical value whose exponent the size decides, up to the carry of
a digit. -/
theorem round_spec (s : Sign) {m : Nat} {e : Int} (hm : 0 < m) (he : -149 ≤ e) :
    ∃ m' e' h, UnpackedFloat.round .binary32 s m e = .finite s m' e' h ∧ Canonical m' e' ∧
      e' ≤ max (m.log2 + e - 23) (-149) + 1 := by
  by_cases hlog : m.log2 ≤ 23
  · obtain ⟨m', h, hround, hc⟩ := round_of_short s hm hlog he
    exact ⟨m', _, h, hround, hc, by omega⟩
  · obtain ⟨k, hk⟩ : ∃ k, m.log2 = 23 + k := ⟨m.log2 - 23, by omega⟩
    obtain ⟨m', e', h, hround, hc, he'⟩ := round_of_long hk (by omega : -149 ≤ e + k) s
    exact ⟨m', e', h, hround, hc, by omega⟩

/-! ## Storage -/

/-- The first digit of a full mantissa is not stored. -/
theorem toNat_implicit (mantissa : BitVec 23) :
    (1#1 ++ mantissa).toNat = 2 ^ 23 + mantissa.toNat := by
  rw [BitVec.toNat_append, ← Nat.shiftLeft_add_eq_or_of_lt mantissa.isLt]
  rfl

/-- The first digit is there when the exponent is not the least. -/
theorem unpack_full (s : Sign) {exponent : BitVec 8} (mantissa : BitVec 23)
    (hzero : exponent.toNat ≠ 0) (hinfinite : exponent.toNat ≠ 255) :
    ∃ h, unpack .binary32 (packComponents .binary32 s exponent mantissa) =
      .finite s (2 ^ 23 + mantissa.toNat) (exponent.toNat - 150) h := by
  have hzero' : exponent ≠ 0#8 := fun h => hzero (congrArg BitVec.toNat h)
  have hinfinite' : exponent ≠ -1#8 := fun h => hinfinite (congrArg BitVec.toNat h)
  refine ⟨by omega, ?_⟩
  unfold unpack
  simp only [unpackMantissa_packComponents, unpackExponent_packComponents,
    unpackSign_packComponents, Sign.ofBitVec_toBitVec, hzero', hinfinite', if_false,
    toNat_implicit]
  rfl

theorem unpack_short (s : Sign) {mantissa : BitVec 23} (h : 0 < mantissa.toNat) :
    unpack .binary32 (packComponents .binary32 s 0#8 mantissa) =
      .finite s mantissa.toNat (-149) h := by
  have hzero : mantissa ≠ 0#23 := fun hzero => by
    rw [hzero] at h
    exact absurd h (by decide)
  have hinfinite : (0#8 : BitVec 8) ≠ -1#8 := by decide
  unfold unpack
  simp only [unpackMantissa_packComponents, unpackExponent_packComponents,
    unpackSign_packComponents, Sign.ofBitVec_toBitVec, hzero, hinfinite, if_false, if_true]
  rfl

/-- Values are canonical. -/
theorem canonical_of_unpack {b : BitVec 32} {s : Sign} {m : Nat} {e : Int} {h : 0 < m}
    (hb : unpack .binary32 b = .finite s m e h) : Canonical m e ∧ e ≤ 104 := by
  have hmantissa : (@unpackMantissa .binary32 b).toNat < 2 ^ 23 := BitVec.isLt _
  have hexponent : (@unpackExponent .binary32 b).toNat < 256 := BitVec.isLt _
  have hbias : Format.binary32.exponentBias = 127 := by decide
  unfold unpack at hb
  simp only [hbias] at hb
  split at hb
  · split at hb <;> cases hb
  case isFalse hinfinite =>
    have hne : (@unpackExponent .binary32 b).toNat ≠ 255 := fun htoNat =>
      hinfinite (BitVec.eq_of_toNat_eq htoNat)
    split at hb
    case isTrue hzero =>
      have hexp : (@unpackExponent .binary32 b).toNat = 0 := by
        rw [hzero]
        rfl
      split at hb
      · cases hb
      · cases hb
        refine ⟨⟨?_, ?_, ?_⟩, ?_⟩ <;> omega
    case isFalse hzero =>
      have hexp : (@unpackExponent .binary32 b).toNat ≠ 0 := fun htoNat =>
        hzero (BitVec.eq_of_toNat_eq htoNat)
      cases hb
      rw [toNat_implicit]
      refine ⟨⟨?_, ?_, ?_⟩, ?_⟩ <;> omega

theorem unpack_packedInfinity (s : Sign) :
    unpack .binary32 (packedInfinity .binary32 s) = .infinity s := by
  cases s <;> rfl

/-- What is too large becomes infinite. -/
theorem unpack_pack_of_large (s : Sign) {m : Nat} {e : Int} (h : 0 < m) (he : 104 < e) :
    unpack .binary32 (pack .binary32 (.finite s m e h)) = .infinity s := by
  have hbias : Format.binary32.exponentBias = 127 := by decide
  have hlarge : 2 ^ 8 ≤ (e + (127 : Nat) + (23 : Nat)).toNat + 1 := by omega
  have hpack : pack .binary32 (.finite s m e h) = packedInfinity .binary32 s := by
    simp only [pack, hbias]
    exact if_pos hlarge
  rw [hpack, unpack_packedInfinity]

/-- Canonical values are stored without loss. -/
theorem unpack_pack (s : Sign) {m : Nat} {e : Int} (h : 0 < m) (hc : Canonical m e)
    (he : e ≤ 104) :
    unpack .binary32 (pack .binary32 (.finite s m e h)) = .finite s m e h := by
  have hbias : Format.binary32.exponentBias = 127 := by decide
  obtain ⟨hlt, hleast, hfull⟩ := hc
  have hsmall : ¬2 ^ 8 ≤ (e + (127 : Nat) + (23 : Nat)).toNat + 1 := by omega
  by_cases hm : 2 ^ 23 ≤ m
  · have hlog : m.log2 = 23 := (Nat.log2_eq_iff (Nat.ne_of_gt h)).2 ⟨hm, hlt⟩
    have hpack : pack .binary32 (.finite s m e h) =
        packComponents .binary32 s (BitVec.ofNat 8 (e + (127 : Nat) + (23 : Nat)).toNat)
          (BitVec.ofNat 23 m) := by
      simp only [pack, hbias]
      rw [if_neg hsmall]
      exact if_pos (by rw [hlog]; rfl)
    have hexponent : (BitVec.ofNat 8 (e + (127 : Nat) + (23 : Nat)).toNat).toNat = e + 150 := by
      rw [BitVec.toNat_ofNat, Nat.mod_eq_of_lt (by omega)]
      omega
    have hmantissa : 2 ^ 23 + (BitVec.ofNat 23 m).toNat = m := by
      rw [BitVec.toNat_ofNat]
      omega
    obtain ⟨hpos, hunpack⟩ := unpack_full s (BitVec.ofNat 23 m)
      (by omega : (BitVec.ofNat 8 (e + (127 : Nat) + (23 : Nat)).toNat).toNat ≠ 0) (by omega)
    rw [hpack, hunpack]
    congr 1
    omega
  · obtain rfl : e = -149 := hfull.resolve_left hm
    have hlog : m.log2 + 1 ≠ Format.binary32.mantissaBits := by
      have hlt := (Nat.log2_lt (Nat.ne_of_gt h)).2 (Nat.lt_of_not_le hm)
      exact Nat.ne_of_lt (Nat.succ_lt_succ hlt)
    have hpack : pack .binary32 (.finite s m (-149) h) =
        packComponents .binary32 s 0#8 (BitVec.ofNat 23 m) := by
      simp only [pack, hbias]
      rw [if_neg hsmall]
      exact if_neg hlog
    have hmantissa : (BitVec.ofNat 23 m).toNat = m := by
      rw [BitVec.toNat_ofNat]
      omega
    rw [hpack, unpack_short s (by rwa [hmantissa])]
    congr 1

end Single

end Caption
