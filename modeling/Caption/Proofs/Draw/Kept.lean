import Mathlib.Algebra.Group.Nat.Defs
import Caption.Draw.Ink

/-!
# What a picture keeps of a colour

A picture stores its colours scaled by alpha, in eight bits a channel, and makes them straight when
it is finished. On the way the channels of a translucent colour lose digits, the more the less alpha
it has, and without any alpha all of them. Alpha is never lost, and neither is any channel of an
opaque colour.

## Main definitions

* `Rgba.kept`: the colour that comes out of a picture

## Main statements

* `Rgba.alpha_kept`: alpha is kept
* `Rgba.kept_of_opaque`: an opaque colour is kept as it is
* `Rgba.kept_of_clear`: a clear colour leaves nothing
-/
namespace Caption

/-- The straight colour that comes out of a picture. -/
def Rgba.kept (c : Rgba) : Rgba := (Premultiplied.ofRgba c 1).toRgba

namespace Premultiplied

/-! ## Words of four bytes -/

/-- Bits that do not overlap add up. -/
theorem or_shiftLeft {low k : Nat} (h : low < 2 ^ k) (high : Nat) :
    low ||| high <<< k = low + high * 2 ^ k := by
  rw [Nat.or_comm, ← Nat.shiftLeft_add_eq_or_of_lt h, Nat.shiftLeft_eq, Nat.add_comm]

theorem shiftLeft_mod (b : UInt8) {k : Nat} (hk : k ≤ 24) :
    b.toNat <<< k % 2 ^ 32 = b.toNat <<< k := by
  have hb := b.toNat_lt
  have hpow : 2 ^ k ≤ 2 ^ 24 := Nat.pow_le_pow_right (by decide) hk
  rw [Nat.shiftLeft_eq, Nat.mod_eq_of_lt]
  calc b.toNat * 2 ^ k ≤ 255 * 2 ^ 24 := Nat.mul_le_mul (by omega) hpow
    _ < 2 ^ 32 := by decide

section Channels

variable (r g b a : UInt8)

theorem toNat_word_ofBytes :
    (ofBytes r.toUInt32 g.toUInt32 b.toUInt32 a.toUInt32).word.toNat =
      r.toNat + g.toNat * 2 ^ 8 + b.toNat * 2 ^ 16 + a.toNat * 2 ^ 24 := by
  have hr := r.toNat_lt
  have hg := g.toNat_lt
  have hb := b.toNat_lt
  calc (ofBytes r.toUInt32 g.toUInt32 b.toUInt32 a.toUInt32).word.toNat
      = r.toNat ||| g.toNat <<< 8 % 2 ^ 32 ||| b.toNat <<< 16 % 2 ^ 32 |||
          a.toNat <<< 24 % 2 ^ 32 := by
        simp only [ofBytes, UInt32.toNat_or, UInt32.toNat_shiftLeft, UInt8.toNat_toUInt32]
        rfl
    _ = _ := by
        rw [shiftLeft_mod g (by decide), shiftLeft_mod b (by decide), shiftLeft_mod a (by decide),
          or_shiftLeft (by omega) g.toNat, or_shiftLeft (by omega) b.toNat,
          or_shiftLeft (by omega) a.toNat]

/-- A byte of a word, counted from the low end. -/
theorem toNat_byte (word shift : UInt32) :
    ((word >>> shift) &&& 0xFF).toNat = word.toNat / 2 ^ (shift.toNat % 32) % 2 ^ 8 := by
  have hmask : (0xFF : UInt32).toNat = 2 ^ 8 - 1 := rfl
  rw [UInt32.toNat_and, hmask, Nat.and_two_pow_sub_one_eq_mod, UInt32.toNat_shiftRight,
    Nat.shiftRight_eq_div_pow]

/-- Every channel is found again where it was put. -/
theorem channels_ofBytes :
    let p := ofBytes r.toUInt32 g.toUInt32 b.toUInt32 a.toUInt32
    p.red = r.toUInt32 ∧ p.green = g.toUInt32 ∧ p.blue = b.toUInt32 ∧ p.alpha = a.toUInt32 := by
  intro p
  have hword : p.word.toNat = _ := toNat_word_ofBytes r g b a
  have hr := r.toNat_lt
  have hg := g.toNat_lt
  have hb := b.toNat_lt
  refine ⟨?_, ?_, ?_, ?_⟩
  · have hfirst : p.red = (p.word >>> 0) &&& 0xFF := by simp [red]
    rw [hfirst, ← UInt32.toNat_inj, toNat_byte, hword, UInt8.toNat_toUInt32]
    simp only [UInt32.reduceToNat, Nat.reduceMod, Nat.reducePow]
    omega
  · rw [green, ← UInt32.toNat_inj, toNat_byte, hword, UInt8.toNat_toUInt32]
    simp only [UInt32.reduceToNat, Nat.reduceMod, Nat.reducePow]
    omega
  · rw [blue, ← UInt32.toNat_inj, toNat_byte, hword, UInt8.toNat_toUInt32]
    simp only [UInt32.reduceToNat, Nat.reduceMod, Nat.reducePow]
    omega
  · rw [alpha, ← UInt32.toNat_inj, UInt32.toNat_shiftRight, hword, Nat.shiftRight_eq_div_pow,
      UInt8.toNat_toUInt32]
    simp only [UInt32.reduceToNat, Nat.reduceMod, Nat.reducePow]
    omega

end Channels

/-! ## Bytes as parts of one -/

/-- A byte comes back from its part of 255. -/
theorem byteOfPart_toNat_div (b : UInt8) :
    byteOfPart (Float32.ofNat b.toNat / 255 * 1) = b.toUInt32 := by
  have hbytes : ∀ n < 256, byteOfPart (Float32.ofNat n / 255 * 1) = n.toUInt32 := by decide +kernel
  rw [hbytes b.toNat b.toNat_lt]
  simp

theorem byteOfPart_mul_zero (b : UInt8) :
    byteOfPart (Float32.ofNat b.toNat / 255 * 0) = 0 := by
  have hbytes : ∀ n < 256, byteOfPart (Float32.ofNat n / 255 * 0) = 0 := by decide +kernel
  exact hbytes b.toNat b.toNat_lt

theorem opaque_part : Float32.ofNat (255 : UInt8).toNat / 255 * 1 = 1 := by decide +kernel

theorem clear_part : Float32.ofNat (0 : UInt8).toNat / 255 * 1 = 0 := by decide +kernel

end Premultiplied

namespace Rgba

open Premultiplied

variable (c : Rgba)

/-- Alpha is kept. -/
theorem alpha_kept : c.kept.alpha = c.alpha := by
  have halpha : (ofRgba c 1).alpha = c.alpha.toUInt32 := by
    rw [← byteOfPart_toNat_div c.alpha]
    exact (channels_ofBytes _ _ _ _).2.2.2
  unfold kept toRgba
  rw [halpha]
  split
  next h => exact (UInt8.toUInt32_inj.1 h).symm
  next => simp

/-- An opaque colour is kept as it is. -/
theorem kept_of_opaque (h : c.alpha = 255) : c.kept = c := by
  have hword : ofRgba c 1 =
      .ofBytes c.red.toUInt32 c.green.toUInt32 c.blue.toUInt32 (255 : UInt8).toUInt32 := by
    rw [← byteOfPart_toNat_div c.red, ← byteOfPart_toNat_div c.green,
      ← byteOfPart_toNat_div c.blue, ← byteOfPart_toNat_div 255]
    simp only [ofRgba, h, opaque_part]
  obtain ⟨hred, hgreen, hblue, halpha⟩ := channels_ofBytes c.red c.green c.blue 255
  rw [← hword] at hred hgreen hblue halpha
  have hfull : (ofRgba c 1).alpha = 255 := halpha
  rw [kept, toRgba, if_pos hfull, hred, hgreen, hblue]
  simp only [UInt8.toUInt8_toUInt32, ← h]

/-- A colour without any alpha leaves nothing. -/
theorem kept_of_clear (h : c.alpha = 0) : c.kept = ⟨0, 0, 0, 0⟩ := by
  have hword : ofRgba c 1 = .clear := by
    have hbyte : byteOfPart 0 = 0 := by decide +kernel
    simp only [ofRgba, h, clear_part, byteOfPart_mul_zero, hbyte]
    rfl
  have hclear : Premultiplied.clear.toRgba = ⟨0, 0, 0, 0⟩ := by decide +kernel
  rw [kept, hword, hclear]

end Rgba

end Caption
