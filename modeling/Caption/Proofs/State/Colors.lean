import Mathlib.Algebra.Order.Round
import Mathlib.Data.Rat.Floor
import Caption.Proofs.Draw.Kept
import Caption.State

/-!
# Colours on their way to the drawing side

Settings have red in the high byte of a colour, the drawing side has it in the low one. Between them
the outer bytes change places once, and an opacity in percent becomes the byte on top, which no
opacity is high enough to spill out of. So the channels that are drawn with are those that were set,
and the colour can be read back.

## Main definitions

* `Rgba.ofRgb`: the channels of a `0xRRGGBB` word, under some alpha
* `byteOfPercent`: a percentage of 255, rounded
* `NativeColor.Carries`: a colour has the channels of a `0xRRGGBB` word, which comes back from it

## Main statements

* `toNat_swapRedBlue`: the outer bytes change places
* `alphaOfOpacity_eq`: the byte of an opacity is exact
* `State.colors_carried`: fill, outline and background carry what was set
-/
namespace Caption

/-- The channels of a `0xRRGGBB` word, whatever stands above its 24 bits. -/
def Rgba.ofRgb (rgb : UInt32) (alpha : UInt8) : Rgba :=
  ⟨.ofNat (rgb.toNat / 2 ^ 16), .ofNat (rgb.toNat / 2 ^ 8), .ofNat rgb.toNat, alpha⟩

/-- That much of 255, a half rounded up, and the remainder of that by 256. -/
def byteOfPercent (percent : UInt32) : UInt8 :=
  .ofNat (round (percent.toNat * 255 / 100 : ℚ)).toNat

/-! ## Bytes that change places -/

theorem and_mul_two_pow (n m k : Nat) : n &&& m * 2 ^ k = (n / 2 ^ k &&& m) * 2 ^ k := by
  refine Nat.eq_of_testBit_eq fun i => ?_
  rw [← Nat.shiftRight_eq_div_pow, ← Nat.shiftLeft_eq, ← Nat.shiftLeft_eq]
  simp only [Nat.testBit_and, Nat.testBit_shiftLeft, Nat.testBit_shiftRight]
  by_cases h : k ≤ i <;> simp [h]

/-- A byte in its place, with everything around it masked out. -/
theorem and_byte (n k : Nat) : n &&& (2 ^ 8 - 1) * 2 ^ k = n / 2 ^ k % 2 ^ 8 * 2 ^ k := by
  rw [and_mul_two_pow, Nat.and_two_pow_sub_one_eq_mod]

theorem or_bytes {low middle : Nat} (hlow : low < 2 ^ 8) (hmiddle : middle < 2 ^ 8) (high : Nat) :
    high * 2 ^ 16 ||| middle * 2 ^ 8 ||| low = high * 2 ^ 16 + middle * 2 ^ 8 + low := by
  have hupper : high * 2 ^ 16 ||| middle * 2 ^ 8 = (middle + high * 2 ^ 8) <<< 8 := by
    have hsum : middle * 2 ^ 8 ||| high <<< 16 = middle * 2 ^ 8 + high * 2 ^ 16 :=
      Premultiplied.or_shiftLeft (by omega) high
    rw [Nat.or_comm, ← Nat.shiftLeft_eq high, hsum, Nat.shiftLeft_eq]
    omega
  rw [hupper, Nat.or_comm, Premultiplied.or_shiftLeft hlow]
  omega

theorem sum_bytes (n : Nat) :
    n / 2 ^ 16 % 2 ^ 8 * 2 ^ 16 + n / 2 ^ 8 % 2 ^ 8 * 2 ^ 8 + n % 2 ^ 8 = n % 2 ^ 24 := by
  omega

theorem bytes_of_sum {low middle high n : Nat} (hlow : low < 2 ^ 8) (hmiddle : middle < 2 ^ 8)
    (hhigh : high < 2 ^ 8) (h : n = high * 2 ^ 16 + middle * 2 ^ 8 + low) :
    n % 2 ^ 8 = low ∧ n / 2 ^ 8 % 2 ^ 8 = middle ∧ n / 2 ^ 16 % 2 ^ 8 = high := by
  omega

theorem toNat_swapRedBlue (c : UInt32) :
    (swapRedBlue c).toNat =
      c.toNat % 2 ^ 8 * 2 ^ 16 + c.toNat / 2 ^ 8 % 2 ^ 8 * 2 ^ 8 + c.toNat / 2 ^ 16 % 2 ^ 8 := by
  have hlow : (c &&& 0xFF).toNat = c.toNat % 2 ^ 8 := by
    simpa using and_byte c.toNat 0
  have hmiddle : (c &&& 0xFF00).toNat = c.toNat / 2 ^ 8 % 2 ^ 8 * 2 ^ 8 := and_byte c.toNat 8
  have hhigh : (c &&& 0xFF0000).toNat = c.toNat / 2 ^ 16 % 2 ^ 8 * 2 ^ 16 := and_byte c.toNat 16
  have hraised : ((c &&& 0xFF) <<< 16).toNat = c.toNat % 2 ^ 8 * 2 ^ 16 := by
    rw [UInt32.toNat_shiftLeft, hlow, Nat.shiftLeft_eq]
    have : c.toNat % 2 ^ 8 < 2 ^ 8 := Nat.mod_lt _ (by decide)
    simp only [UInt32.reduceToNat, Nat.reduceMod]
    omega
  have hlowered : ((c &&& 0xFF0000) >>> 16).toNat = c.toNat / 2 ^ 16 % 2 ^ 8 := by
    rw [UInt32.toNat_shiftRight, hhigh, Nat.shiftRight_eq_div_pow]
    exact Nat.mul_div_cancel _ (by decide)
  rw [swapRedBlue, UInt32.toNat_or, UInt32.toNat_or, hraised, hmiddle, hlowered]
  exact or_bytes (Nat.mod_lt _ (by decide)) (Nat.mod_lt _ (by decide)) _

/-- Done twice, only what stands above 24 bits is gone. -/
theorem toNat_swapRedBlue_swapRedBlue (c : UInt32) :
    (swapRedBlue (swapRedBlue c)).toNat = c.toNat % 2 ^ 24 := by
  have hlow : c.toNat % 2 ^ 8 < 2 ^ 8 := Nat.mod_lt _ (by decide)
  have hmiddle : c.toNat / 2 ^ 8 % 2 ^ 8 < 2 ^ 8 := Nat.mod_lt _ (by decide)
  have hhigh : c.toNat / 2 ^ 16 % 2 ^ 8 < 2 ^ 8 := Nat.mod_lt _ (by decide)
  obtain ⟨hred, hgreen, hblue⟩ := bytes_of_sum hhigh hmiddle hlow (toNat_swapRedBlue c)
  rw [toNat_swapRedBlue (swapRedBlue c), hred, hgreen, hblue, sum_bytes]

theorem swapRedBlue_swapRedBlue_eq_iff (c : UInt32) :
    swapRedBlue (swapRedBlue c) = c ↔ c.toNat < 2 ^ 24 := by
  rw [← UInt32.toNat_inj, toNat_swapRedBlue_swapRedBlue]
  omega

/-! ## Percentages -/

/-- No opacity is too high for the product and the sum. -/
theorem toNat_opacity_sum (opacity : UInt32) :
    (opacity.toUInt64 * 255).toNat = opacity.toNat * 255 ∧
      (opacity.toUInt64 * 255 + 50).toNat = opacity.toNat * 255 + 50 := by
  have hopacity := opacity.toNat_lt
  have hproduct : (opacity.toUInt64 * 255).toNat = opacity.toNat * 255 := by
    rw [UInt64.toNat_mul, UInt32.toNat_toUInt64]
    exact Nat.mod_eq_of_lt (by simp only [UInt64.reduceToNat]; omega)
  refine ⟨hproduct, ?_⟩
  rw [UInt64.toNat_add, hproduct]
  exact Nat.mod_eq_of_lt (by simp only [UInt64.reduceToNat]; omega)

/-- Half of the divisor is added to round a half up. -/
theorem round_div_hundred (n : Nat) : round (n / 100 : ℚ) = ((n + 50) / 100 : Nat) := by
  have hhalf : (n / 100 + 1 / 2 : ℚ) = ((n + 50 : Nat) : ℚ) / (100 : Nat) := by
    push_cast
    ring
  rw [round_eq, hhalf, Rat.floor_natCast_div_natCast]
  norm_cast

theorem alphaOfOpacity_eq (opacity : UInt32) : alphaOfOpacity opacity = byteOfPercent opacity := by
  have hround : round (opacity.toNat * 255 / 100 : ℚ) = _ :=
    mod_cast round_div_hundred (opacity.toNat * 255)
  rw [byteOfPercent, hround, ← UInt8.toNat_inj, alphaOfOpacity, UInt64.toNat_toUInt8,
    UInt64.toNat_div, (toNat_opacity_sum opacity).2]
  rfl

/-! ## Colours of the drawing side -/

namespace NativeColor

/-- A colour has the channels of a `0xRRGGBB` word under some alpha, and what is read back is the
word without what stands above its 24 bits. -/
structure Carries (c : NativeColor) (rgb : UInt32) (alpha : UInt8) : Prop where
  channels : c.toRgba = .ofRgb rgb alpha
  back : c.toRgb.toNat = rgb.toNat % 2 ^ 24

theorem toNat_mask (word : UInt32) : (word &&& 0xFFFFFF).toNat = word.toNat % 2 ^ 24 :=
  Nat.and_two_pow_sub_one_eq_mod _ 24

/-- The 24 bits of a colour lie below the byte of the opacity. -/
theorem toNat_word_ofBgr (bgr opacity : UInt32) :
    (ofBgr bgr opacity).word.toNat =
      bgr.toNat % 2 ^ 24 + (alphaOfOpacity opacity).toNat * 2 ^ 24 := by
  have hlow : bgr.toNat % 2 ^ 24 < 2 ^ 24 := Nat.mod_lt _ (by decide)
  rw [ofBgr, UInt32.toNat_or, UInt32.toNat_shiftLeft, toNat_mask, UInt8.toNat_toUInt32]
  exact (congrArg _ (Premultiplied.shiftLeft_mod _ (Nat.le_refl 24))).trans
    (Premultiplied.or_shiftLeft hlow _)

theorem toNat_channels (c : NativeColor) :
    c.red.toNat = c.word.toNat % 2 ^ 8 ∧ c.green.toNat = c.word.toNat / 2 ^ 8 % 2 ^ 8 ∧
      c.blue.toNat = c.word.toNat / 2 ^ 16 % 2 ^ 8 ∧ c.alpha.toNat = c.word.toNat / 2 ^ 24 := by
  have hword := c.word.toNat_lt
  refine ⟨?_, ?_, ?_, ?_⟩
  · have hfirst : (c.word &&& 0xFF).toNat = _ := Nat.and_two_pow_sub_one_eq_mod c.word.toNat 8
    rw [red, UInt32.toNat_toUInt8, hfirst, Nat.mod_mod]
  · rw [green, UInt32.toNat_toUInt8, Premultiplied.toNat_byte]
    simp
  · rw [blue, UInt32.toNat_toUInt8, Premultiplied.toNat_byte]
    simp
  · rw [alpha, UInt32.toNat_toUInt8, UInt32.toNat_shiftRight, Nat.shiftRight_eq_div_pow]
    simp only [UInt32.reduceToNat, Nat.reduceMod]
    omega

variable {c : NativeColor} {rgb : UInt32} {alpha : UInt8}

/-- A word and the colour that carries it have their outer bytes in each other's place. -/
theorem carries_of_word (hword : c.word.toNat % 2 ^ 24 = (swapRedBlue rgb).toNat)
    (halpha : c.alpha = alpha) : c.Carries rgb alpha where
  channels := by
    have hlow : rgb.toNat % 2 ^ 8 < 2 ^ 8 := Nat.mod_lt _ (by decide)
    have hmiddle : rgb.toNat / 2 ^ 8 % 2 ^ 8 < 2 ^ 8 := Nat.mod_lt _ (by decide)
    have hhigh : rgb.toNat / 2 ^ 16 % 2 ^ 8 < 2 ^ 8 := Nat.mod_lt _ (by decide)
    obtain ⟨hfirst, hsecond, hthird⟩ :=
      bytes_of_sum hhigh hmiddle hlow (hword.trans (toNat_swapRedBlue rgb))
    obtain ⟨hred, hgreen, hblue, -⟩ := c.toNat_channels
    rw [toRgba, Rgba.ofRgb, Rgba.mk.injEq]
    refine ⟨?_, ?_, ?_, halpha⟩
    · rw [← UInt8.toNat_inj, hred, UInt8.toNat_ofNat', ← hfirst]
      omega
    · rw [← UInt8.toNat_inj, hgreen, UInt8.toNat_ofNat', ← hsecond]
      omega
    · rw [← UInt8.toNat_inj, hblue, UInt8.toNat_ofNat', ← hthird]
      omega
  back := by
    have hmask : c.word &&& 0xFFFFFF = swapRedBlue rgb := by
      rw [← UInt32.toNat_inj, toNat_mask, hword]
    rw [toRgb, hmask, toNat_swapRedBlue_swapRedBlue]

theorem word_ofBgr_mod (rgb opacity : UInt32) :
    (ofBgr (swapRedBlue rgb) opacity).word.toNat % 2 ^ 24 = (swapRedBlue rgb).toNat := by
  have hword := toNat_word_ofBgr (swapRedBlue rgb) opacity
  have hrgb := toNat_swapRedBlue rgb
  omega

theorem carries_ofBgr (rgb opacity : UInt32) :
    (ofBgr (swapRedBlue rgb) opacity).Carries rgb (byteOfPercent opacity) := by
  have hword := toNat_word_ofBgr (swapRedBlue rgb) opacity
  obtain ⟨-, -, -, halpha⟩ := (ofBgr (swapRedBlue rgb) opacity).toNat_channels
  refine carries_of_word (word_ofBgr_mod rgb opacity) ?_
  rw [← alphaOfOpacity_eq, ← UInt8.toNat_inj, halpha]
  omega

example : (ofBgr (swapRedBlue 0x102030) 101).toRgba = ⟨0x10, 0x20, 0x30, 2⟩ := by decide

theorem carries_withoutAlpha (rgb opacity : UInt32) :
    (ofBgr (swapRedBlue rgb) opacity).withoutAlpha.Carries rgb 0 := by
  have hword : (ofBgr (swapRedBlue rgb) opacity).withoutAlpha.word.toNat = _ := toNat_mask _
  obtain ⟨-, -, -, halpha⟩ := (ofBgr (swapRedBlue rgb) opacity).withoutAlpha.toNat_channels
  refine carries_of_word ?_ ?_
  · rw [hword, Nat.mod_mod, word_ofBgr_mod]
  · rw [← UInt8.toNat_inj, halpha, UInt8.toNat_zero]
    omega

end NativeColor

namespace State

/-- After any settings, fill, outline and background have the channels that the settings give and
give them back; only a background behind no text and without a fixed size has no alpha. All of the
arithmetic is exact, and colours of 24 bits are those that two exchanges leave alone. -/
theorem colors_carried (st : State) (s : Settings) (read : TextReader) :
    let new := (st.apply s read).value
    new.fillColor.Carries s.color (byteOfPercent s.opacity) ∧
    new.strokeColor.Carries s.outlineColor (byteOfPercent s.outlineOpacity) ∧
    new.backgroundColor.Carries s.backColor
      (if new.text = [] ∧ s.extents = false then 0 else byteOfPercent s.backOpacity) ∧
    (∀ opacity : UInt32, (opacity.toUInt64 * 255).toNat = opacity.toNat * 255 ∧
      (opacity.toUInt64 * 255 + 50).toNat = opacity.toNat * 255 + 50) ∧
    ∀ c, swapRedBlue (swapRedBlue c) = c ↔ c.toNat < 2 ^ 24 := by
  intro new
  refine ⟨NativeColor.carries_ofBgr s.color s.opacity,
    NativeColor.carries_ofBgr s.outlineColor s.outlineOpacity, ?_, toNat_opacity_sum,
    swapRedBlue_swapRedBlue_eq_iff⟩
  have hnew : new.backgroundColor = if new.text = [] ∧ s.extents = false then
      (NativeColor.ofBgr (swapRedBlue s.backColor) s.backOpacity).withoutAlpha
      else .ofBgr (swapRedBlue s.backColor) s.backOpacity := by
    change ite (new.text = [] ∧ (!s.extents) = true) _ _ = _
    simp only [Bool.not_eq_true']
    rfl
  rw [hnew]
  split
  next => exact NativeColor.carries_withoutAlpha s.backColor s.backOpacity
  next => exact NativeColor.carries_ofBgr s.backColor s.backOpacity

end State

end Caption
