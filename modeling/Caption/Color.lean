/-!
# Colours

Settings give colours as `0xRRGGBB` words and opacities in percent. The drawing side keeps
them as one word with red in the lowest byte and alpha in the highest.

## Main definitions

* `swapRedBlue`: exchange of the outer bytes of a 24-bit colour
* `alphaOfOpacity`: percent to a byte, half up
* `NativeColor`: the word the drawing side stores
-/
namespace Caption

/-- Exchanges the outer bytes of a 24-bit colour and drops the bits above. -/
def swapRedBlue (c : UInt32) : UInt32 :=
  ((c &&& 0xFF : UInt32) <<< 16) ||| (c &&& 0xFF00 : UInt32) ||| ((c &&& 0xFF0000 : UInt32) >>> 16)

/-- `opacity * 255 / 100`, a half rounded up, and of that the low byte. -/
def alphaOfOpacity (opacity : UInt32) : UInt8 :=
  ((opacity.toUInt64 * 255 + 50) / 100).toUInt8

/-- Straight red, green, blue and alpha. -/
structure Rgba where
  red : UInt8
  green : UInt8
  blue : UInt8
  alpha : UInt8
deriving DecidableEq, Repr, Inhabited

structure NativeColor where
  word : UInt32
deriving DecidableEq, Repr, Inhabited

namespace NativeColor

def transparent : NativeColor := ⟨0⟩

/-- `bgr` has red in its low byte; bits above 24 are dropped. -/
def ofBgr (bgr opacity : UInt32) : NativeColor :=
  ⟨(bgr &&& 0xFFFFFF : UInt32) ||| ((alphaOfOpacity opacity).toUInt32 <<< 24)⟩

def withoutAlpha (c : NativeColor) : NativeColor := ⟨c.word &&& 0xFFFFFF⟩

def red (c : NativeColor) : UInt8 := (c.word &&& 0xFF).toUInt8

def green (c : NativeColor) : UInt8 := ((c.word >>> 8) &&& 0xFF).toUInt8

def blue (c : NativeColor) : UInt8 := ((c.word >>> 16) &&& 0xFF).toUInt8

def alpha (c : NativeColor) : UInt8 := (c.word >>> 24).toUInt8

def toRgba (c : NativeColor) : Rgba := ⟨c.red, c.green, c.blue, c.alpha⟩

/-- The `0xRRGGBB` word of a colour, without its alpha. -/
def toRgb (c : NativeColor) : UInt32 := swapRedBlue (c.word &&& 0xFFFFFF)

end NativeColor

end Caption
