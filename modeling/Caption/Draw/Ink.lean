import Caption.Color

/-!
# Ink

What is drawn with and what it leaves on a picture. While a picture is drawn its pixels are
premultiplied: each channel is already scaled by alpha, in eight bits.

## Main definitions

* `Premultiplied`: a pixel of a picture
* `Ink`: a colour to draw with
* `Ink.blend`: the pixel after drawing with a coverage
* `Premultiplied.toRgba`: the straight colour of a pixel
-/
namespace Caption

/-- Red in the low byte, alpha in the high one. -/
structure Premultiplied where
  word : UInt32
deriving DecidableEq, Repr, Inhabited

namespace Premultiplied

def ofBytes (red green blue alpha : UInt32) : Premultiplied :=
  ⟨red ||| (green <<< 8) ||| (blue <<< 16) ||| (alpha <<< 24)⟩

def red (p : Premultiplied) : UInt32 := p.word &&& 0xFF

def green (p : Premultiplied) : UInt32 := (p.word >>> 8) &&& 0xFF

def blue (p : Premultiplied) : UInt32 := (p.word >>> 16) &&& 0xFF

def alpha (p : Premultiplied) : UInt32 := p.word >>> 24

def clear : Premultiplied := ⟨0⟩

/-- A part of 255 as a byte, half up. -/
def byteOfPart (x : Float32) : UInt32 := (x * 255 + 0.5).toUInt8.toUInt32

/-- A straight colour whose alpha is scaled by `opacity`. -/
def ofRgba (c : Rgba) (opacity : Float32) : Premultiplied :=
  let part (b : UInt8) : Float32 := Float32.ofNat b.toNat / 255
  let alpha := part c.alpha * opacity
  .ofBytes (byteOfPart (part c.red * alpha)) (byteOfPart (part c.green * alpha))
    (byteOfPart (part c.blue * alpha)) (byteOfPart alpha)

/-- A channel divided by alpha, half up. -/
def unscale (channel : UInt32) (alpha : Float) : UInt8 :=
  (Float.ofNat channel.toNat / alpha + 0.5).toUInt8

def toRgba (p : Premultiplied) : Rgba :=
  if p.alpha = 255 then ⟨p.red.toUInt8, p.green.toUInt8, p.blue.toUInt8, 255⟩
  else
    let a := Float.ofNat p.alpha.toNat / 255
    ⟨unscale p.red a, unscale p.green a, unscale p.blue a, p.alpha.toUInt8⟩

/-- `v / 255`, rounded up in steps of a byte. -/
def div255 (v : UInt32) : UInt32 := (v + 255) >>> 8

/-- A pixel with every channel combined with the same channel of another. -/
def zip (f : UInt32 → UInt32 → UInt32) (p q : Premultiplied) : Premultiplied :=
  .ofBytes (f p.red q.red) (f p.green q.green) (f p.blue q.blue) (f p.alpha q.alpha)

/-- A pixel weakened to a coverage. -/
def scale (p : Premultiplied) (coverage : UInt32) : Premultiplied :=
  zip (fun c _ => div255 (c * coverage)) p p

/-- A pixel laid over another. -/
def onto (p below : Premultiplied) : Premultiplied :=
  let rest := 255 - p.alpha
  zip (fun c d => c + div255 (d * rest)) p below

/-- A mixture in which the first pixel has the weight of a coverage. -/
def mix (p below : Premultiplied) (coverage : UInt32) : Premultiplied :=
  zip (fun c d => div255 (d * (255 - coverage) + c * coverage)) p below

end Premultiplied

structure Ink where
  color : Premultiplied
  /-- Whether it hides what is below. -/
  covers : Bool
deriving DecidableEq, Repr

namespace Ink

def ofColor (c : NativeColor) : Ink :=
  ⟨.ofRgba c.toRgba 1, c.alpha == 255⟩

/-- Thinned ink, which never hides what is below. -/
def thinned (c : NativeColor) (opacity : Float32) : Ink :=
  ⟨.ofRgba c.toRgba opacity, false⟩

/-- A pixel after drawing on it. Ink that covers replaces it, but under a mask all ink is laid
over. -/
def blend (ink : Ink) (masked : Bool) (coverage : UInt8) (below : Premultiplied) :
    Premultiplied :=
  if coverage = 0 then below
  else if ink.covers && !masked then
    if coverage = 255 then ink.color else ink.color.mix below coverage.toUInt32
  else if coverage = 255 then ink.color.onto below
  else (ink.color.scale coverage.toUInt32).onto below

end Ink

end Caption
