import Caption.Draw.Contour

/-!
# Upright rectangles

The part of each pixel that an upright rectangle covers. Its edges are rounded to 256ths; a
pixel in a corner has the product of its two parts.

## Main definitions

* `Area.ofBounds`: a rectangle on the 256ths grid, cut to a picture
* `Area.coverage`: the part of a pixel that it covers
-/
namespace Caption

/-- Edges in 256ths of a pixel. -/
structure Area where
  left : Int
  top : Int
  right : Int
  bottom : Int
deriving DecidableEq, Repr

namespace Area

/-- A length in 256ths, from 65536ths cut toward zero, half up. -/
def grid (x : Float32) : Int := Int.fdiv ((x * 65536).toInt32.toInt + 128) 256

def ofBounds (width height : Nat) (b : Trace.Bounds) : Area :=
  let clamp (x high : Float32) : Float32 := if x < 0 then 0 else if high < x then high else x
  let w := Float32.ofNat width
  let h := Float32.ofNat height
  ⟨grid (clamp b.left w), grid (clamp b.top h), grid (clamp b.right w), grid (clamp b.bottom h)⟩

/-- How many 256ths of a pixel lie between two edges; a span within one pixel is one short. -/
def part (low high : Int) (i : Nat) : Nat :=
  if high ≤ low then 0
  else if Int.fdiv low 256 = Int.fdiv (high - 1) 256 then
    if Int.fdiv low 256 = i then (high - low - 1).toNat else 0
  else (min high (256 * i + 256) - max low (256 * i)).toNat

/-- As `part`, but a span within one pixel counts in full, which the product of two parts
asks of columns. -/
def columnPart (low high : Int) (i : Nat) : Nat :=
  (min high (256 * i + 256) - max low (256 * i)).toNat

/-- Coverage in 255ths: rows that are covered from top to bottom take the part of the column,
others the part of the row, weakened by the part of the column. -/
def coverage (a : Area) (x y : Nat) : UInt8 :=
  let rowPart := part a.top a.bottom y
  if a.right ≤ a.left ∨ a.bottom ≤ a.top then 0
  else if rowPart = 256 then
    let p := part a.left a.right x
    if p = 256 then 255 else p.toUInt8
  else
    let p := columnPart a.left a.right x
    if p = 256 then rowPart.toUInt8 else (rowPart * p / 256).toUInt8

end Area

end Caption
