import Caption.Draw.Contour
import Caption.Draw.Picture

/-!
# Hairlines

A line of one pixel's width is drawn column by column if it is rather level and row by row if
it is rather steep. In each step it covers two neighbouring pixels whose coverages add up to
255. The first and the last step are weakened to the part of a pixel that the line enters.

## Main definitions

* `Hairline.steps`: a line on the 64ths grid as coverage of pairs of pixels
* `Hairline.dabs`: the pixels of a contour's lines in order
-/
namespace Caption

namespace Hairline

/-- A place on the grid of 64ths of a pixel. -/
structure Place where
  x : Int
  y : Int
deriving DecidableEq, Repr

def sixtyFourths (x : Float32) : Int := (x * 64).toInt32.toInt

/-- Lines longer than this, in 64ths, are halved. -/
def longest : Int := 511 * 64

/-- One step of a line that goes along an axis: where on the axis, where across it in 65536ths,
and how much of the step it covers, in 64ths. -/
structure Step where
  along : Int
  across : Int
  part : Nat
deriving DecidableEq, Repr

/-- The steps from `a` to `b` along the axis, given their places across it. -/
def steps (a b across acrossEnd : Int) : List Step :=
  let start := Int.fdiv a 64
  let stop := Int.fdiv (b + 63) 64
  let slope := if across = acrossEnd then 0 else Int.tdiv ((acrossEnd - across) * 65536) (b - a)
  let offset := if across = acrossEnd then 0
    else Int.fdiv (slope * (32 - Int.emod a 64) + 32) 64
  let first := across * 1024 + offset
  let count := (stop - start).toNat
  (List.range count).map fun i =>
    let part : Int :=
      if count = 1 then b - a
      else if i = 0 then 64 - Int.emod a 64
      else if i + 1 = count then Int.emod (b - 1) 64 + 1
      else 64
    ⟨start + i, first + slope * i, part.toNat⟩

/-- The two places across the axis that a step covers, the farther one first. -/
def pair (s : Step) : List (Int × UInt8) :=
  let mid := s.across + 0x8000
  let place := Int.fdiv mid 65536
  let far := (Int.emod (Int.fdiv mid 256) 256).toNat
  [(place, (far * s.part / 64).toUInt8), (place - 1, ((255 - far) * s.part / 64).toUInt8)]

/-- A dab, if it lies in a picture and covers anything. -/
def dab? (width height : Nat) (x y : Int) (coverage : UInt8) : Option Picture.Dab :=
  if 0 ≤ x ∧ x < width ∧ 0 ≤ y ∧ y < height ∧ coverage ≠ 0 then
    some ⟨x.toNat, y.toNat, coverage⟩
  else none

/-- The dabs of a line of moderate length. -/
def shortLine (width height : Nat) (p q : Place) : List Picture.Dab :=
  if (q.y - p.y).natAbs < (q.x - p.x).natAbs then
    let (p, q) := if q.x < p.x then (q, p) else (p, q)
    (steps p.x q.x p.y q.y).flatMap fun s =>
      (pair s).filterMap fun c => dab? width height s.along c.1 c.2
  else
    let (p, q) := if q.y < p.y then (q, p) else (p, q)
    if p = q then []
    else
      (steps p.y q.y p.x q.x).flatMap fun s =>
        (pair s).filterMap fun c => dab? width height c.1 s.along c.2

/-- The dabs of a line, which is halved while it is long. -/
def line (width height : Nat) : Nat → Place → Place → List Picture.Dab
  | 0, p, q => shortLine width height p q
  | depth + 1, p, q =>
    if longest < (q.x - p.x).natAbs ∨ longest < (q.y - p.y).natAbs then
      let mid : Place := ⟨Int.fdiv p.x 2 + Int.fdiv q.x 2, Int.fdiv p.y 2 + Int.fdiv q.y 2⟩
      line width height depth p mid ++ line width height depth mid q
    else shortLine width height p q

/-- The part of a line between two heights or columns, given the coordinate to cut by
first. -/
def cut (low high : Float32) (a b x y : Float32) :
    Option ((Float32 × Float32) × Float32 × Float32) :=
  let across (m : Float32) : Float32 :=
    let d := b.toFloat - a.toFloat
    if d == 0 then x
    else (x.toFloat + (m.toFloat - a.toFloat) * (y.toFloat - x.toFloat) / d).toFloat32
  let place (v w : Float32) : Float32 × Float32 :=
    if v < low then (low, across low) else if high < v then (high, across high) else (v, w)
  if (a < low && b < low) || (high < a && high < b) then none
  else some (place a x, place b y)

/-- A line cut to one pixel around a picture. -/
def cutLine (width height : Nat) (p q : Spot) : Option (Spot × Spot) :=
  (cut (-1) (Float32.ofNat height + 1) p.y q.y p.x q.x).bind fun r =>
    (cut (-1) (Float32.ofNat width + 1) r.1.2 r.2.2 r.1.1 r.2.1).map fun r =>
      (⟨r.1.1, r.1.2⟩, ⟨r.2.1, r.2.2⟩)

def dabsOfLine (width height : Nat) (p q : Spot) : List Picture.Dab :=
  match cutLine width height p q with
  | none => []
  | some (p, q) =>
    line width height 8 ⟨sixtyFourths p.x, sixtyFourths p.y⟩ ⟨sixtyFourths q.x, sixtyFourths q.y⟩

/-- The dabs of a contour, line after line; a closed one returns to its start. -/
def dabs (width height : Nat) (c : Contour) : List Picture.Dab :=
  let points := if c.closed then c.polyline ++ [c.start] else c.polyline
  (points.zip points.tail).flatMap fun l => dabsOfLine width height l.1 l.2

end Hairline

end Caption
