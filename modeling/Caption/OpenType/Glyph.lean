import Caption.OpenType.Metrics

/-!
# Glyph shapes

The contours of a glyph as whole numbers of font units. A simple glyph lists its points; a
composite one places other glyphs.

## Main definitions

* `Shape`: contours with the place of the origin
* `GlyphTable.shape?`: the shape of a glyph, unless its data is broken
-/
namespace Caption

namespace OpenType

open Bytes

/-- A point of a contour; one off the curve bends it. -/
structure Knot where
  x : Int
  y : Int
  onCurve : Bool
deriving DecidableEq, Repr

abbrev Contour := List Knot

/-- The origin is where the pen stands at the start of the glyph. -/
structure Shape where
  contours : List Contour
  origin : Int

namespace Knot

def translate (p : Knot) (dx dy : Int) : Knot := { p with x := p.x + dx, y := p.y + dy }

end Knot

namespace Shape

def map (s : Shape) (f : Knot → Knot) : Shape := { s with contours := s.contours.map (List.map f) }

def knot? (contours : List Contour) (i : Nat) : Option Knot := contours.flatten[i]?

end Shape

/-! ## Simple glyphs -/

/-- The flags of `n` points from `i` on, and where they end. The last flag still stands for
`again` more points. -/
def flags? (b : ByteArray) : Nat → Nat → Nat → Nat → Option (List Nat × Nat)
  | 0, _, _, i => some ([], i)
  | n + 1, again + 1, flag, i => do
    let (rest, stop) ← flags? b n again flag i
    return (flag :: rest, stop)
  | n + 1, 0, _, i => do
    let flag ← byte? b i
    let repeated := flag.testBit 3
    let again ← if repeated then byte? b (i + 1) else some 0
    let (rest, stop) ← flags? b n again flag (if repeated then i + 2 else i + 1)
    return (flag :: rest, stop)

/-- One coordinate of the points with these flags, each a step from the one before. A short
step is a byte with its sign among the flags; a missing one is zero. -/
def coordinates? (b : ByteArray) (short same : Nat) :
    List Nat → Int → Nat → Option (List Int × Nat)
  | [], _, i => some ([], i)
  | f :: fs, last, i => do
    let (step, next) ←
      if f.testBit short then do
        let n ← byte? b i
        pure (if f.testBit same then (n : Int) else -n, i + 1)
      else if f.testBit same then pure (0, i)
      else do pure (← i16? b i, i + 2)
    let (rest, stop) ← coordinates? b short same fs (last + step) next
    return ((last + step) :: rest, stop)

/-- The last points of `n` contours. -/
def contourEnds? (b : ByteArray) (n : Nat) : Option (List Nat) :=
  (List.range n).mapM fun k => u16? b (10 + 2 * k)

/-- Cuts a list behind the given places, of which the next is counted from `start`. -/
def cutBehind {α : Type} : Nat → List Nat → List α → List (List α)
  | _, [], _ => []
  | start, stop :: stops, xs =>
    xs.take (stop + 1 - start) :: cutBehind (stop + 1) stops (xs.drop (stop + 1 - start))

/-- Every contour ends behind the one before it. -/
def areAscending : List Nat → Bool
  | a :: b :: rest => a < b && areAscending (b :: rest)
  | _ => true

def simpleContours? (b : ByteArray) (n : Nat) : Option (List Contour) := do
  let ends ← contourEnds? b n
  let skipped ← u16? b (10 + 2 * n)
  let points := match ends.getLast? with
    | some last => last + 1
    | none => 0
  if areAscending ends ∧ 12 + 2 * n + skipped ≤ b.size then
    let (flags, i) ← flags? b points 0 0 (12 + 2 * n + skipped)
    let (xs, i) ← coordinates? b 1 4 flags 0 i
    let (ys, _) ← coordinates? b 2 5 flags 0 i
    let knots := (flags.zip (xs.zip ys)).map fun (f, x, y) => Knot.mk x y (f.testBit 0)
    return cutBehind 0 ends knots
  else none

/-! ## Composite glyphs -/

/-- How a part of a composite glyph is placed: moved, or so that two points meet. -/
inductive Anchor where
  | offset (dx dy : Int)
  | points (base part : Nat)

/-- A matrix in units of `2 ^ -14`. -/
structure Transform where
  xx : Int
  yx : Int
  xy : Int
  yy : Int

structure Part where
  glyph : Nat
  flags : Nat
  anchor : Anchor
  transform : Option Transform

namespace Transform

/-- `n * s` with `s` in units of `2 ^ -14`, a half going away from zero. -/
def scale (n s : Int) : Int :=
  let p := n * s
  if p < 0 then -((-p + 0x2000) / 0x4000) else (p + 0x2000) / 0x4000

def apply (t : Transform) (p : Knot) : Knot :=
  { p with x := scale p.x t.xx + scale p.y t.xy, y := scale p.x t.yx + scale p.y t.yy }

/-- The length of a vector, rounded. -/
def norm (a b : Int) : Int := (Float.sqrt (Float.ofInt (a * a + b * b))).round.toInt64.toInt

/-- An offset stretched as the axes are. -/
def stretch (t : Transform) (dx dy : Int) : Int × Int :=
  (scale dx (norm t.xx t.xy), scale dy (norm t.yy t.yx))

end Transform

namespace Part

def isLast (p : Part) : Bool := !p.flags.testBit 5

/-- Whether the whole glyph takes its origin from this part. -/
def givesOrigin (p : Part) : Bool := p.flags.testBit 9

/-- Whether the offset is meant in the part's own scale. -/
def stretchesOffset (p : Part) : Bool := p.flags.testBit 11 && !p.flags.testBit 12

def anchor? (b : ByteArray) (flags i : Nat) : Option Anchor :=
  match flags.testBit 0, flags.testBit 1 with
  | true, true => do return .offset (← i16? b i) (← i16? b (i + 2))
  | false, true => do return .offset (← signed? b 1 i) (← signed? b 1 (i + 1))
  | true, false => do return .points (← u16? b i) (← u16? b (i + 2))
  | false, false => do return .points (← byte? b i) (← byte? b (i + 1))

/-- The transform of a part and the number of bytes it takes. -/
def transform? (b : ByteArray) (flags i : Nat) : Option (Option Transform × Nat) := do
  if flags.testBit 3 then
    let s ← i16? b i
    return (some ⟨s, 0, 0, s⟩, 2)
  else if flags.testBit 6 then return (some ⟨← i16? b i, 0, 0, ← i16? b (i + 2)⟩, 4)
  else if flags.testBit 7 then
    return (some ⟨← i16? b i, ← i16? b (i + 2), ← i16? b (i + 4), ← i16? b (i + 6)⟩, 8)
  else return (none, 0)

/-- The part that starts at `i`, and where it ends. -/
def read? (b : ByteArray) (i : Nat) : Option (Part × Nat) := do
  let flags ← u16? b i
  let anchor ← anchor? b flags (i + 4)
  let start := if flags.testBit 0 then i + 8 else i + 6
  let (transform, length) ← transform? b flags start
  return (⟨← u16? b (i + 2), flags, anchor, transform⟩, start + length)

/-- The parts from `i` on, at most `n` of them; one that is cut off ends the list. -/
def readList (b : ByteArray) : Nat → Nat → List Part
  | 0, _ => []
  | n + 1, i =>
    match read? b i with
    | some (p, next) => p :: if p.isLast then [] else readList b n next
    | none => []

def place? (p : Part) (whole : List Contour) (s : Shape) : Option Shape := do
  let s := match p.transform with
    | some t => s.map t.apply
    | none => s
  match p.anchor, p.transform with
  | .offset dx dy, some t =>
    let (dx, dy) := if p.stretchesOffset then t.stretch dx dy else (dx, dy)
    return s.map (·.translate dx dy)
  | .offset dx dy, none => return s.map (·.translate dx dy)
  | .points base part, _ =>
    let a ← Shape.knot? whole base
    let b ← Shape.knot? s.contours part
    return s.map (·.translate (a.x - b.x) (a.y - b.y))

end Part

/-! ## Looking up -/

/-- The tables that outlines are read from. -/
structure GlyphTable where
  glyphs : ByteArray
  locations : ByteArray
  /-- Locations are in bytes rather than in pairs of bytes. -/
  wide : Bool
  metrics : HorizontalMetrics

/-- Outlines take their origin from the horizontal metrics and are missing without them. -/
def Directory.glyphTable? (d : Directory) : Option GlyphTable := do
  let wide := (← u16? (← d.head?) 50) == 1
  let locations ← d.table? "loca"
  let glyphs ← d.table? "glyf"
  let metrics ← d.horizontal?
  if locations.size % (if wide then 4 else 2) = 0 then some ⟨glyphs, locations, wide, metrics⟩
  else none

namespace GlyphTable

def location? (t : GlyphTable) (i : Nat) : Option Nat :=
  if t.wide then u32? t.locations (4 * i) else (u16? t.locations (2 * i)).map (2 * ·)

/-- The data of a glyph, empty for one without contours. -/
def data? (t : GlyphTable) (g : Nat) : Option ByteArray := do
  let start ← t.location? g
  let stop ← t.location? (g + 1)
  if start ≤ stop then slice? t.glyphs start (stop - start) else none

/-- Parts of parts are followed this deep. -/
def maxDepth : Nat := 32

def shapeWithin? (t : GlyphTable) : Nat → Nat → Option Shape
  | 0, _ => none
  | depth + 1, g => do
    let b ← t.data? g
    if b.size = 0 then return ⟨[], -t.metrics.bearing g⟩
    let contours ← i16? b 0
    let left ← i16? b 2
    let _ ← ofLength? 10 b
    let origin := left - t.metrics.bearing g
    if 0 ≤ contours then return ⟨← simpleContours? b contours.toNat, origin⟩
    (Part.readList b b.size 10).foldlM (fun whole p => do
      let s ← t.shapeWithin? depth p.glyph
      let s ← p.place? whole.contours s
      return ⟨whole.contours ++ s.contours, if p.givesOrigin then s.origin else whole.origin⟩)
      (⟨[], origin⟩ : Shape)

def shape? (t : GlyphTable) (g : Nat) : Option Shape := t.shapeWithin? (maxDepth + 1) g

end GlyphTable

end OpenType

end Caption
