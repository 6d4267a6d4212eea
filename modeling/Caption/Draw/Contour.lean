import Caption.Path

/-!
# Contours

A path on the canvas is taken apart into contours, each a run of lines and curves from one
start. A line that follows a closed contour starts where that one started.

## Main definitions

* `Trace.ofPath`: the steps of a path as they are drawn
* `Trace.contours`: its contours
* `Trace.bounds?`: its bounds, if every point is finite
* `Contour.polyline`: a contour with its curves cut into lines
-/
namespace Caption

abbrev Spot := Point Float32

/-- A part of a contour, from where the part before ends. -/
inductive Segment where
  | line (target : Spot)
  | quad (control target : Spot)
  | cubic (first second target : Spot)
deriving Repr, Inhabited

structure Contour where
  start : Spot
  segments : List Segment
  closed : Bool
deriving Repr, Inhabited

namespace Segment

def last : Segment → Spot
  | line p => p
  | quad _ p => p
  | cubic _ _ p => p

def points : Segment → List Spot
  | line p => [p]
  | quad c p => [c, p]
  | cubic c d p => [c, d, p]

/-! ## Curves -/

/-- The number of lines that stand for a curve. -/
def curveLines : Nat := 16

/-- Weights that add up to one, applied to points. -/
def blend (weighted : List (Float32 × Spot)) : Spot :=
  ⟨weighted.foldl (fun s w => s + w.1 * w.2.x) 0, weighted.foldl (fun s w => s + w.1 * w.2.y) 0⟩

def quadAt (a b c : Spot) (t : Float32) : Spot :=
  let s := 1 - t
  blend [(s * s, a), (2 * s * t, b), (t * t, c)]

def cubicAt (a b c d : Spot) (t : Float32) : Spot :=
  let s := 1 - t
  blend [(s * s * s, a), (3 * s * s * t, b), (3 * s * t * t, c), (t * t * t, d)]

/-- The points on a curve between its ends, and its end. -/
def sample (curve : Float32 → Spot) (last : Spot) : List Spot :=
  (List.range (curveLines - 1)).map (fun i =>
    curve (Float32.ofNat (i + 1) / Float32.ofNat curveLines)) ++ [last]

/-- The ends of the lines that stand for a segment. -/
def lines (before : Spot) : Segment → List Spot
  | line p => [p]
  | quad c p => sample (quadAt before c p) p
  | cubic c d p => sample (cubicAt before c d p) p

end Segment

namespace Contour

/-- The points of a contour from its start, curves cut into lines. -/
def polyline (c : Contour) : List Spot :=
  (c.segments.foldl (fun (acc : Spot × List Spot) s =>
    (s.last, acc.2 ++ s.lines acc.1)) (c.start, [c.start])).2

def points (c : Contour) : List Spot := c.start :: c.segments.flatMap Segment.points

end Contour

/-! ## Traces -/

/-- The steps of a path as drawn: every run of lines has its move, no move follows another and
nothing is closed twice. -/
structure Trace where
  steps : List (PathStep Float32)
deriving Repr, Inhabited

namespace Trace

/-- What is drawn so far, last step first; where the last move went; whether the next line
needs a move. -/
structure Pen where
  drawn : List (PathStep Float32)
  origin : Spot
  lifted : Bool

namespace Pen

def start : Pen := ⟨[], ⟨0, 0⟩, true⟩

def move (pen : Pen) (p : Spot) : Pen :=
  match pen.drawn with
  | .move _ :: rest => ⟨.move p :: rest, p, false⟩
  | drawn => ⟨.move p :: drawn, p, false⟩

def close (pen : Pen) : Pen :=
  match pen.drawn with
  | [] => { pen with lifted := true }
  | .close :: _ => { pen with lifted := true }
  | drawn => { pen with drawn := .close :: drawn, lifted := true }

def draw (pen : Pen) (s : PathStep Float32) : Pen :=
  let pen := if pen.lifted then pen.move pen.origin else pen
  { pen with drawn := s :: pen.drawn }

def step (pen : Pen) (s : PathStep Float32) : Pen :=
  match s with
  | .move p => pen.move p
  | .close => pen.close
  | s => pen.draw s

end Pen

def ofPath (path : Path Float32) : Trace := ⟨(path.foldl Pen.step .start).drawn.reverse⟩

/-- Splits steps into contours, given the open one and its segments in reverse. -/
def split (start : Spot) (segments : List Segment) : List (PathStep Float32) → List Contour
  | [] => [⟨start, segments.reverse, false⟩]
  | .move p :: rest => ⟨start, segments.reverse, false⟩ :: split p [] rest
  | .line p :: rest => split start (.line p :: segments) rest
  | .quad c p :: rest => split start (.quad c p :: segments) rest
  | .cubic c d p :: rest => split start (.cubic c d p :: segments) rest
  | .close :: .move p :: rest => ⟨start, segments.reverse, true⟩ :: split p [] rest
  | .close :: rest => ⟨start, segments.reverse, true⟩ :: (match rest with
    | [] => []
    | _ => split start [] rest)

def contours (t : Trace) : List Contour :=
  match t.steps with
  | .move p :: rest => split p [] rest
  | _ => []

def points (t : Trace) : List Spot :=
  t.steps.flatMap fun s =>
    match s with
    | .move p => [p]
    | .line p => [p]
    | .quad c p => [c, p]
    | .cubic c d p => [c, d, p]
    | .close => []

/-- The same number in double precision. -/
def widened (x : Float32) : Float :=
  .ofModel (.pack (match x.toModel.unpack with
    | .finite s m e _ => .round .binary64 s m e
    | f => f))

/-- Whether a difference is within single precision. -/
def spans (low high : Float32) : Bool :=
  let d := widened high - widened low
  let most := widened (Float32.ofBits 0x7F7FFFFF)
  low ≤ high && -most < d && d < most

/-- Whether four edges are finite, in order and within single precision of their opposites. -/
def areEdges (left top right bottom : Float32) : Bool :=
  left.isFinite && top.isFinite && right.isFinite && bottom.isFinite &&
    spans left right && spans top bottom

structure Bounds where
  left : Float32
  top : Float32
  right : Float32
  bottom : Float32
  valid : areEdges left top right bottom = true
deriving Repr

def Bounds.ofEdges? (left top right bottom : Float32) : Option Bounds :=
  if h : areEdges left top right bottom = true then some ⟨left, top, right, bottom, h⟩ else none

/-- The bounds of finite points. -/
def bounds? (t : Trace) : Option Bounds :=
  match t.points with
  | [] => none
  | p :: ps =>
    let pick (f : Float32 → Float32 → Bool) (a b : Float32) : Float32 := if f b a then b else a
    if (p :: ps).all fun q => q.x.isFinite && q.y.isFinite then
      Bounds.ofEdges?
        (ps.foldl (fun m q => pick (· < ·) m q.x) p.x)
        (ps.foldl (fun m q => pick (· < ·) m q.y) p.y)
        (ps.foldl (fun m q => pick (· > ·) m q.x) p.x)
        (ps.foldl (fun m q => pick (· > ·) m q.y) p.y)
    else none

/-- A trace that can be drawn: more than one step, and bounds. -/
def drawable? (t : Trace) : Option Bounds :=
  if t.steps.length ≤ 1 then none else t.bounds?

end Trace

end Caption
