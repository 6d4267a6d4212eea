import Caption.Draw.Contour

/-!
# Strokes

The area that a round pen covers along a contour: two borders, half the pen's width to either
side. Where the contour turns, the outer border follows the pen and the inner one passes
through the corner. Ends are cut straight.

## Main definitions

* `Stroke.border`: the two borders of a contour
* `Stroke.polygons`: the closed polygons that they form
-/
namespace Caption

namespace Stroke

/-- Differences up to this count as none. -/
def nearlyZero : Float32 := 1 / 4096

def add (p v : Spot) : Spot := ⟨p.x + v.x, p.y + v.y⟩

def sub (p v : Spot) : Spot := ⟨p.x - v.x, p.y - v.y⟩

def scale (v : Spot) (s : Float32) : Spot := ⟨v.x * s, v.y * s⟩

def negate (v : Spot) : Spot := ⟨-v.x, -v.y⟩

def dot (u v : Spot) : Float32 := u.x * v.x + u.y * v.y

/-- A vector of length one, if it has a direction. -/
def unit? (v : Spot) : Option Spot :=
  let x := v.x.toFloat
  let y := v.y.toFloat
  let u := scale v (1 / (x * x + y * y).sqrt).toFloat32
  if !u.x.isFinite || !u.y.isFinite || (u.x == 0 && u.y == 0) then none else some u

/-- The unit normal on the outer side of a contour that runs along a line. -/
def normal? (p q : Spot) : Option Spot :=
  (unit? (sub q p)).map fun u => ⟨u.y, -u.x⟩

/-- Whether two points are so close that no line is drawn between them. -/
def isTeeny (p q : Spot) : Bool :=
  (p.x - q.x).abs ≤ nearlyZero && (p.y - q.y).abs ≤ nearlyZero

/-- The border so far: both sides with the last point first, where the contour is, and its
first and latest normal. -/
structure Border where
  outer : List Spot
  inner : List Spot
  place : Spot
  first : Spot
  latest : Spot

/-- Unit vectors on the arc between two, halved `depth` times; `ahead` is the direction to turn
through where they are opposite. -/
def arc (ahead : Spot) : Nat → Spot → Spot → List Spot
  | 0, _, _ => []
  | depth + 1, u, v =>
    let mid := (unit? (add u v)).getD ahead
    arc ahead depth u mid ++ mid :: arc ahead depth mid v

/-- The points of a turn: on the side that the pen goes round and on the other one. -/
def turn (radius : Float32) (pivot u v ahead : Spot) : List Spot × List Spot :=
  let ahead := if dot u v + 1 ≤ nearlyZero then ahead else u
  let arcPoints := (if dot u v + 1 ≤ nearlyZero then
      arc ahead 3 u ahead ++ ahead :: arc ahead 3 ahead v
    else arc ahead 4 u v) ++ [v]
  (arcPoints.map fun w => add pivot (scale w radius), [pivot, sub pivot (scale v radius)])

/-- Joins two lines at a point, given their unit normals. Lines in the same direction meet by
themselves. -/
def join (radius : Float32) (b : Border) (next : Spot) : Border :=
  let u := b.latest
  if (1 - dot u next).abs ≤ nearlyZero then b
  else
    let ahead : Spot := ⟨-u.y, u.x⟩
    if u.x * next.y > u.y * next.x then
      let (round, corner) := turn radius b.place u next ahead
      { b with outer := round.reverse ++ b.outer, inner := corner.reverse ++ b.inner }
    else
      let (round, corner) := turn radius b.place (negate u) (negate next) ahead
      { b with outer := corner.reverse ++ b.outer, inner := round.reverse ++ b.inner }

/-- Follows a line to a point. -/
def lineTo (radius : Float32) (start : Spot) (b : Option Border) (q : Spot) : Option Border :=
  let p := match b with
    | some b => b.place
    | none => start
  if isTeeny p q then b
  else
    match normal? p q with
    | none => b
    | some u =>
      let n := scale u radius
      let b := match b with
        | some b => join radius b u
        | none => ⟨[add p n], [sub p n], p, u, u⟩
      some { b with
        outer := add q n :: b.outer, inner := sub q n :: b.inner, place := q, latest := u }

/-- The borders of a contour; a closed one returns to its start. -/
def border (radius : Float32) (c : Contour) : Option Border :=
  match c.polyline with
  | [] => none
  | p :: ps => (if c.closed then ps ++ [p] else ps).foldl (lineTo radius p) none

/-- The area along a contour. A closed contour has one polygon on each side. -/
def polygons (radius : Float32) (c : Contour) : List (List Spot) :=
  match border radius c with
  | none => []
  | some b =>
    if c.closed then
      let b := join radius b b.first
      [b.outer.reverse, b.inner]
    else [b.outer.reverse ++ b.inner]

end Stroke

end Caption
