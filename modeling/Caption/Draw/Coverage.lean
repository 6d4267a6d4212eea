import Caption.Draw.Contour
import Caption.Draw.Picture

/-!
# Coverage

How much of each pixel a shape covers. Every pixel has four rows of four samples. The edges of
the shape that cross a row, in order from the left, split it into stretches; a stretch is
covered where the edges before it do not turn round and back to nothing. A covered sample
weighs 16, a row of four 64, the last such row 63.

## Main definitions

* `Edge.ofLine`: an edge from a line, on the grid of samples
* `Sweep.step`: the covered stretches of one row of samples
* `addSpan`: a stretch's weight on a row of pixels
* `Coverage.ofPolygons`: the coverage of closed polygons
-/
namespace Caption

/-! ## Edges -/

/-- An edge that crosses the sample rows from `top` up to but not including `bottom`; `x` is
where it crosses the first of them and `slope` what a row adds, both in 65536ths. -/
structure Edge where
  x : Int
  slope : Int
  top : Int
  bottom : Int
  winding : Int
deriving DecidableEq, Repr

namespace Edge

/-- A length in 64ths of a sample, cut toward zero. -/
def fine (x : Float32) : Int := (x * 256).toInt32.toInt

/-- The sample row whose centre is the first not before a height. -/
def row (y : Int) : Int := Int.fdiv (y + 32) 64

/-- The edge along a line that does not cross a row from left to right only. -/
def ofLine (p q : Spot) : Option Edge :=
  let (a, b, winding) := if fine p.y ≤ fine q.y then (p, q, 1) else (q, p, -1)
  let top := row (fine a.y)
  let bottom := row (fine b.y)
  if top = bottom then none
  else
    let slope := Int.tdiv ((fine b.x - fine a.x) * 65536) (fine b.y - fine a.y)
    let down := top * 64 + 32 - fine a.y
    some ⟨(fine a.x + Int.fdiv (slope * down) 65536) * 1024, slope, top, bottom, winding⟩

/-- The first sample to the right of where the edge crosses its row. -/
def sample (e : Edge) : Int := Int.fdiv (e.x + 0x8000) 65536

def advance (e : Edge) : Edge := { e with x := e.x + e.slope, top := e.top + 1 }

end Edge

/-! ## Cutting to the canvas -/

/-- Where a line crosses a height or a column, given the coordinate along it first. -/
def crossing (a b : Float32) (x y : Float32) (m : Float32) : Float32 :=
  let d := b.toFloat - a.toFloat
  if d == 0 then x
  else (x.toFloat + (m.toFloat - a.toFloat) * (y.toFloat - x.toFloat) / d).toFloat32

/-- The part of a line within the rows of a picture. -/
def cutRows (height : Float32) (p q : Spot) : Option (Spot × Spot) :=
  let cut (a : Spot) : Spot :=
    if a.y < 0 then ⟨crossing p.y q.y p.x q.x 0, 0⟩
    else if height < a.y then ⟨crossing p.y q.y p.x q.x height, height⟩
    else a
  if (p.y ≤ 0 && q.y ≤ 0) || (height ≤ p.y && height ≤ q.y) then none
  else some (cut p, cut q)

/-- The parts of a line within the columns of a picture; what lies beside it runs along its
side. -/
def cutColumns (width : Float32) (p q : Spot) : List (Spot × Spot) :=
  let side (s : Spot) : Spot := ⟨if s.x < 0 then 0 else if width < s.x then width else s.x, s.y⟩
  let marks := [(0 : Float32), width].filter fun m => (p.x < m && m < q.x) || (q.x < m && m < p.x)
  let marks := if p.x ≤ q.x then marks else marks.reverse
  let inner := marks.map fun m => (⟨m, crossing p.x q.x p.y q.y m⟩ : Spot)
  let points := side p :: inner ++ [side q]
  points.zip points.tail

/-- The edges of a line on a picture. -/
def edgesOfLine (width height : Nat) (p q : Spot) : List Edge :=
  match cutRows (Float32.ofNat height) p q with
  | none => []
  | some (a, b) =>
    (cutColumns (Float32.ofNat width) a b).filterMap fun l => Edge.ofLine l.1 l.2

/-- The edges of a closed polygon. -/
def edgesOfPolygon (width height : Nat) (points : List Spot) : List Edge :=
  match points with
  | [] => []
  | p :: ps => ((p :: ps).zip (ps ++ [p])).flatMap fun l => edgesOfLine width height l.1 l.2

/-! ## Sweeping the rows -/

/-- The edges that cross the current row, from the left, and those that start below it. -/
structure Sweep where
  active : List Edge
  pending : List Edge

namespace Sweep

/-- Takes new edges up among the rest of the active ones: an old edge comes first only if it
lies further left. -/
def mergeBefore (old new : List Edge) : List Edge :=
  List.merge old new fun a b => a.x < b.x

/-- Takes up the edges that start on a row. The first of them comes after what lies at the same
place, the others before. -/
def takeUp (active new : List Edge) : List Edge :=
  match new, active.getLast? with
  | [], _ => active
  | new, none => new
  | n :: ns, some last =>
    if last.x ≤ n.x then active ++ n :: ns
    else
      active.takeWhile (fun e => e.x ≤ n.x) ++
        n :: mergeBefore (active.dropWhile fun e => e.x ≤ n.x) ns

/-- The covered stretches between edges, in samples, up to the end of the row. -/
def stretches (stop : Int) (winding left : Int) : List Edge → List (Int × Int)
  | [] => if winding = 0 then [] else [(left, stop)]
  | e :: es =>
    let left := if winding = 0 then e.sample else left
    let winding := winding + e.winding
    if winding = 0 then (left, e.sample) :: stretches stop winding left es
    else stretches stop winding left es

/-- The covered stretches of a row of samples and the sweep below it. -/
def step (samples : Int) (row : Int) (s : Sweep) : List (Int × Int) × Sweep :=
  let active := takeUp s.active (s.pending.takeWhile fun e => e.top ≤ row)
  let rest := (active.filter fun e => row + 1 < e.bottom).map Edge.advance
  (stretches samples 0 0 active,
    ⟨rest.mergeSort fun a b => a.x ≤ b.x, s.pending.dropWhile fun e => e.top ≤ row⟩)

end Sweep

/-! ## Weights -/

/-- Weights of a row of pixels, up to 256 short of one. -/
def addWeight (weights : ByteArray) (x : Nat) (w : Nat) : ByteArray :=
  if x < weights.size then
    let sum := (weights.get! x).toNat + w
    weights.set! x (sum - sum / 256).toUInt8
  else weights

def addRun (w : Nat) : Nat → Nat → ByteArray → ByteArray
  | 0, _, weights => weights
  | n + 1, x, weights => addRun w n (x + 1) (addWeight weights x w)

/-- Adds a stretch of samples, from `start` up to `stop`, of one of the four rows. -/
def addSpan (weights : ByteArray) (row : Nat) (start stop : Nat) : ByteArray :=
  let full := if row = 3 then 63 else 64
  let first := start / 4
  let last := stop / 4
  if stop ≤ start then weights
  else if first = last then addWeight weights first ((stop - start) * 16)
  else
    let head := start % 4
    let weights := if head = 0 then weights else addWeight weights first ((4 - head) * 16)
    let inside := if head = 0 then first else first + 1
    let weights := addRun full (last - inside) inside weights
    if stop % 4 = 0 then weights else addWeight weights last (stop % 4 * 16)

/-- A row of coverages for every row of pixels. -/
structure Coverage where
  rows : Array ByteArray

namespace Coverage

def get (c : Coverage) (x y : Nat) : UInt8 :=
  match c.rows[y]? with
  | some row => if h : x < row.size then row[x] else 0
  | none => 0

/-- One row of pixels: its four rows of samples. -/
def sweepRow (width : Nat) (y : Nat) (s : Sweep) : ByteArray × Sweep :=
  let row (acc : ByteArray × Sweep) (k : Nat) : ByteArray × Sweep :=
    let (found, below) := acc.2.step (4 * width) (4 * y + k : Nat)
    (found.foldl (fun weights f =>
      addSpan weights k f.1.toNat (min f.2.toNat (4 * width))) acc.1, below)
  if s.active.isEmpty && (s.pending.head?.elim true fun e => (4 * y + 4 : Nat) ≤ e.top) then
    (ByteArray.empty, s)
  else [0, 1, 2, 3].foldl row (replicateBytes width 0, s)

def sweepRows (width height : Nat) (edges : List Edge) : Array ByteArray :=
  ((List.range height).foldl (fun (acc : Array ByteArray × Sweep) y =>
    let (row, s) := sweepRow width y acc.2
    (acc.1.push row, s)) (#[], ⟨[], edges⟩)).1

/-- The coverage of closed polygons together. -/
def ofPolygons (width height : Nat) (polygons : List (List Spot)) : Coverage :=
  let edges := polygons.flatMap (edgesOfPolygon width height)
  ⟨sweepRows width height (edges.mergeSort fun a b =>
    a.top < b.top || (a.top == b.top && a.x ≤ b.x))⟩

/-- Whether an extent is too small to be drawn. -/
def isThin (low high : Float32) : Bool := high - low ≤ 1 / 4096

/-- Whether bounds are drawn at all. -/
def isVisible (b : Trace.Bounds) : Bool := !(isThin b.left b.right || isThin b.top b.bottom)

end Coverage

end Caption
