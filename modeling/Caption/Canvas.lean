import Caption.Checked

/-!
# Canvas

The pixel size of a picture and of its texture. A requested size is made legal by rounding
each edge up to even and holding it between 32 and 8192.
-/
namespace Caption

structure Canvas where
  width : UInt32
  height : UInt32
deriving DecidableEq, Repr, Inhabited

namespace Canvas

def minEdge : Int64 := 32

def maxEdge : Int64 := 8192

/-- The remainder by two, zero or one also for a negative edge. -/
def parity (edge : Int64) : Int64 := if edge % 2 = 0 then 0 else 1

def clampEdge (edge : Int64) : UInt32 :=
  if edge < minEdge then 32 else if maxEdge < edge then 8192 else edge.toUInt64.toUInt32

/-- One edge, in the 64-bit arithmetic of the request. -/
def quantizeEdge (edge : Int64) : Checked UInt32 := do
  let even ← Checked.addInt64 edge (parity edge)
  return clampEdge even

def quantized (width height : Int64) : Checked Canvas := do
  return ⟨← quantizeEdge width, ← quantizeEdge height⟩

/-- Bytes of a picture of this size at four bytes a pixel. -/
def byteLength (c : Canvas) : Checked UInt64 := do
  let pixels ← Checked.mul64 c.width.toUInt64 c.height.toUInt64
  Checked.mul64 pixels 4

/-- Bytes of one row. -/
def stride (c : Canvas) : Checked UInt32 := Checked.mul32 c.width 4

end Canvas

end Caption
