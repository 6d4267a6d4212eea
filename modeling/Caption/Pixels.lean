import Caption.Canvas
import Caption.Color

/-!
# Pixels

Row-major pictures of four bytes a pixel with straight alpha. The byte count is not part of
the type: a buffer that a caller hands over may be shorter or longer than its size says.
-/
namespace Caption

structure Pixels where
  width : UInt32
  height : UInt32
  data : ByteArray
deriving BEq, Inhabited

/-- Appends a byte `n` times. -/
def pushBytes (b : UInt8) : Nat → ByteArray → ByteArray
  | 0, data => data
  | n + 1, data => pushBytes b n (data.push b)

theorem size_pushBytes (b : UInt8) (n : Nat) (data : ByteArray) :
    (pushBytes b n data).size = data.size + n := by
  induction n generalizing data with
  | zero => rfl
  | succ n ih => rw [pushBytes, ih, ByteArray.size_push]; omega

/-- `n` bytes of one value. -/
def replicateBytes (n : Nat) (b : UInt8) : ByteArray :=
  pushBytes b n (ByteArray.emptyWithCapacity n)

namespace Pixels

/-- Bytes of one pixel. -/
def bytesPerPixel : UInt32 := 4

/-- A fully transparent picture. -/
def blank (c : Canvas) : Checked Pixels := do
  let bytes ← c.byteLength
  return ⟨c.width, c.height, replicateBytes bytes.toNat 0⟩

def canvas (p : Pixels) : Canvas := ⟨p.width, p.height⟩

def stride (p : Pixels) : Checked UInt32 := p.canvas.stride

/-- Where a pixel starts, counted in 32 bits. -/
def offset (p : Pixels) (x y : UInt32) : Checked UInt32 := do
  let rows ← Checked.mul32 y p.width
  let pixels ← Checked.add32 rows x
  Checked.mul32 pixels bytesPerPixel

/-- The colour of the four bytes from `i` on, if there are four. -/
def colorAt? (data : ByteArray) (i : Nat) : Option Rgba :=
  if h : i + 4 ≤ data.size then some ⟨data[i], data[i + 1], data[i + 2], data[i + 3]⟩ else none

/-- The pixel at `(x, y)`, if it lies in the picture and in its data. -/
def pixel? (p : Pixels) (x y : UInt32) : Checked (Option Rgba) := do
  if x < p.width ∧ y < p.height then
    let i ← p.offset x y
    return colorAt? p.data i.toNat
  else return none

end Pixels

end Caption
