import Caption.Scalar

/-!
# Sizes and rectangles

Canvas space has its origin at the top left and `y` grows downwards.
-/
namespace Caption

structure Size (α : Type) where
  width : α
  height : α
deriving DecidableEq, Repr, Inhabited

structure Rect (α : Type) where
  x : α
  y : α
  width : α
  height : α
deriving DecidableEq, Repr, Inhabited

namespace Rect

variable {α : Type} [Scalar α]

def zero : Rect α := ⟨Scalar.zero, Scalar.zero, Scalar.zero, Scalar.zero⟩

/-- Whether an edge is zero or negative. -/
def isEmpty (r : Rect α) : Bool :=
  Scalar.le r.width Scalar.zero || Scalar.le r.height Scalar.zero

def right (r : Rect α) : α := r.x + r.width

def bottom (r : Rect α) : α := r.y + r.height

def size (r : Rect α) : Size α := ⟨r.width, r.height⟩

/-- The same size, moved. -/
def translate (r : Rect α) (dx dy : α) : Rect α := ⟨r.x + dx, r.y + dy, r.width, r.height⟩

end Rect

end Caption
