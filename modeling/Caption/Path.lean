/-!
# Paths

Outlines made of straight and curved steps, in font units or on the canvas.
-/
namespace Caption

structure Point (α : Type) where
  x : α
  y : α
deriving DecidableEq, Repr, Inhabited

inductive PathStep (α : Type) where
  | move (target : Point α)
  | line (target : Point α)
  | quad (control target : Point α)
  | cubic (first second target : Point α)
  | close
deriving Repr, Inhabited

abbrev Path (α : Type) := List (PathStep α)

namespace PathStep

def map {α β : Type} (f : Point α → Point β) : PathStep α → PathStep β
  | move p => move (f p)
  | line p => line (f p)
  | quad c p => quad (f c) (f p)
  | cubic c d p => cubic (f c) (f d) (f p)
  | close => close

end PathStep

end Caption
