/-!
# Scalars

The numbers that measuring and placing compute with. A caption is measured in single
precision, one rounding per operation; the same definitions read over `Rat` give the
exact geometry.

## Main definitions

* `Scalar`: ordered arithmetic with conversions from and to whole numbers
* `Scalar.zero`, `Scalar.one`, `Scalar.half`: the constants of the layout rules
-/
namespace Caption

class Scalar (α : Type) extends Add α, Sub α, Mul α, Div α, Neg α where
  lt : α → α → Bool
  le : α → α → Bool
  ofInt : Int → α
  /-- `decimal m e` is `m / 10 ^ e`. -/
  decimal : Nat → Nat → α
  /-- The larger of two values; one that is not a number gives way to the other. -/
  larger : α → α → α
  /-- The smaller of two values; one that is not a number gives way to the other. -/
  smaller : α → α → α
  /-- The whole part, cut toward zero and held within 64 bits. -/
  whole : α → Int64

namespace Scalar

def zero {α : Type} [Scalar α] : α := ofInt 0

def one {α : Type} [Scalar α] : α := ofInt 1

def half {α : Type} [Scalar α] (x : α) : α := x / ofInt 2

/-- A whole number held within the range of 64 bits. -/
def clampInt64 (n : Int) : Int64 :=
  Int64.ofInt (max (-0x8000000000000000) (min n 0x7FFFFFFFFFFFFFFF))

end Scalar

instance : Scalar Float32 where
  lt a b := a < b
  le a b := a ≤ b
  ofInt n := .ofModel (.ofInt n)
  decimal m e := Float32.ofScientific m true e
  larger a b := if a < b || a.isNaN then b else a
  smaller a b := if b < a || a.isNaN then b else a
  whole x := x.toModel.toInt64

instance : Scalar Rat where
  lt a b := a < b
  le a b := a ≤ b
  ofInt n := n
  decimal m e := (m : Rat) / (Nat.pow 10 e : Nat)
  larger a b := if a ≤ b then b else a
  smaller a b := if a ≤ b then a else b
  whole q := Scalar.clampInt64 (q.num.tdiv q.den)

end Caption
