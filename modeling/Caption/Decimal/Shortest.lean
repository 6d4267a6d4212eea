/-!
# Shortest decimals

The fewest decimal digits that read back as a given binary number, and of those the
nearest. The number is `mantissa · 2 ^ exponent`; the reals that round to it form an
interval whose ends belong to it exactly when the mantissa is even. On the grids of step
`10 ^ k`, from the coarsest down, the two neighbours of the number are tried.

## Main definitions

* `Binary`: a positive binary number with the width of its interval
* `Decimal`: digits and a power of ten
* `Binary.shortest`: the shortest decimal in the interval
* `DecimalFormat`: where the positional form ends and how an exponent looks
* `Decimal.text`: the written form of a decimal in a format
-/
namespace Caption

/-- `mantissa · 2 ^ exponent`; at a power of two the next number below is only half as far. -/
structure Binary where
  mantissa : Nat
  exponent : Int
  narrowBelow : Bool
deriving Repr, DecidableEq

/-- `digits · 10 ^ exponent`. -/
structure Decimal where
  digits : Nat
  exponent : Int
deriving Repr, DecidableEq

structure DecimalFormat where
  /-- The point of a positional number stands behind this place. -/
  lowest : Int
  /-- The last place where the point of a positional number may stand. -/
  highest : Int
  /-- Whether an exponent above zero has a sign. -/
  plus : Bool
  /-- The least number of digits of an exponent. -/
  exponentDigits : Nat
deriving Repr, DecidableEq

namespace DecimalFormat

def exponentText (f : DecimalFormat) (e : Int) : List Char :=
  let ds := Nat.toDigits 10 e.natAbs
  (if e < 0 then ['-'] else if f.plus then ['+'] else []) ++
    List.replicate (f.exponentDigits - ds.length) '0' ++ ds

end DecimalFormat

namespace Decimal

/-- Where the point stands: the number is `0.d₁d₂… · 10 ^ point`. -/
def point (d : Decimal) : Int := (Nat.toDigits 10 d.digits).length + d.exponent

/-- Digits without an exponent, with at least one digit after the point. -/
def positional (d : Decimal) : List Char :=
  let ds := Nat.toDigits 10 d.digits
  if 0 ≤ d.exponent then ds ++ List.replicate d.exponent.toNat '0' ++ ['.', '0']
  else if 0 < d.point then ds.take d.point.toNat ++ '.' :: ds.drop d.point.toNat
  else '0' :: '.' :: List.replicate (-d.point).toNat '0' ++ ds

/-- One digit before the point and a power of ten. -/
def scientific (f : DecimalFormat) (d : Decimal) : List Char :=
  let e := 'e' :: f.exponentText (d.point - 1)
  match Nat.toDigits 10 d.digits with
  | [] => []
  | [c] => c :: e
  | c :: cs => c :: '.' :: cs ++ e

def text (f : DecimalFormat) (d : Decimal) : List Char :=
  if f.lowest < d.point ∧ d.point ≤ f.highest then d.positional else d.scientific f

end Decimal

namespace Binary

/-- The scale that turns a quarter of the last binary place into a whole number of units. -/
def numerator (b : Binary) (quarters : Nat) : Nat := quarters * Nat.pow 2 (b.exponent - 2).toNat

def denominator (b : Binary) : Nat := Nat.pow 2 (2 - b.exponent).toNat

/-- Whether `c · 10 ^ k` reads back as the number. -/
def accepts (b : Binary) (k : Int) (c : Nat) : Bool :=
  let value := c * Nat.pow 10 k.toNat * b.denominator
  let low := b.numerator (4 * b.mantissa - if b.narrowBelow then 1 else 2) * Nat.pow 10 (-k).toNat
  let high := b.numerator (4 * b.mantissa + 2) * Nat.pow 10 (-k).toNat
  if b.mantissa % 2 = 0 then low ≤ value && value ≤ high else low < value && value < high

/-- The point of the grid `10 ^ k` that reads back, the nearer one if both neighbours do. -/
def onGrid (b : Binary) (k : Int) : Option Nat :=
  let num := b.numerator (4 * b.mantissa) * Nat.pow 10 (-k).toNat
  let den := b.denominator * Nat.pow 10 k.toNat
  let below := num / den
  match b.accepts k below, b.accepts k (below + 1) with
  | true, true => some (if 2 * (num % den) ≤ den then below else below + 1)
  | true, false => some below
  | false, true => some (below + 1)
  | false, false => none

/-- Tries `fuel` grids, each ten times finer than the one before. -/
def search (b : Binary) : Nat → Int → Decimal
  | 0, k => ⟨0, k⟩
  | fuel + 1, k =>
    match b.onGrid k with
    | some c => ⟨c, k⟩
    | none => b.search fuel (k - 1)

/-- A power of ten above the number, at most two too large. -/
def ceiling (b : Binary) : Int :=
  Int.fdiv ((b.mantissa.log2 + b.exponent + 1) * 30103) 100000 + 1

def shortest (b : Binary) : Decimal := b.search 24 b.ceiling

end Binary

/-! ## Single and double precision -/

/-- The size of a finite number, `none` for zero. -/
def binaryOfSingle (x : Float32) : Option Binary :=
  let bits := x.toBits.toNat
  let biased : Nat := bits / 0x800000 % 0x100
  let fraction : Nat := bits % 0x800000
  if biased = 0 then if fraction = 0 then none else some ⟨fraction, -149, false⟩
  else some ⟨0x800000 + fraction, Int.ofNat biased - 150, fraction = 0 && biased != 1⟩

def binaryOfDouble (x : Float) : Option Binary :=
  let bits := x.toBits.toNat
  let biased : Nat := bits / 0x10000000000000 % 0x800
  let fraction : Nat := bits % 0x10000000000000
  if biased = 0 then if fraction = 0 then none else some ⟨fraction, -1074, false⟩
  else some ⟨0x10000000000000 + fraction, Int.ofNat biased - 1075, fraction = 0 && biased != 1⟩

/-- Numbers in the log are positional from `1e-4` to below `1e16`. -/
def logFormat : DecimalFormat := ⟨-4, 16, false, 1⟩

/-- Numbers in messages are positional from `1e-5` to below `1e16`, and their exponents have a
sign and two digits. -/
def messageFormat : DecimalFormat := ⟨-5, 16, true, 2⟩

def magnitudeText (f : DecimalFormat) : Option Binary → List Char
  | none => ['0', '.', '0']
  | some b => b.shortest.text f

/-- The text of a single-precision number in the log. -/
def logNumber (x : Float32) : String :=
  if x.isNaN then "NaN"
  else
    let size := if x.isInf then "inf".toList else magnitudeText logFormat (binaryOfSingle x)
    String.ofList (if x.toBits ≥ 0x80000000 then '-' :: size else size)

/-- The text of a finite double-precision number in a message. -/
def messageNumber (x : Float) : String :=
  let size := magnitudeText messageFormat (binaryOfDouble x)
  String.ofList (if x.toBits ≥ 0x8000000000000000 then '-' :: size else size)

end Caption
