import Caption.Json.Error

/-!
# JSON numbers

A number written without fraction and exponent that fits 64 bits is whole; all others are
read in double precision, from the digits that fit 64 bits and a power of ten.

## Main definitions

* `Json.Number`: a whole or a real number
* `Json.scanNumber`: reads a number
* `Json.skipNumber`: passes over one
-/
namespace Caption

namespace Json

inductive Number where
  | whole (value : Int)
  | real (value : Float)
deriving Repr

namespace Number

def found : Number → Found
  | whole n => .whole n
  | real x => .real x

/-- Puts the sign on a value read without one. -/
def signed (negative : Bool) (x : Float) : Number := .real (if negative then -x else x)

/-- A written integer. Zero with a sign is real, and so is what 64 bits do not hold. -/
def ofSignificand (negative : Bool) (n : Nat) : Number :=
  if !negative then .whole n
  else if n = 0 || 0x8000000000000000 < n then signed true (Float.ofNat n)
  else .whole (-n)

/-- Appends digits while the value fits 64 bits; from the first that does not, digits are
only counted. -/
def appendDigits (value : Nat) : List Char → Nat × Nat
  | [] => (value, 0)
  | d :: ds =>
    let next := value * 10 + (d.toNat - '0'.toNat)
    if next < 0x10000000000000000 then appendDigits next ds else (value, ds.length + 1)

/-- The largest power of ten that is multiplied or divided by at once. -/
def maxPower : Nat := 308

def powerOfTen (n : Nat) : Float := Float.ofScientific 1 false n

/-- `x · 10 ^ e`. Small powers go down in steps; after the second nothing is left of a
64-bit value. -/
def scale (x : Float) (e : Int) : Nat → Except Error Float
  | 0 => .ok x
  | steps + 1 =>
    if e.natAbs ≤ maxPower then
      if 0 ≤ e then
        let y := x * powerOfTen e.natAbs
        if y.isInf then .error .hugeNumber else .ok y
      else .ok (x / powerOfTen e.natAbs)
    else if x == 0 then .ok x
    else if 0 ≤ e then .error .hugeNumber
    else scale (x / powerOfTen maxPower) (e + maxPower) steps

def ofParts (negative : Bool) (significand : Nat) (e : Int) : Except Error Number := do
  let x ← scale (Float.ofNat significand) e 4
  .ok (signed negative x)

/-- Above this an exponent is not counted further. -/
def maxExponent : Nat := 0x7FFFFFFF

/-- The number with a written exponent on top of the one from its digits. -/
def withExponent (negative : Bool) (significand : Nat) (e : Int) (down : Bool)
    (digits : List Char) : Except Error Number :=
  let n := Nat.ofDigitChars 10 digits 0
  if maxExponent < n then
    if significand ≠ 0 ∧ !down then .error .hugeNumber else .ok (signed negative 0)
  else ofParts negative significand (if down then e - n else e + n)

end Number

/-- The digits that open a text, and the rest. -/
def splitDigits (cs : List Char) : List Char × List Char :=
  (cs.takeWhile Char.isDigit, cs.dropWhile Char.isDigit)

/-- A sign in front of an exponent's digits: whether it is a minus, and the rest. -/
def splitSign : List Char → Bool × List Char
  | '+' :: cs => (false, cs)
  | '-' :: cs => (true, cs)
  | cs => (false, cs)

/-- Reads an exponent after its letter. -/
def scanExponent (negative : Bool) (significand : Nat) (e : Int) (cs : List Char) :
    Except Error (Number × List Char) :=
  let (down, cs) := splitSign cs
  match splitDigits cs with
  | ([], []) => .error .missingValue
  | ([], _) => .error .badNumber
  | (ds, rest) => do
    let x ← Number.withExponent negative significand e down ds
    .ok (x, rest)

/-- Reads what may follow the digits of a real number. -/
def scanReal (negative : Bool) (significand : Nat) (e : Int) :
    List Char → Except Error (Number × List Char)
  | 'e' :: cs => scanExponent negative significand e cs
  | 'E' :: cs => scanExponent negative significand e cs
  | rest => do
    let x ← Number.ofParts negative significand e
    .ok (x, rest)

/-- Reads what may follow the integer digits, of which the last `dropped` did not fit. -/
def scanFraction (negative : Bool) (significand dropped : Nat) :
    List Char → Except Error (Number × List Char)
  | '.' :: cs =>
    match splitDigits cs with
    | ([], []) => .error .missingValue
    | ([], _) => .error .badNumber
    | (ds, rest) =>
      let (value, unread) := Number.appendDigits significand ds
      scanReal negative value (dropped - (ds.length - unread : Nat)) rest
  | 'e' :: cs => scanExponent negative significand dropped cs
  | 'E' :: cs => scanExponent negative significand dropped cs
  | rest =>
    if dropped = 0 then .ok (Number.ofSignificand negative significand, rest)
    else scanReal negative significand dropped rest

/-- Reads a number after its sign. Only a zero that stands alone may come first. -/
def scanUnsigned (negative : Bool) : List Char → Except Error (Number × List Char)
  | [] => .error .missingValue
  | c :: cs =>
    if c = '0' then
      match cs with
      | [] => scanFraction negative 0 0 []
      | d :: ds => if d.isDigit then .error .badNumber else scanFraction negative 0 0 (d :: ds)
    else if c.isDigit then
      let (ds, rest) := splitDigits (c :: cs)
      let (value, dropped) := Number.appendDigits 0 ds
      scanFraction negative value dropped rest
    else .error .badNumber

def scanNumber : List Char → Except Error (Number × List Char)
  | '-' :: cs => scanUnsigned true cs
  | cs => scanUnsigned false cs

/-! ## Passing over -/

def skipExponent (cs : List Char) : Except Error (List Char) :=
  match splitDigits (splitSign cs).2 with
  | ([], _) => .error .badNumber
  | (_, rest) => .ok rest

def skipReal : List Char → Except Error (List Char)
  | 'e' :: cs => skipExponent cs
  | 'E' :: cs => skipExponent cs
  | rest => .ok rest

def skipFraction : List Char → Except Error (List Char)
  | '.' :: cs =>
    match splitDigits cs with
    | ([], _) => .error .badNumber
    | (_, rest) => skipReal rest
  | cs => skipReal cs

def skipUnsigned : List Char → Except Error (List Char)
  | [] => .error .badNumber
  | c :: cs =>
    if c = '0' then
      match cs with
      | [] => .ok []
      | d :: ds => if d.isDigit then .error .badNumber else skipFraction (d :: ds)
    else if c.isDigit then skipFraction (splitDigits cs).2
    else .error .badNumber

def skipNumber : List Char → Except Error (List Char)
  | '-' :: cs => skipUnsigned cs
  | cs => skipUnsigned cs

end Json

end Caption
