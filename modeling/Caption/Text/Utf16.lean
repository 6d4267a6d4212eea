/-!
# UTF-16

Text as units of 16 bits. Characters beyond the first plane take two units, a high and a low
surrogate; one without the other is no text.
-/
namespace Caption

namespace Utf16

def isHigh (u : Nat) : Bool := 0xD800 ≤ u && u < 0xDC00

def isLow (u : Nat) : Bool := 0xDC00 ≤ u && u < 0xE000

/-- The character of a pair of surrogates. -/
def pair (high low : Nat) : Char :=
  Char.ofNat (0x10000 + (high - 0xD800) * 0x400 + (low - 0xDC00))

/-- Decodes units; the unit in hand, if any, is a high surrogate waiting for its low one. -/
def decodeWith? : Option Nat → List Nat → Option (List Char)
  | none, [] => some []
  | some _, [] => none
  | none, u :: us =>
    if isHigh u then decodeWith? (some u) us
    else if isLow u then none
    else (decodeWith? none us).map (Char.ofNat u :: ·)
  | some h, u :: us =>
    if isLow u then (decodeWith? none us).map (pair h u :: ·) else none

def decode? (units : List Nat) : Option (List Char) := decodeWith? none units

end Utf16

end Caption
