/-!
# UTF-8 read forgivingly

Bytes are read from the left. A well-formed sequence gives its character; where none starts,
the longest piece that could still have begun one gives a single replacement mark.

## Main definitions

* `Utf8.start`: the character that starts with a byte and how many more bytes it takes
* `Utf8.decode`: all of it
* `Utf8.decode?`: the text of bytes that are well formed throughout
-/
namespace Caption

namespace Utf8

def replacement : Char := '\uFFFD'

/-- The order mark that may open a file. -/
def orderMark : Char := '\uFEFF'

def isTail (b : UInt8) : Bool := 0x80 ≤ b && b ≤ 0xBF

/-- How many bytes follow a lead byte, and the range of the first of them: it leaves out
overlong forms, surrogates and what lies beyond the last code point. -/
def lead (b : UInt8) : Option (Nat × UInt8 × UInt8) :=
  if b < 0xC2 then none
  else if b < 0xE0 then some (1, 0x80, 0xBF)
  else if b == 0xE0 then some (2, 0xA0, 0xBF)
  else if b == 0xED then some (2, 0x80, 0x9F)
  else if b < 0xF0 then some (2, 0x80, 0xBF)
  else if b == 0xF0 then some (3, 0x90, 0xBF)
  else if b < 0xF4 then some (3, 0x80, 0xBF)
  else if b == 0xF4 then some (3, 0x80, 0x8F)
  else none

/-- The bits a lead byte with `n` followers carries. -/
def leadBits (n : Nat) (b : UInt8) : Nat := b.toNat % Nat.pow 2 (6 - n)

def tailBits (b : UInt8) : Nat := b.toNat % 64

/-- Takes up to `n` more followers onto the bits so far; whether all were there, and how many
were. -/
def follow : Nat → Nat → List UInt8 → Option Nat × Nat
  | 0, bits, _ => (some bits, 0)
  | _ + 1, _, [] => (none, 0)
  | n + 1, bits, b :: bs =>
    if isTail b then
      let (found, taken) := follow n (bits * 64 + tailBits b) bs
      (found, taken + 1)
    else (none, 0)

/-- The code point that starts with `b` if one does, and the number of bytes after `b` that
belong to it. -/
def start (b : UInt8) (rest : List UInt8) : Option Nat × Nat :=
  if b < 0x80 then (some b.toNat, 0)
  else
    match lead b, rest with
    | some (n, low, high), c :: cs =>
      if low ≤ c && c ≤ high then
        let (found, taken) := follow (n - 1) (leadBits n b * 64 + tailBits c) cs
        (found, taken + 1)
      else (none, 0)
    | _, _ => (none, 0)

/-- Decodes; the counter is the number of bytes to pass over before the next start. -/
def decodeFrom : Nat → List UInt8 → List Char
  | _, [] => []
  | skip + 1, _ :: bs => decodeFrom skip bs
  | 0, b :: bs =>
    let (found, taken) := start b bs
    (match found with
      | some n => Char.ofNat n
      | none => replacement) :: decodeFrom taken bs

def decode (bs : List UInt8) : List Char := decodeFrom 0 bs

/-- Whether every byte belongs to a well-formed sequence. -/
def wellFormedFrom : Nat → List UInt8 → Bool
  | _, [] => true
  | skip + 1, _ :: bs => wellFormedFrom skip bs
  | 0, b :: bs => (start b bs).1.isSome && wellFormedFrom (start b bs).2 bs

def decode? (bs : List UInt8) : Option (List Char) :=
  if wellFormedFrom 0 bs then some (decode bs) else none

/-- Drops one order mark from the front. -/
def dropOrderMark : List Char → List Char
  | [] => []
  | c :: cs => if c = orderMark then cs else c :: cs

end Utf8

end Caption
