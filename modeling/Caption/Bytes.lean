/-!
# Big-endian numbers

Numbers as fonts and images hold them, the most significant byte first. Reading past the end
gives nothing.

## Main definitions

* `Bytes.unsigned?`, `Bytes.signed?`: a number of some bytes
* `Bytes.slice?`, `Bytes.suffix?`: a piece of the bytes
* `Bytes.be32`: a number of four bytes
-/
namespace Caption

namespace Bytes

def byte? (b : ByteArray) (i : Nat) : Option Nat :=
  if h : i < b.size then some b[i].toNat else none

/-- The number in the `n` bytes from `i` on, appended to the digits of `high`. -/
def unsignedFrom? (b : ByteArray) : Nat → Nat → Nat → Option Nat
  | 0, _, high => some high
  | n + 1, i, high => do unsignedFrom? b n (i + 1) (high * 256 + (← byte? b i))

def unsigned? (b : ByteArray) (n i : Nat) : Option Nat := unsignedFrom? b n i 0

/-- A number of `n` bytes read as two's complement. -/
def signed (n u : Nat) : Int :=
  if u < Nat.pow 2 (8 * n - 1) then u else (u : Int) - Nat.pow 2 (8 * n)

def signed? (b : ByteArray) (n i : Nat) : Option Int := (unsigned? b n i).map (signed n)

def u16? (b : ByteArray) (i : Nat) : Option Nat := unsigned? b 2 i

def u32? (b : ByteArray) (i : Nat) : Option Nat := unsigned? b 4 i

def i16? (b : ByteArray) (i : Nat) : Option Int := signed? b 2 i

/-- The bytes from `i` on, `n` of them. -/
def slice? (b : ByteArray) (i n : Nat) : Option ByteArray :=
  if i + n ≤ b.size then some (b.extract i (i + n)) else none

/-- The bytes from `i` to the end. -/
def suffix? (b : ByteArray) (i : Nat) : Option ByteArray :=
  if i ≤ b.size then some (b.extract i b.size) else none

/-- A table, if it has at least `n` bytes. -/
def ofLength? (n : Nat) (b : ByteArray) : Option ByteArray :=
  if n ≤ b.size then some b else none

/-- The four bytes of a number below `2 ^ 32`. -/
def be32 (n : Nat) : ByteArray :=
  ⟨#[(n / 0x1000000).toUInt8, (n / 0x10000).toUInt8, (n / 0x100).toUInt8, n.toUInt8]⟩

end Bytes

end Caption
