/-!
# Checksums

The two checksums of a compressed image: a cyclic one for its chunks and a pair of sums for
the data within.
-/
namespace Caption

namespace Checksum

/-- The polynomial with its lowest power in the highest bit. -/
def polynomial : UInt32 := 0xEDB88320

/-- One bit of a remainder moves out. -/
def shift (c : UInt32) : UInt32 := if c &&& 1 = 1 then (c >>> 1) ^^^ polynomial else c >>> 1

def shifts : Nat → UInt32 → UInt32
  | 0, c => c
  | n + 1, c => shifts n (shift c)

/-- Eight shifts of each byte. -/
def table : Array UInt32 := Array.ofFn fun i : Fin 256 => shifts 8 i.val.toUInt32

def crcByte (c : UInt32) (b : UInt8) : UInt32 :=
  table.getD (c.toUInt8 ^^^ b).toNat 0 ^^^ (c >>> 8)

def crc (data : ByteArray) : UInt32 := data.foldl crcByte 0xFFFFFFFF ^^^ 0xFFFFFFFF

/-- The largest prime below `2 ^ 16`. -/
def modulus : UInt32 := 65521

/-- The sum of the bytes and the sum of these sums. -/
def sumByte (s : UInt32 × UInt32) (b : UInt8) : UInt32 × UInt32 :=
  let low := (s.1 + b.toUInt32) % modulus
  (low, (s.2 + low) % modulus)

def sums (data : ByteArray) : UInt32 :=
  let s := data.foldl sumByte (1, 0)
  (s.2 <<< 16) ||| s.1

end Checksum

end Caption
