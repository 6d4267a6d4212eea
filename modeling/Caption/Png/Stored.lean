import Caption.Bytes
import Caption.Png.Checksum

/-!
# Stored data

Compressed data in its plainest form: blocks of at most 65535 bytes that are kept as they are,
in an envelope with a checksum.

## Main definitions

* `Stored.wrap`, `Stored.unwrap?`
-/
namespace Caption

namespace Stored

open Bytes

def maxBlock : Nat := 65535

/-- A number of two bytes, the less significant one first. -/
def le16 (n : Nat) : ByteArray := ⟨#[n.toUInt8, (n / 256).toUInt8]⟩

def le16? (b : ByteArray) (i : Nat) : Option Nat := do
  return (← byte? b i) + 256 * (← byte? b (i + 1))

/-- The head of a block: whether it is the last, its length, and the length's complement. -/
def blockHead (last : Bool) (n : Nat) : ByteArray :=
  ⟨#[if last then 1 else 0]⟩ ++ le16 n ++ le16 (maxBlock - n)

/-- Appends blocks for the data from `i` on. -/
def pushBlocks (data : ByteArray) (i : Nat) (out : ByteArray) : ByteArray :=
  if i + maxBlock < data.size then
    pushBlocks data (i + maxBlock)
      (out ++ blockHead false maxBlock ++ data.extract i (i + maxBlock))
  else out ++ blockHead true (data.size - i) ++ data.extract i data.size
termination_by data.size - i
decreasing_by simp only [maxBlock] at *; omega

/-- The envelope's head: a window of 32 KiB, no dictionary, least effort. -/
def mark : ByteArray := ⟨#[0x78, 0x01]⟩

def wrap (data : ByteArray) : ByteArray :=
  pushBlocks data 0 mark ++ be32 (Checksum.sums data).toNat

/-- Collects at most `n` blocks from `i` on; gives the data and where the last block ends. -/
def takeBlocks? (b : ByteArray) : Nat → Nat → ByteArray → Option (ByteArray × Nat)
  | 0, _, _ => none
  | n + 1, i, out => do
    let kind ← byte? b i
    let length ← le16? b (i + 1)
    let block ← slice? b (i + 5) length
    if (← le16? b (i + 3)) ≠ maxBlock - length ∨ 1 < kind then none
    else if kind = 1 then some (out ++ block, i + 5 + length)
    else takeBlocks? b n (i + 5 + length) (out ++ block)

def unwrap? (b : ByteArray) : Option ByteArray := do
  let head ← slice? b 0 2
  let (data, stop) ← takeBlocks? b b.size 2 .empty
  if head == mark ∧ stop + 4 = b.size ∧ (← u32? b stop) = (Checksum.sums data).toNat then some data
  else none

end Stored

end Caption
