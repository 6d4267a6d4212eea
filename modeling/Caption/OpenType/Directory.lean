import Caption.Bytes

/-!
# Table directories

A font file is a directory of tagged tables; a collection is a list of such directories over
one file.

## Main definitions

* `Directory.ofBytes?`: the directory of one font of a file
* `Directory.table?`: the bytes of a table
* `fontCount`: how many fonts a file may hold
-/
namespace Caption

namespace OpenType

open Bytes

structure TableRecord where
  tag : Nat
  offset : Nat
  length : Nat
deriving DecidableEq, Repr

/-- The tables of one font, in the order of their tags, with the whole file. -/
structure Directory where
  data : ByteArray
  tables : Array TableRecord

/-- A tag is its four letters read as a number. -/
def tagOf (name : String) : Nat := name.toList.foldl (fun n c => n * 256 + c.toNat) 0

/-- What a directory may open with: outlines of either kind. -/
def isFontMark (mark : Nat) : Bool :=
  mark == 0x00010000 || mark == tagOf "true" || mark == tagOf "OTTO"

def collectionMark : Nat := tagOf "ttcf"

namespace Directory

def record? (b : ByteArray) (i : Nat) : Option TableRecord := do
  return ⟨← u32? b i, ← u32? b (i + 8), ← u32? b (i + 12)⟩

/-- The directory that starts at an offset. -/
def readAt? (b : ByteArray) (i : Nat) : Option Directory := do
  let mark ← u32? b i
  let count ← u16? b (i + 4)
  let tables ← (List.range count).mapM fun k => record? b (i + 12 + 16 * k)
  if isFontMark mark ∧ i + 12 ≤ b.size then some ⟨b, tables.toArray⟩ else none

/-- A file that is no collection holds one font. -/
def ofBytes? (b : ByteArray) (index : Nat) : Option Directory := do
  let mark ← u32? b 0
  if mark = collectionMark then
    let count ← u32? b 8
    if index < count ∧ 12 + 4 * count ≤ b.size then readAt? b (← u32? b (12 + 4 * index))
    else none
  else if index = 0 then readAt? b 0
  else none

/-- The last of the `n` records from `base` on that is not above a tag, by bisection. -/
def search (d : Directory) (tag base n : Nat) : Nat :=
  if n ≤ 1 then base
  else
    let middle := base + n / 2
    match d.tables[middle]? with
    | some r => d.search tag (if tag < r.tag then base else middle) (n - n / 2)
    | none => base
termination_by n
decreasing_by omega

/-- A table that does not lie in the file counts as missing. -/
def table? (d : Directory) (name : String) : Option ByteArray := do
  let r ← d.tables[d.search (tagOf name) 0 d.tables.size]?
  if r.tag = tagOf name then slice? d.data r.offset r.length else none

end Directory

/-- The number of fonts a file may hold. A collection whose list is cut off has none. -/
def fontCount (b : ByteArray) : Nat :=
  if u32? b 0 = some collectionMark then
    match u32? b 8 with
    | some count => if 12 + 4 * count ≤ b.size then count else 0
    | none => 0
  else 1

end OpenType

end Caption
