import Caption.Font.Typeface
import Caption.OpenType.Directory

/-!
# Character maps

A font has several maps from characters to glyphs, for different platforms. The widest one for
Unicode is used; a font of symbols has its characters from U+F000 on, where those of the first
256 that it lacks are looked up again.

## Main definitions

* `CharacterMap`: a map, in one of two layouts
* `CharacterMap.glyph?`: the glyph of a character
* `Directory.characterMap?`: the map of a font
-/
namespace Caption

namespace OpenType

open Bytes

/-- The index from `low` up to `high` at which `side` answers `eq`, by bisection. The answer
`lt` sends the search to the lower half. -/
def bisect (side : Nat → Ordering) (low high : Nat) : Option Nat :=
  if low < high then
    let middle := (low + high) / 2
    match side middle with
    | .lt => bisect side low middle
    | .gt => bisect side (middle + 1) high
    | .eq => some middle
  else none
termination_by high - low

/-- Where `n` lies against the span from `first` to `last`. -/
def sideOf (n first last : Nat) : Ordering :=
  if n < first then .lt else if last < n then .gt else .eq

inductive CharacterMap where
  /-- Spans of the first plane, each shifted as a whole or listed glyph by glyph. -/
  | segments (count : Nat) (table : ByteArray)
  /-- Spans of all planes, each shifted as a whole. -/
  | groups (count : Nat) (table : ByteArray)

namespace CharacterMap

/-- A glyph number is moved by a span's shift in 16 bits. -/
def shifted (n shift : Nat) : GlyphId := ((n + shift) % 0x10000).toUInt32

/-- The glyph of a code point in segment `i` of `count`. -/
def segmentGlyph? (count : Nat) (table : ByteArray) (n i : Nat) : Option GlyphId := do
  let first ← u16? table (16 + 2 * count + 2 * i)
  let shift ← u16? table (16 + 4 * count + 2 * i)
  let skip ← u16? table (16 + 6 * count + 2 * i)
  if skip = 0 then return shifted n shift
  else
    let k := skip / 2 + (n - first) - (count - i)
    match ← u16? table (16 + 8 * count + 2 * k) with
    | 0 => none
    | listed => return shifted listed shift

def groupGlyph? (table : ByteArray) (n i : Nat) : Option GlyphId := do
  let first ← u32? table (16 + 12 * i)
  return (n - first + (← u32? table (24 + 12 * i))).toUInt32

def ofCodePoint? (m : CharacterMap) (n : Nat) : Option GlyphId :=
  match m with
  | segments count table => do
    let span (i : Nat) : Ordering :=
      sideOf n ((u16? table (16 + 2 * count + 2 * i)).getD 0) ((u16? table (14 + 2 * i)).getD 0)
    if n < 0x10000 then segmentGlyph? count table n (← bisect span 0 count) else none
  | groups count table => do
    let span (i : Nat) : Ordering :=
      sideOf n ((u32? table (16 + 12 * i)).getD 0) ((u32? table (20 + 12 * i)).getD 0)
    groupGlyph? table n (← bisect span 0 count)

/-- The map that starts at an offset of the table of maps. -/
def readAt? (maps : ByteArray) (offset : Nat) : Option CharacterMap := do
  let table ← suffix? maps offset
  match ← u16? table 0 with
  | 4 =>
    let count := (← u16? table 6) / 2
    return segments count (← ofLength? (16 + 8 * count) table)
  | 12 =>
    let count ← u32? table 12
    return groups count (← ofLength? (16 + 12 * count) table)
  | _ => none

end CharacterMap

/-- A map with how it is to be read. -/
structure Charting where
  map : CharacterMap
  ofSymbols : Bool

namespace Charting

def symbolBase : Nat := 0xF000

def glyph? (m : Charting) (c : Char) : Option GlyphId :=
  match m.map.ofCodePoint? c.toNat with
  | some g => some g
  | none =>
    if m.ofSymbols ∧ c.toNat < 256 then m.map.ofCodePoint? (symbolBase + c.toNat) else none

end Charting

/-- Platform and encoding of a map. -/
def symbolEncoding : Nat × Nat := (3, 0)

/-- The encodings that can be used, the preferred one first: symbols, all of Unicode, its
first plane. -/
def encodings : List (Nat × Nat) :=
  [symbolEncoding, (3, 10), (0, 6), (0, 4), (3, 1), (0, 3), (0, 2), (0, 1), (0, 0)]

/-- The encoding of map `i` of a table of maps, with the map if it can be read. -/
def chartAt? (maps : ByteArray) (i : Nat) : Option ((Nat × Nat) × CharacterMap) := do
  let offset ← u32? maps (8 + 8 * i)
  if offset = 0 then none
  else return ((← u16? maps (4 + 8 * i), ← u16? maps (6 + 8 * i)), ← CharacterMap.readAt? maps offset)

def Directory.characterMap? (d : Directory) : Option Charting := do
  let maps ← d.table? "cmap"
  let count ← u16? maps 2
  let maps ← ofLength? (4 + 8 * count) maps
  let entries := (List.range count).filterMap (chartAt? maps)
  encodings.findSome? fun encoding =>
    (entries.find? fun e => e.1 == encoding).map fun e => ⟨e.2, encoding == symbolEncoding⟩

end OpenType

end Caption
