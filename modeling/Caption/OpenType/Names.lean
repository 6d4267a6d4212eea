import Caption.OpenType.Directory
import Caption.Text.MacRoman
import Caption.Text.Utf16

/-!
# Names of a font

The name table lists texts by purpose, platform and language. A font is known by its family
names; it must also have a name for printers.

## Main definitions

* `nameRecords?`: the table's records
* `Directory.familyNames?`: the names of a font's family, the one for American English first
-/
namespace Caption

namespace OpenType

open Bytes

structure NameRecord where
  platform : Nat
  encoding : Nat
  language : Nat
  purpose : Nat
  text : ByteArray

namespace NameRecord

def unicodePlatform : Nat := 0

def macPlatform : Nat := 1

def windowsPlatform : Nat := 3

/-- Platforms beyond this one are unknown. -/
def lastPlatform : Nat := 4

def americanEnglish : Nat := 0x0409

def isUnicode (r : NameRecord) : Bool :=
  r.platform == unicodePlatform || (r.platform == windowsPlatform && r.encoding ≤ 1)

def isMacRoman (r : NameRecord) : Bool := r.platform == macPlatform && r.encoding == 0

def isReadable (r : NameRecord) : Bool := r.isUnicode || r.isMacRoman

def isAmerican (r : NameRecord) : Bool :=
  r.platform == windowsPlatform && r.language == americanEnglish

/-- Two bytes a unit; a byte left over at the end is dropped. -/
def units : List UInt8 → List Nat
  | a :: b :: rest => (a.toNat * 256 + b.toNat) :: units rest
  | _ => []

def read? (r : NameRecord) : Option String :=
  if r.isUnicode then (Utf16.decode? (units r.text.toList)).map String.ofList
  else if r.isMacRoman then some (String.ofList (MacRoman.decode r.text.toList))
  else none

end NameRecord

/-- Where the records start: a table of version one has language tags in front. -/
def recordsStart? (table : ByteArray) : Option Nat := do
  match ← u16? table 0 with
  | 0 => return 6
  | 1 => return 8 + 4 * (← u16? table 6)
  | _ => none

def nameRecord? (table : ByteArray) (storage i : Nat) : Option NameRecord := do
  let platform ← u16? table i
  let text ← slice? table (storage + (← u16? table (i + 10))) (← u16? table (i + 8))
  if platform ≤ NameRecord.lastPlatform then
    some ⟨platform, ← u16? table (i + 2), ← u16? table (i + 4), ← u16? table (i + 6), text⟩
  else none

/-- Reads up to `n` records; one that cannot be read ends the list. -/
def takeRecords (table : ByteArray) (storage : Nat) : Nat → Nat → List NameRecord
  | 0, _ => []
  | n + 1, i =>
    match nameRecord? table storage i with
    | some r => r :: takeRecords table storage n (i + 12)
    | none => []

/-- The texts lie behind the records, wherever the table says they start. -/
def nameRecords? (table : ByteArray) : Option (List NameRecord) := do
  let count ← u16? table 2
  let storage ← u16? table 4
  let start ← recordsStart? table
  let stop := start + 12 * count
  if stop ≤ table.size then some (takeRecords table (max storage stop) count start) else none

def familyPurpose : Nat := 1

def printerPurpose : Nat := 6

def typographicPurpose : Nat := 16

/-- The names for a purpose with whether they are American English. One that is written in
Mac Roman stands in for a missing American one. -/
def namesFor (records : List NameRecord) (purpose : Nat) : List (String × Bool) :=
  let here := records.filter fun r => r.purpose == purpose
  let names := (here.filter NameRecord.isUnicode).filterMap fun r =>
    r.read?.map fun name => (name, r.isAmerican)
  if names.any Prod.snd then names
  else
    match (here.filter NameRecord.isMacRoman).findSome? NameRecord.read? with
    | some name => names ++ [(name, true)]
    | none => names

/-- Moves the first American name to the front. -/
def americanFirst (names : List (String × Bool)) : List String :=
  match names.find? Prod.snd with
  | some name => name.1 :: (names.erase name).map Prod.fst
  | none => names.map Prod.fst

/-- A typographic family name takes the place of the plain one. -/
def familyNames? (records : List NameRecord) : Option (List String) :=
  let names :=
    match namesFor records typographicPurpose with
    | [] => namesFor records familyPurpose
    | names => names
  let printer := (records.find? fun r => r.purpose == printerPurpose && r.isReadable).bind
    NameRecord.read?
  if names.isEmpty || printer.isNone then none else some (americanFirst names)

def Directory.familyNames? (d : Directory) : Option (List String) := do
  OpenType.familyNames? (← nameRecords? (← d.table? "name"))

end OpenType

end Caption
