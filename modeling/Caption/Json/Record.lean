import Caption.Json.Scan

/-!
# Records in JSON

A record is written as an object of its fields and read from an object, whose members may
come in any order, or from a list of its fields in order. Fields that are not given keep
their starting value; members that are no fields are passed over.

## Main definitions

* `Json.Record`: how the fields of a record are read and written
* `Json.Record.read`: reads a record from the front of a text
* `Json.Record.ofText`: reads a text that is one record
* `Json.Record.write`: the written form, two blanks deeper for each level
-/
namespace Caption

namespace Json

/-- A record type `ρ` whose fields are named by `φ`. -/
structure Record (φ ρ : Type) where
  /-- What messages call a record of this type. -/
  expected : String
  /-- The fields in order. -/
  fields : List φ
  key : φ → String
  start : ρ
  /-- Reads the value of a field into a record. -/
  readField : φ → ρ → List Char → Except Error (ρ × List Char)
  /-- The value of a field as written at a depth. -/
  writeField : φ → Nat → ρ → List Char

namespace Record

variable {φ ρ : Type} [DecidableEq φ] (r : Record φ ρ)

/-! ## Reading -/

def field? (key : List Char) : Option φ := r.fields.find? fun f => (r.key f).toList == key

/-- The text behind the quote that opens the next key; `first` before the first member. -/
def openKey (first : Bool) (cs : List Char) : Except Error (List Char) :=
  let openQuote (cs : List Char) : Except Error (List Char) :=
    match cs with
    | '"' :: rest => .ok rest
    | _ => .error .keyNotText
  if first then openQuote cs
  else
    match cs with
    | ',' :: rest =>
      match skipBlanks rest with
      | [] => .error .missingValue
      | '}' :: _ => .error .trailingComma
      | next => openQuote next
    | _ => .error .expectedObjectEnd

/-- Reads members up to the closing brace; no field may be among those `given` before. -/
def readMembers : Nat → Bool → List φ → ρ → List Char → Except Error (ρ × List Char)
  | 0, _, _, _, _ => .error .unclosedObject
  | fuel + 1, first, given, x, cs =>
    match skipBlanks cs with
    | [] => .error .unclosedObject
    | '}' :: rest => .ok (x, rest)
    | next => do
      let rest ← openKey first next
      let (key, rest) ← scanText rest
      match r.field? key with
      | some f =>
        if f ∈ given then .error (.repeatedField (r.key f))
        else
          let rest ← skipColon rest
          let (x, rest) ← r.readField f x rest
          readMembers fuel false (f :: given) x rest
      | none =>
        let rest ← skipColon rest
        let rest ← skipValue rest
        readMembers fuel false given x rest

/-- The text in front of the next element of a list; `first` before the first one. -/
def openElement (first : Bool) (cs : List Char) : Except Error (List Char) :=
  if first then .ok cs
  else
    match cs with
    | ',' :: rest =>
      match skipBlanks rest with
      | [] => .error .missingValue
      | ']' :: _ => .error .trailingComma
      | next => .ok next
    | _ => .error .expectedListEnd

/-- The end of a list that holds all fields. -/
def closeList (cs : List Char) : Except Error (List Char) :=
  match skipBlanks cs with
  | [] => .error .unclosedList
  | ']' :: rest => .ok rest
  | ',' :: rest =>
    match skipBlanks rest with
    | ']' :: _ => .error .trailingComma
    | _ => .error .trailingText
  | _ => .error .trailingText

/-- Reads elements into the given fields, up to the closing bracket. -/
def readElements : Bool → List φ → ρ → List Char → Except Error (ρ × List Char)
  | _, [], x, cs => do
    let rest ← closeList cs
    .ok (x, rest)
  | first, f :: fs, x, cs =>
    match skipBlanks cs with
    | [] => .error .unclosedList
    | ']' :: rest => .ok (x, rest)
    | next => do
      let rest ← openElement first next
      let (x, rest) ← r.readField f x rest
      readElements false fs x rest

def read (cs : List Char) : Except Error (ρ × List Char) :=
  match skipBlanks cs with
  | '[' :: rest => r.readElements true r.fields r.start rest
  | '{' :: rest => r.readMembers (rest.length + 1) true [] r.start rest
  | other => .error (mismatch r.expected other)

def ofText (cs : List Char) : Except Error ρ := do
  let (x, rest) ← r.read cs
  if skipBlanks rest = [] then .ok x else .error .trailingText

/-! ## Writing -/

def indent (depth : Nat) : List Char := List.replicate (2 * depth) ' '

def writeMember (depth : Nat) (x : ρ) (f : φ) : List Char :=
  indent depth ++ '"' :: (r.key f).toList ++ '"' :: ':' :: ' ' :: r.writeField f depth x

def write (depth : Nat) (x : ρ) : List Char :=
  '{' :: '\n' :: List.intercalate [',', '\n'] (r.fields.map (r.writeMember (depth + 1) x)) ++
    '\n' :: indent depth ++ ['}']

end Record

end Json

end Caption
