import Caption.Json.Number
import Caption.Json.Quoted

/-!
# Reading JSON values

Values are read from the front of a list of characters, each reader passing blanks before its
value and giving what is left behind it. Values of no interest are passed over with a stack
of open brackets, to any depth.

## Main definitions

* `Json.readText`, `Json.readFlag`, `Json.readWhole`: values of one type
* `Json.mismatch`: what is wrong with a value of another type
* `Json.skipValue`: passes over any value
-/
namespace Caption

namespace Json

def isBlank (c : Char) : Bool := c = ' ' || c = '\n' || c = '\t' || c = '\r'

def skipBlanks (cs : List Char) : List Char := cs.dropWhile isBlank

/-- The remaining letters of a word whose first letter chose it. -/
def scanLiteral : List Char → List Char → Except Error (List Char)
  | [], cs => .ok cs
  | _ :: _, [] => .error .missingValue
  | l :: ls, c :: cs => if c = l then scanLiteral ls cs else .error .expectedLiteral

/-- Whether a number starts here. -/
def startsNumber (c : Char) : Bool := c = '-' || c.isDigit

/-- The reason why a text that starts with a value of another type is refused. -/
def mismatch (expected : String) (cs : List Char) : Error :=
  let wrong (scanned : Except Error Found) : Error :=
    match scanned with
    | .ok found => .wrongType found expected
    | .error e => e
  match cs with
  | [] => .missingValue
  | 'n' :: rest => wrong ((scanLiteral ['u', 'l', 'l'] rest).map fun _ => .null)
  | 't' :: rest => wrong ((scanLiteral ['r', 'u', 'e'] rest).map fun _ => .flag true)
  | 'f' :: rest => wrong ((scanLiteral ['a', 'l', 's', 'e'] rest).map fun _ => .flag false)
  | '"' :: rest => wrong ((scanText rest).map fun r => .text r.1)
  | '[' :: _ => wrong (.ok .list)
  | '{' :: _ => wrong (.ok .object)
  | c :: rest =>
    if startsNumber c then wrong ((scanNumber (c :: rest)).map fun r => r.1.found)
    else .expectedValue

def readText (cs : List Char) : Except Error (String × List Char) :=
  match skipBlanks cs with
  | '"' :: rest => (scanText rest).map fun r => (String.ofList r.1, r.2)
  | other => .error (mismatch "a string" other)

def readFlag (cs : List Char) : Except Error (Bool × List Char) :=
  match skipBlanks cs with
  | 't' :: rest => (scanLiteral ['r', 'u', 'e'] rest).map fun r => (true, r)
  | 'f' :: rest => (scanLiteral ['a', 'l', 's', 'e'] rest).map fun r => (false, r)
  | other => .error (mismatch "a boolean" other)

/-- A whole number from `low` to `high`, a range that messages call `expected`. -/
def readWhole (expected : String) (low high : Int) (cs : List Char) :
    Except Error (Int × List Char) :=
  match skipBlanks cs with
  | [] => .error .missingValue
  | c :: rest =>
    if startsNumber c then do
      let (x, rest) ← scanNumber (c :: rest)
      match x with
      | .whole n =>
        if low ≤ n ∧ n ≤ high then .ok (n, rest) else .error (.outOfRange n expected)
      | .real x => .error (.wrongType (.real x) expected)
    else .error (mismatch expected (c :: rest))

/-! ## Passing over -/

inductive Bracket where
  | list
  | object
deriving DecidableEq, Repr

/-- Where a value is passed over: in front of a value, in front of a key, or behind a value. -/
inductive Place where
  | value
  | key
  | behind
deriving DecidableEq, Repr

/-- Passes over a value that has no parts. -/
def skipScalar : List Char → Except Error (List Char)
  | [] => .error .missingValue
  | 'n' :: rest => scanLiteral ['u', 'l', 'l'] rest
  | 't' :: rest => scanLiteral ['r', 'u', 'e'] rest
  | 'f' :: rest => scanLiteral ['a', 'l', 's', 'e'] rest
  | '"' :: rest => skipText rest
  | c :: rest => if startsNumber c then skipNumber (c :: rest) else .error .expectedValue

/-- Passes over the colon behind a key. -/
def skipColon (cs : List Char) : Except Error (List Char) :=
  match skipBlanks cs with
  | [] => .error .unclosedObject
  | c :: rest => if c = ':' then .ok rest else .error .expectedColon

/-- Passes over a key and its colon. -/
def skipKey (cs : List Char) : Except Error (List Char) :=
  match skipBlanks cs with
  | [] => .error .unclosedObject
  | c :: rest =>
    if c = '"' then do
      let rest ← skipText rest
      skipColon rest
    else .error .keyNotText

/-- Where to go on behind an opening bracket, and with what text: an empty one closes at
once. -/
def enter (b : Bracket) (cs : List Char) : Except Error (Place × List Char) :=
  match b, skipBlanks cs with
  | .list, [] => .error .unclosedList
  | .object, [] => .error .unclosedObject
  | .list, ']' :: rest => .ok (.behind, rest)
  | .object, '}' :: rest => .ok (.behind, rest)
  | .list, rest => .ok (.value, rest)
  | .object, rest => .ok (.key, rest)

/-- Passes over values until no bracket is open. A bracket that `enter` finds closed is not
opened. -/
def skipWith : Nat → Place → List Bracket → List Char → Except Error (List Char)
  | 0, _, _, _ => .error .missingValue
  | _ + 1, .behind, [], cs => .ok cs
  | fuel + 1, .behind, b :: outer, cs =>
    match b, skipBlanks cs with
    | .list, [] => .error .unclosedList
    | .object, [] => .error .unclosedObject
    | .list, ',' :: rest => skipWith fuel .value (.list :: outer) rest
    | .object, ',' :: rest => skipWith fuel .key (.object :: outer) rest
    | .list, ']' :: rest => skipWith fuel .behind outer rest
    | .object, '}' :: rest => skipWith fuel .behind outer rest
    | .list, _ => .error .expectedListEnd
    | .object, _ => .error .expectedObjectEnd
  | fuel + 1, .key, outer, cs => do
    let rest ← skipKey cs
    skipWith fuel .value outer rest
  | fuel + 1, .value, outer, cs =>
    match skipBlanks cs with
    | '[' :: rest => do
      let (place, rest) ← enter .list rest
      skipWith fuel place (if place = .behind then outer else .list :: outer) rest
    | '{' :: rest => do
      let (place, rest) ← enter .object rest
      skipWith fuel place (if place = .behind then outer else .object :: outer) rest
    | other => do
      let rest ← skipScalar other
      skipWith fuel .behind outer rest

def skipValue (cs : List Char) : Except Error (List Char) :=
  skipWith (2 * cs.length + 2) .value [] cs

end Json

end Caption
