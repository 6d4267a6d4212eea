import Caption.Decimal.Shortest
import Caption.Text.Quoted

/-!
# What can be wrong with a JSON text

A text may end too early, break the grammar, or hold a value that does not fit the field it
is given for.

## Main definitions

* `Json.Error`: the causes
* `Json.Error.category`: which of the three kinds a cause is
* `Json.Error.message`: its wording
-/
namespace Caption

namespace Json

/-- The value that stood where another was expected. -/
inductive Found where
  | null
  | flag (value : Bool)
  | whole (value : Int)
  | real (value : Float)
  | text (value : List Char)
  | list
  | object
deriving Repr

inductive Error where
  | unclosedList
  | unclosedObject
  | unclosedText
  | missingValue
  | expectedColon
  | expectedListEnd
  | expectedObjectEnd
  | expectedLiteral
  | expectedValue
  | badEscape
  | badNumber
  | hugeNumber
  | controlCharacter
  | keyNotText
  | loneSurrogate
  | brokenSurrogate
  | trailingComma
  | trailingText
  | wrongType (found : Found) (expected : String)
  | outOfRange (found : Int) (expected : String)
  | repeatedField (key : String)
deriving Repr

inductive Category where
  /-- The text ends before the value does. -/
  | cutOff
  | malformed
  /-- Well formed, but not of the type that is read. -/
  | mistyped
deriving DecidableEq, Repr

def Found.describe : Found → String
  | .null => "null"
  | .flag b => "boolean `" ++ (if b then "true" else "false") ++ "`"
  | .whole n => "integer `" ++ toString n ++ "`"
  | .real x => "floating point `" ++ messageNumber x ++ "`"
  | .text s => "string " ++ String.ofList (quoted s)
  | .list => "sequence"
  | .object => "map"

namespace Error

def category : Error → Category
  | .unclosedList | .unclosedObject | .unclosedText | .missingValue => .cutOff
  | .wrongType _ _ | .outOfRange _ _ | .repeatedField _ => .mistyped
  | _ => .malformed

def message : Error → String
  | .unclosedList => "EOF while parsing a list"
  | .unclosedObject => "EOF while parsing an object"
  | .unclosedText => "EOF while parsing a string"
  | .missingValue => "EOF while parsing a value"
  | .expectedColon => "expected `:`"
  | .expectedListEnd => "expected `,` or `]`"
  | .expectedObjectEnd => "expected `,` or `\x7d`"
  | .expectedLiteral => "expected ident"
  | .expectedValue => "expected value"
  | .badEscape => "invalid escape"
  | .badNumber => "invalid number"
  | .hugeNumber => "number out of range"
  | .controlCharacter => "control character (\\u0000-\\u001F) found while parsing a string"
  | .keyNotText => "key must be a string"
  | .loneSurrogate => "lone leading surrogate in hex escape"
  | .brokenSurrogate => "unexpected end of hex escape"
  | .trailingComma => "trailing comma"
  | .trailingText => "trailing characters"
  | .wrongType found expected => "invalid type: " ++ found.describe ++ ", expected " ++ expected
  | .outOfRange found expected =>
    "invalid value: " ++ (Found.whole found).describe ++ ", expected " ++ expected
  | .repeatedField key => "duplicate field `" ++ key ++ "`"

end Error

end Json

end Caption
