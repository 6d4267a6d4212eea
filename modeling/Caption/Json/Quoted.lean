import Caption.Json.Error
import Caption.Text.Utf16

/-!
# JSON strings

A string in its written form and back. Written strings escape quotes, backslashes and control
codes only; read strings may escape any character, outside the first plane as a pair of
surrogates.

## Main definitions

* `Json.Quoted.encode`: the characters between the quotes
* `Json.scanText`: reads on after an opening quote
* `Json.skipText`: passes over a string without decoding it
-/
namespace Caption

namespace Json

/-! ## Writing -/

namespace Quoted

def encodeChar (c : Char) : List Char :=
  match c with
  | '"' => ['\\', '"']
  | '\\' => ['\\', '\\']
  | '\x08' => ['\\', 'b']
  | '\x0C' => ['\\', 'f']
  | '\n' => ['\\', 'n']
  | '\r' => ['\\', 'r']
  | '\t' => ['\\', 't']
  | _ =>
    if c.toNat < 0x20 then
      ['\\', 'u', '0', '0', Nat.digitChar (c.toNat / 16), Nat.digitChar (c.toNat % 16)]
    else [c]

def encode (s : List Char) : List Char := s.flatMap encodeChar

end Quoted

/-- A string with its quotes. -/
def textLiteral (s : List Char) : List Char := '"' :: Quoted.encode s ++ ['"']

/-! ## Reading -/

def hexDigit? (c : Char) : Option Nat :=
  if '0' ≤ c && c ≤ '9' then some (c.toNat - '0'.toNat)
  else if 'a' ≤ c && c ≤ 'f' then some (c.toNat - 'a'.toNat + 10)
  else if 'A' ≤ c && c ≤ 'F' then some (c.toNat - 'A'.toNat + 10)
  else none

/-- Four hexadecimal digits. The text counts as cut off when fewer than four bytes are left. -/
def scanHex : List Char → Except Error (Nat × List Char)
  | a :: b :: c :: d :: rest =>
    match hexDigit? a, hexDigit? b, hexDigit? c, hexDigit? d with
    | some a, some b, some c, some d => .ok (((a * 16 + b) * 16 + c) * 16 + d, rest)
    | _, _, _, _ => .error .badEscape
  | few => if (String.ofList few).utf8ByteSize < 4 then .error .unclosedText else .error .badEscape

/-- The second half of a pair. -/
def scanTrail (high : Nat) : List Char → Except Error (Char × List Char)
  | [] => .error .unclosedText
  | ['\\'] => .error .unclosedText
  | '\\' :: 'u' :: cs => do
    let (low, rest) ← scanHex cs
    if Utf16.isLow low then .ok (Utf16.pair high low, rest)
    else .error .loneSurrogate
  | _ => .error .brokenSurrogate

/-- What a one-letter escape stands for. -/
def shortEscape? : Char → Option Char
  | '"' => some '"'
  | '\\' => some '\\'
  | '/' => some '/'
  | 'b' => some '\x08'
  | 'f' => some '\x0C'
  | 'n' => some '\n'
  | 'r' => some '\r'
  | 't' => some '\t'
  | _ => none

/-- The character of an escape, after its backslash. -/
def scanEscape : List Char → Except Error (Char × List Char)
  | [] => .error .unclosedText
  | 'u' :: cs => do
    let (n, rest) ← scanHex cs
    if Utf16.isLow n then .error .loneSurrogate
    else if Utf16.isHigh n then scanTrail n rest
    else .ok (Char.ofNat n, rest)
  | c :: rest =>
    match shortEscape? c with
    | some d => .ok (d, rest)
    | none => .error .badEscape

/-- Reads to the closing quote, given what was read so far in reverse. -/
def scanTextWith : Nat → List Char → List Char → Except Error (List Char × List Char)
  | 0, _, _ => .error .unclosedText
  | _ + 1, _, [] => .error .unclosedText
  | fuel + 1, read, c :: cs =>
    if c = '"' then .ok (read.reverse, cs)
    else if c = '\\' then do
      let (d, rest) ← scanEscape cs
      scanTextWith fuel (d :: read) rest
    else if c.toNat < 0x20 then .error .controlCharacter
    else scanTextWith fuel (c :: read) cs

def scanText (cs : List Char) : Except Error (List Char × List Char) :=
  scanTextWith (cs.length + 1) [] cs

/-! ## Passing over -/

/-- Passes over an escape; surrogates need not be paired here. -/
def skipEscape : List Char → Except Error (List Char)
  | [] => .error .unclosedText
  | 'u' :: cs => do
    let (_, rest) ← scanHex cs
    .ok rest
  | c :: rest =>
    match shortEscape? c with
    | some _ => .ok rest
    | none => .error .badEscape

def skipTextWith : Nat → List Char → Except Error (List Char)
  | 0, _ => .error .unclosedText
  | _ + 1, [] => .error .unclosedText
  | fuel + 1, c :: cs =>
    if c = '"' then .ok cs
    else if c = '\\' then do
      let rest ← skipEscape cs
      skipTextWith fuel rest
    else if c.toNat < 0x20 then .error .controlCharacter
    else skipTextWith fuel cs

def skipText (cs : List Char) : Except Error (List Char) := skipTextWith (cs.length + 1) cs

end Json

end Caption
