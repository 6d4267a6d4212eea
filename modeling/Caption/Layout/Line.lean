import Caption.Font.Basic
import Caption.Geometry
import Caption.Text.WordBreak

/-!
# Lines

Text is cut into lines at line feeds and, under a limit, at word boundaries: each line takes
as many segments as fit. Blanks at such a break are dropped; a word longer than the limit is
cut between characters.

## Main definitions

* `Line`: characters and their length
* `Font.flow`: what a character adds to a line
* `paragraphs`: the pieces between line feeds
* `wrap`: the lines of one paragraph under a limit
* `breakLines`: the lines of a text
* `blockSize`: the size of lines put together
-/
namespace Caption

structure Line (α : Type) where
  chars : List Char
  advance : α
deriving DecidableEq, Repr, Inhabited

variable {α : Type} [Scalar α]

open Scalar

/-- How far a character moves the pen in the direction of reading. -/
def Font.flow (f : Font α) (vertical : Bool) (c : Char) : α :=
  if vertical then f.cellHeight else f.advance c

/-- The length of a text whose characters have these advances. -/
def measure (advance : Char → α) (s : List Char) : α :=
  s.foldl (fun sum c => sum + advance c) zero

/-! ## Paragraphs -/

/-- The pieces of a text between line feeds. -/
def paragraphs : List Char → List (List Char)
  | [] => [[]]
  | c :: cs =>
    if c = '\n' then [] :: paragraphs cs
    else
      match paragraphs cs with
      | [] => [[c]]
      | p :: ps => (c :: p) :: ps

/-- Drops one carriage return from the end. -/
def dropReturn (s : List Char) : List Char :=
  if s.getLast? = some '\r' then s.dropLast else s

/-! ## Wrapping -/

namespace Line

def empty : Line α := ⟨[], zero⟩

def append (l : Line α) (s : List Char) (advance : α) : Line α :=
  ⟨l.chars ++ s, l.advance + advance⟩

/-- A line that is closed at a soft break, without the blanks at its end. -/
def trimmed (advance : Char → α) (l : Line α) : Line α :=
  let s := trimEnd l.chars
  ⟨s, measure advance s⟩

end Line

/-- Slack in comparing a line with its limit. -/
def fitSlack : α := decimal 1 3

def fits (limit length : α) : Bool := le length (limit + fitSlack)

def exceeds (limit length : α) : Bool := lt (limit + fitSlack) length

/-- The lines closed so far, the open line, and whether a line was closed at a segment's
start or end. -/
structure Wrapping (α : Type) where
  closed : List (Line α)
  current : Line α
  softBreak : Bool

namespace Wrapping

def start : Wrapping α := ⟨[], .empty, false⟩

/-- Closes the open line. -/
def close (advance : Char → α) (w : Wrapping α) : Wrapping α :=
  { w with closed := w.closed ++ [w.current.trimmed advance], current := .empty }

/-- Adds a character of a word that is longer than the limit. -/
def pushChar (advance : Char → α) (limit : α) (w : Wrapping α) (c : Char) : Wrapping α :=
  let w :=
    if w.current.chars ≠ [] ∧ exceeds limit (w.current.advance + advance c) then w.close advance
    else w
  { w with current := w.current.append [c] (advance c) }

/-- Adds a segment that does not fit the open line: blanks end it, a word starts the next. -/
def pushNext (advance : Char → α) (limit : α) (w : Wrapping α) (segment : List Char) :
    Wrapping α :=
  if segment.all isBlank then { w.close advance with softBreak := true }
  else
    let w := if w.current.chars = [] then w else { w.close advance with softBreak := true }
    let width := measure advance segment
    if fits limit width then { w with current := w.current.append segment width }
    else segment.foldl (pushChar advance limit) w

def push (advance : Char → α) (limit : α) (w : Wrapping α) (segment : List Char) :
    Wrapping α :=
  if segment.all isBlank ∧ w.softBreak ∧ w.current.chars = [] then w
  else
    let width := measure advance segment
    if fits limit (w.current.advance + width) then
      { w with current := w.current.append segment width }
    else w.pushNext advance limit segment

/-- The lines, the open one among them unless it is empty and others are there. -/
def finish (w : Wrapping α) : List (Line α) :=
  if w.current.chars ≠ [] ∨ w.closed = [] then w.closed ++ [w.current] else w.closed

end Wrapping

/-- The lines of one paragraph. -/
def wrap (advance : Char → α) (limit : α) (s : List Char) (cut : Segmenter) : List (Line α) :=
  ((cut.segments s).foldl (Wrapping.push advance limit) .start).finish

/-! ## Texts -/

/-- The lines of one paragraph with or without a limit. -/
def breakParagraph (advance : Char → α) (limit : Option α) (s : List Char)
    (cut : Segmenter) : List (Line α) :=
  match limit with
  | some limit => wrap advance limit s cut
  | none => [⟨s, measure advance s⟩]

def breakLines (advance : Char → α) (limit : Option α) (s : List Char)
    (cut : Segmenter) : List (Line α) :=
  (paragraphs s).flatMap fun p => breakParagraph advance limit (dropReturn p) cut

/-- The length of the longest line, at least zero. -/
def longest (lines : List (Line α)) : α :=
  lines.foldl (fun m l => larger m l.advance) zero

/-- The size of lines put one after another. -/
def blockSize (font : Font α) (vertical : Bool) (lines : List (Line α)) : Size α :=
  let across := font.lineHeight * ofInt lines.length
  if vertical then ⟨across, longest lines⟩ else ⟨longest lines, across⟩

end Caption
