import Caption.Text.WordClass

/-!
# Word boundaries

Text is cut between words by the default rules of Unicode: letters, digits and the marks
inside numbers and abbreviations hold together, marks and format characters stay with what
they follow, runs of spaces hold together, and everything else stands alone.

A pass from left to right keeps what the rules need of the text before (`Before`) and looks
ahead past marks for the one class they need of the text after.

## Main definitions

* `WordBreak.Before.joins`: whether the next character continues the current word
* `wordSegments`: the words, blanks and marks of a text in order
* `Segmenter`: any way to cut texts; `Segmenter.words` is the one by words

## Main statements

* `flatten_wordSegments`: the segments put together are the text
* `ne_nil_of_mem_wordSegments`: no segment is empty
-/
namespace Caption

open WordClass

namespace WordBreak

/-- Marks and format characters, which stay with the character before them. -/
def isTrailing : WordClass → Bool
  | .extend | .spacingMark | .modifier | .joiner | .format => true
  | _ => false

def isLineEnd : WordClass → Bool
  | .carriageReturn | .lineFeed | .newline => true
  | _ => false

def isLetter : WordClass → Bool
  | .letter | .hebrew => true
  | _ => false

/-- Characters that may stand between two letters of a word. -/
def linksLetters : WordClass → Bool
  | .midLetter | .midNumLet | .singleQuote => true
  | _ => false

/-- Characters that may stand between two digits of a number. -/
def linksDigits : WordClass → Bool
  | .midNum | .midNumLet | .singleQuote => true
  | _ => false

/-- The text before a boundary: the last class, the last class that is no trailing mark, the
one before that, and whether an odd number of regional indicators ends it. -/
structure Before where
  last : WordClass
  base : WordClass
  earlier : WordClass
  oddRegional : Bool

namespace Before

def start (c : WordClass) : Before := ⟨c, c, .other, c == .regional⟩

/-- The text before with one more character. -/
def push (b : Before) (c : WordClass) : Before :=
  if isTrailing c && !isLineEnd b.last then { b with last := c }
  else ⟨c, c, b.base, c == .regional && !(b.base == .regional && b.oddRegional)⟩

/-- Whether letters and digits with the connectors among them go on with `c`. -/
def joinsWord (b : Before) (c next : WordClass) : Bool :=
  (isLetter b.base && isLetter c) ||
  (isLetter b.base && linksLetters c && isLetter next) ||
  (isLetter b.earlier && linksLetters b.base && isLetter c) ||
  (b.base == .hebrew && c == .singleQuote) ||
  (b.base == .hebrew && c == .doubleQuote && next == .hebrew) ||
  (b.earlier == .hebrew && b.base == .doubleQuote && c == .hebrew) ||
  (b.base == .numeric && c == .numeric) ||
  (isLetter b.base && c == .numeric) ||
  (b.base == .numeric && isLetter c) ||
  (b.earlier == .numeric && linksDigits b.base && c == .numeric) ||
  (b.base == .numeric && linksDigits c && next == .numeric) ||
  (b.base == .katakana && c == .katakana) ||
  ((isLetter b.base || b.base == .numeric || b.base == .katakana || b.base == .extendNumLet) &&
    c == .extendNumLet) ||
  (b.base == .extendNumLet && (isLetter c || c == .numeric || c == .katakana)) ||
  (b.base == .regional && c == .regional && b.oddRegional)

/-- Whether `c` continues the segment; `next` is the class after `c` and its trailing marks. -/
def joins (b : Before) (c : WordClass) (pictograph : Bool) (next : WordClass) : Bool :=
  if b.last == .carriageReturn && c == .lineFeed then true
  else if isLineEnd b.last || isLineEnd c then false
  else if b.last == .joiner && pictograph then true
  else if b.last == .space && c == .space then true
  else isTrailing c || b.joinsWord c next

end Before

/-- The first class of a text that is no trailing mark. -/
def nextClass : List Char → WordClass
  | [] => .other
  | c :: cs => if isTrailing (ofChar c) then nextClass cs else ofChar c

/-- Cuts `cs`, given the text before and the open segment in reverse. -/
def cut (b : Before) (current : List Char) : List Char → List (List Char)
  | [] => [current.reverse]
  | c :: cs =>
    let k := ofChar c
    if b.joins k (isPictograph c) (nextClass cs) then cut (b.push k) (c :: current) cs
    else current.reverse :: cut (b.push k) [c] cs

end WordBreak

/-- The segments between word boundaries, in order. -/
def wordSegments : List Char → List (List Char)
  | [] => []
  | c :: cs => WordBreak.cut (.start (ofChar c)) [c] cs

namespace WordBreak

theorem flatten_cut (b : Before) (current cs : List Char) :
    (cut b current cs).flatten = current.reverse ++ cs := by
  induction cs generalizing b current with
  | nil => simp [cut]
  | cons c cs ih =>
    simp only [cut]
    split <;> simp [ih]

theorem ne_nil_of_mem_cut (b : Before) (current cs : List Char) (h : current ≠ []) :
    ∀ s ∈ cut b current cs, s ≠ [] := by
  induction cs generalizing b current with
  | nil => simpa [cut] using h
  | cons c cs ih =>
    simp only [cut]
    split
    · exact ih _ _ (by simp)
    · intro s hs
      rcases List.mem_cons.1 hs with rfl | hs
      · simpa using h
      · exact ih _ _ (by simp) s hs

end WordBreak

theorem flatten_wordSegments (s : List Char) : (wordSegments s).flatten = s := by
  cases s with
  | nil => rfl
  | cons c cs => simp [wordSegments, WordBreak.flatten_cut]

theorem ne_nil_of_mem_wordSegments {s w : List Char} (h : w ∈ wordSegments s) : w ≠ [] := by
  cases s with
  | nil => simp [wordSegments] at h
  | cons c cs => exact WordBreak.ne_nil_of_mem_cut _ _ _ (by simp) w h

/-- A way to cut texts at boundaries. Scripts that are written without blanks need a dictionary
for it. -/
structure Segmenter where
  segments : List Char → List (List Char)
  flatten_segments : ∀ s, (segments s).flatten = s
  ne_nil_of_mem : ∀ {s w}, w ∈ segments s → w ≠ []

namespace Segmenter

/-- The default rules, without a dictionary. -/
def words : Segmenter := ⟨wordSegments, flatten_wordSegments, ne_nil_of_mem_wordSegments⟩

instance : Inhabited Segmenter := ⟨words⟩

end Segmenter

end Caption
