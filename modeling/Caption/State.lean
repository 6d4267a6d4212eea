import Caption.Canvas
import Caption.Color
import Caption.Log
import Caption.Settings.Basic
import Caption.Style

/-!
# State of a caption

Settings made ready for measuring and drawing: the text is at hand, names are decided,
colours have red in their low byte.

## Main definitions

* `State`: the ready form
* `State.apply`: takes over settings, keeping what they do not decide
* `State.ofSettings`: the state of a new caption
-/
namespace Caption

/-- The font that is asked for. One point is one pixel. -/
structure FontRequest where
  face : String
  size : Int32
  style : Style
deriving DecidableEq, Repr

/-- Gives the text of a file; what cannot be read is empty. -/
abbrev TextReader := String → Logged (List Char)

/-- States are made from settings, so every number is one of theirs. An outline is a whole number
of pixels wide; scalars take it over where it is measured. -/
structure State where
  text : List Char
  readFromFile : Bool
  file : String
  font : FontRequest
  color : UInt32
  opacity : UInt32
  backColor : UInt32
  backOpacity : UInt32
  align : HorizontalAlign
  valign : VerticalAlign
  vertical : Bool
  outline : Bool
  outlineSize : UInt32
  outlineColor : UInt32
  outlineOpacity : UInt32
  extents : Bool
  wrap : Bool
  extentsWidth : UInt32
  extentsHeight : UInt32
  canvas : Canvas
deriving DecidableEq, Repr

/-- Drops one line feed from the end, and a carriage return before it. -/
def dropLineEnd (s : List Char) : List Char :=
  match s.reverse with
  | '\n' :: '\r' :: rest => rest.reverse
  | '\n' :: rest => rest.reverse
  | _ => s

namespace FontRequest

def maxSize : Int64 := 2147483647

/-- Sizes are held within what a request can carry. -/
def clampSize (size : Int64) : Int32 :=
  if size < 0 then 0 else if maxSize < size then Int32.ofInt maxSize.toInt else size.toInt32

def ofSettings (f : FontSettings) : FontRequest :=
  ⟨f.face, clampSize f.size, .ofBits f.flags⟩

end FontRequest

namespace State

/-- The state before any settings. -/
def initial : State where
  text := []
  readFromFile := false
  file := ""
  font := ⟨"", 0, .plain⟩
  color := 0
  opacity := 0
  backColor := 0
  backOpacity := 0
  align := .left
  valign := .top
  vertical := false
  outline := false
  outlineSize := 0
  outlineColor := 0
  outlineOpacity := 0
  extents := false
  wrap := false
  extentsWidth := 0
  extentsHeight := 0
  canvas := ⟨0, 0⟩

instance : Inhabited State := ⟨initial⟩

/-- The text that settings ask for. -/
def sourceText (s : Settings) (read : TextReader) : Logged (List Char) :=
  if s.readFromFile then read s.file else pure s.text.toList

/-- Takes over settings with the text they ask for. The canvas stays, and so does the file's
name while the text is typed. -/
def withText (st : State) (s : Settings) (text : List Char) : State where
  text := dropLineEnd text
  readFromFile := s.readFromFile
  file := if s.readFromFile then s.file else st.file
  font := .ofSettings s.font
  color := swapRedBlue s.color
  opacity := s.opacity
  backColor := swapRedBlue s.backColor
  backOpacity := s.backOpacity
  align := .ofName s.align
  valign := .ofName s.valign
  vertical := s.vertical
  outline := s.outline
  outlineSize := s.outlineSize
  outlineColor := swapRedBlue s.outlineColor
  outlineOpacity := s.outlineOpacity
  extents := s.extents
  wrap := s.extentsWrap
  extentsWidth := s.extentsWidth
  extentsHeight := s.extentsHeight
  canvas := st.canvas

def apply (st : State) (s : Settings) (read : TextReader) : Logged State := do
  let text ← sourceText s read
  return st.withText s text

def ofSettings (s : Settings) (read : TextReader) : Logged State := initial.apply s read

def fillColor (st : State) : NativeColor := .ofBgr st.color st.opacity

def strokeColor (st : State) : NativeColor := .ofBgr st.outlineColor st.outlineOpacity

/-- Transparent behind an empty text, unless the size is fixed. -/
def backgroundColor (st : State) : NativeColor :=
  let c := NativeColor.ofBgr st.backColor st.backOpacity
  if st.text = [] ∧ !st.extents then c.withoutAlpha else c

/-- The width of the outline, zero while it is off. -/
def inset (st : State) : UInt32 := if st.outline then st.outlineSize else 0

end State

end Caption
