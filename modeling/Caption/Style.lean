/-!
# Style and alignment

What settings say about the look of the letters and the place of the text.
-/
namespace Caption

structure Style where
  bold : Bool
  italic : Bool
  underline : Bool
  strikeout : Bool
deriving DecidableEq, Repr, Inhabited

namespace Style

def plain : Style := ⟨false, false, false, false⟩

/-- The lowest four bits, from the lowest: bold, italic, underline, strikeout. -/
def ofBits (bits : UInt32) : Style :=
  ⟨bits &&& 1 ≠ 0, bits &&& 2 ≠ 0, bits &&& 4 ≠ 0, bits &&& 8 ≠ 0⟩

def bits (s : Style) : UInt32 :=
  (if s.bold then 1 else 0) + (if s.italic then 2 else 0) + (if s.underline then 4 else 0) +
    (if s.strikeout then 8 else 0)

/-- The names of what is set, in the order of the bits. -/
def names (s : Style) : List String :=
  (if s.bold then ["BOLD"] else []) ++ (if s.italic then ["ITALIC"] else []) ++
    (if s.underline then ["UNDERLINE"] else []) ++ (if s.strikeout then ["STRIKEOUT"] else [])

/-- How the log shows a style. -/
def logText (s : Style) : String :=
  "FontFlags(" ++ (if s.names = [] then "0x0" else " | ".intercalate s.names) ++ ")"

end Style

inductive HorizontalAlign where
  | left | center | right
deriving DecidableEq, Repr, Inhabited

namespace HorizontalAlign

/-- Unknown names mean `left`. -/
def ofName (name : String) : HorizontalAlign :=
  if name = "center" then center else if name = "right" then right else left

def name : HorizontalAlign → String
  | left => "left"
  | center => "center"
  | right => "right"

end HorizontalAlign

inductive VerticalAlign where
  | top | center | bottom
deriving DecidableEq, Repr, Inhabited

namespace VerticalAlign

/-- Unknown names mean `top`. -/
def ofName (name : String) : VerticalAlign :=
  if name = "center" then center else if name = "bottom" then bottom else top

def name : VerticalAlign → String
  | top => "top"
  | center => "center"
  | bottom => "bottom"

end VerticalAlign

end Caption
