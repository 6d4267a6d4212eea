import Caption.Text.Printable
import Caption.Text.WordClass

/-!
# Quoted text

How messages and the log show a piece of text: in double quotes, with short escapes for the
usual controls and the code point of everything that would not show as itself.

## Main definitions

* `Quoted.escape`: one character between the quotes
* `quoted`: a whole text
-/
namespace Caption

namespace Quoted

/-- Marks that extend the character before them do not show alone either. -/
def showsAlone (c : Char) : Bool :=
  !WordClass.within Printable.exceptions c && !WordClass.within WordClass.extendRanges c

def escape (c : Char) : List Char :=
  match c with
  | '\x00' => ['\\', '0']
  | '\t' => ['\\', 't']
  | '\r' => ['\\', 'r']
  | '\n' => ['\\', 'n']
  | '"' => ['\\', '"']
  | '\\' => ['\\', '\\']
  | _ =>
    if showsAlone c then [c]
    else '\\' :: 'u' :: '{' :: Nat.toDigits 16 c.toNat ++ ['}']

end Quoted

def quoted (s : List Char) : List Char := '"' :: s.flatMap Quoted.escape ++ ['"']

end Caption
