import Caption.FileTree
import Caption.State
import Caption.Text.Utf8

/-!
# Reading texts and settings from files

A text file is read forgivingly: bytes that are no text are replaced, an order mark at the
front is dropped, and a file that cannot be read counts as empty. Settings are read strictly.
-/
namespace Caption

/-- The text that the bytes of a file stand for. -/
def textOfBytes (bs : List UInt8) : List Char := Utf8.dropOrderMark (Utf8.decode bs)

namespace FileTree

/-- Without a path nothing is read and nothing is reported. -/
def readText (t : FileTree) : TextReader := fun path =>
  if path = "" then pure []
  else
    match t.read path with
    | .ok bytes => pure (textOfBytes bytes.toList)
    | .error cause => do
      Logged.warn ("Failed to read text file '" ++ path ++ "': " ++ cause.message)
      return []

end FileTree

end Caption
