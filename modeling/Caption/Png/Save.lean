import Caption.FileTree
import Caption.Log
import Caption.Png.Codec

/-!
# Saving images
-/
namespace Caption

namespace Png

/-- What the log says about a file that was written. -/
def savedText (p : Pixels) (size : Nat) (path : String) : String :=
  "Wrote " ++ extent p.width p.height ++ " PNG (" ++ toString size ++ " bytes) to " ++ path

/-- Writes a picture to a file. The files change only if the picture has a file and its place
can be written. -/
def write (codec : Codec) (p : Pixels) (path : String) :
    StateT FileTree Logged (Checked (Except Error Unit)) := fun files =>
  match encode codec p with
  | .error .overflow => return (.error .overflow, files)
  | .ok (.error cause) => return (.ok (.error (.image cause)), files)
  | .ok (.ok bytes) =>
    match files.write path bytes with
    | .error cause => return (.ok (.error (.file cause)), files)
    | .ok files => do
      Logged.detail (savedText p bytes.size path)
      return (.ok (.ok ()), files)

/-- The files with the picture in them, if it was written. -/
def save (codec : Codec) (p : Pixels) (path : String) (files : FileTree) :
    Logged (Checked (Except Error FileTree)) := do
  let (result, files) ← write codec p path files
  return result.map fun answer => answer.map fun () => files

end Png

end Caption
