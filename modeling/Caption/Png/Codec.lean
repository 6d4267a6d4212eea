import Caption.Error
import Caption.Pixels

/-!
# Encoding pictures

A picture is handed to a codec once its data is known to suffice; bytes behind the last pixel are
left out. What a codec refuses is reported with its reason.

## Main definitions

* `Png.Codec`: pictures as image files and back
* `Png.encode`: the file of a picture, or why there is none
-/
namespace Caption

namespace Png

structure Codec where
  /-- The file of a picture whose data is as long as its size says, or why there is none. -/
  encode : Pixels → Except String ByteArray
  decode? : ByteArray → Option Pixels

/-- The picture without the bytes behind a length. -/
def cutTo (length : Nat) (p : Pixels) : Pixels := { p with data := p.data.extract 0 length }

def encode (codec : Codec) (p : Pixels) : Checked (Except ExportError ByteArray) := do
  let expected ← p.canvas.byteLength
  if p.data.size < expected.toNat then
    return .error (.bufferTooSmall p.width p.height expected p.data.size.toUInt64)
  else
    return (codec.encode (cutTo expected.toNat p)).mapError fun reason =>
      .encodingFailed ("PNG encoding failed: " ++ reason)

end Png

end Caption
