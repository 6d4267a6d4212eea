/-!
# Mac Roman

An encoding of one byte a character. Its lower half is ASCII.
-/
namespace Caption

namespace MacRoman

/-- The characters of the bytes from 128 on. -/
def upperHalf : Array Char :=
  ("ÄÅÇÉÑÖÜáàâäãåçéèêëíìîïñóòôöõúùûü" ++
    "†°¢£§•¶ß®©™´¨≠ÆØ∞±≤≥¥µ∂∑∏π∫ªºΩæø" ++
    "¿¡¬√ƒ≈∆«»…\u00a0ÀÃÕŒœ–—“”‘’÷◊ÿŸ⁄€‹›ﬁﬂ" ++
    "‡·‚„‰ÂÊÁËÈÍÎÏÌÓÔ\uf8ffÒÚÛÙı\u02c6˜¯˘˙˚¸˝˛\u02c7").toList.toArray

def charOfByte (b : UInt8) : Char :=
  if b < 128 then Char.ofNat b.toNat else upperHalf.getD (b.toNat - 128) '\uFFFD'

def decode (bs : List UInt8) : List Char := bs.map charOfByte

end MacRoman

end Caption
