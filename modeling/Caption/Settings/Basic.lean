/-!
# Settings

What a host hands to a caption. Colours are `0xRRGGBB`, opacities are percentages;
alignments are kept as they are written.
-/
namespace Caption

structure FontSettings where
  face : String
  size : Int64
  /-- Style bits. -/
  flags : UInt32
deriving DecidableEq, Repr

namespace FontSettings

def default : FontSettings := ⟨"Arial", 22, 0⟩

instance : Inhabited FontSettings := ⟨default⟩

end FontSettings

structure Settings where
  text : String
  readFromFile : Bool
  file : String
  font : FontSettings
  color : UInt32
  opacity : UInt32
  backColor : UInt32
  backOpacity : UInt32
  align : String
  valign : String
  vertical : Bool
  outline : Bool
  outlineSize : UInt32
  outlineColor : UInt32
  outlineOpacity : UInt32
  extents : Bool
  extentsWrap : Bool
  extentsWidth : UInt32
  extentsHeight : UInt32
deriving DecidableEq, Repr

namespace Settings

/-- The settings of a caption that nobody has changed. -/
def default : Settings where
  text := ""
  readFromFile := false
  file := ""
  font := .default
  color := 0xFFFFFF
  opacity := 100
  backColor := 0
  backOpacity := 0
  align := "left"
  valign := "top"
  vertical := false
  outline := false
  outlineSize := 2
  outlineColor := 0xFFFFFF
  outlineOpacity := 100
  extents := false
  extentsWrap := false
  extentsWidth := 100
  extentsHeight := 100

instance : Inhabited Settings := ⟨default⟩

end Settings

end Caption
