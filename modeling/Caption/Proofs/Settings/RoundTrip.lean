import Caption.Proofs.Json.Written
import Caption.Proofs.Settings.Form
import Caption.Settings.File

/-!
# Settings survive writing

The written form of settings is one of the texts of an object that gives every field, the font
with all of its own, so reading it gives the settings back: every text, character by character,
every number up to the ends of its range and every flag.

## Main statements

* `Settings.spellsWhole_writeWhole`, `Settings.spellsText_writeText`: written values are spellings
* `Settings.parse_toJson`: settings are read back as they were written
-/
namespace Caption

open Json

namespace Settings

/-! ## Values -/

theorem spellsText_writeText (s : String) : SpellsText s (writeText s) :=
  .quoted (Quoted.spells_encode s.toList)

theorem spellsFlag_writeFlag (b : Bool) : SpellsFlag b (writeFlag b) := by
  cases b with
  | true => exact .yes
  | false => exact .no

theorem spellsWhole_writeWhole (n : Int) : SpellsWhole (writeWhole n) n := by
  have hdigits := wholePart_toDigits n.natAbs
  have hvalue : Nat.ofDigitChars 10 (Nat.toDigits 10 n.natAbs) 0 = n.natAbs :=
    Nat.ofDigitChars_ten_toDigits
  unfold writeWhole
  split
  case isTrue hneg =>
    have hne : Nat.toDigits 10 n.natAbs ≠ ['0'] := by
      intro hzero
      rw [hzero] at hvalue
      have : (0 : Nat) = n.natAbs := hvalue
      omega
    have hspells := SpellsWhole.neg hdigits hne
    rwa [hvalue, show -(n.natAbs : Int) = n by omega] at hspells
  case isFalse hneg =>
    have hspells := SpellsWhole.nonneg hdigits
    rwa [hvalue, show (n.natAbs : Int) = n by omega] at hspells

theorem spellsWord_writeWord (n : UInt32) : SpellsWord n (writeWord n) :=
  spellsWhole_writeWhole n.toNat

theorem spellsSize_writeWhole (n : Int64) : SpellsSize n (writeWhole n.toInt) :=
  spellsWhole_writeWhole n.toInt

/-! ## Records -/

def FontField.value : ∀ f : FontField, FontSettings → f.Value
  | face, x => x.face
  | size, x => x.size
  | flags, x => x.flags

def fontWriting : Writing fontForm where
  value := FontField.value
  spells f depth x := by
    cases f with
    | face => exact spellsText_writeText x.face
    | size => exact spellsSize_writeWhole x.size
    | flags => exact spellsWord_writeWord x.flags
  again?_value _ _ := rfl
  plain_key f := by cases f <;> decide
  nodup := by decide
  ne_nil := by decide
  fill_start _ := rfl

namespace Field

def value : ∀ f : Field, Settings → f.Value
  | text, x => x.text
  | readFromFile, x => x.readFromFile
  | file, x => x.file
  | font, x => fontWriting.members x.font
  | color, x => x.color
  | opacity, x => x.opacity
  | backColor, x => x.backColor
  | backOpacity, x => x.backOpacity
  | align, x => x.align
  | valign, x => x.valign
  | vertical, x => x.vertical
  | outline, x => x.outline
  | outlineSize, x => x.outlineSize
  | outlineColor, x => x.outlineColor
  | outlineOpacity, x => x.outlineOpacity
  | extents, x => x.extents
  | extentsWrap, x => x.extentsWrap
  | extentsWidth, x => x.extentsWidth
  | extentsHeight, x => x.extentsHeight

theorem spells_write (f : Field) (depth : Nat) (x : Settings) :
    f.Spells (f.value x) (f.write depth x) := by
  cases f with
  | text | file | align | valign => exact spellsText_writeText _
  | readFromFile | vertical | outline | extents | extentsWrap => exact spellsFlag_writeFlag _
  | color | opacity | backColor | backOpacity | outlineSize | outlineColor | outlineOpacity
  | extentsWidth | extentsHeight => exact spellsWord_writeWord _
  | font => exact fontWriting.spellsObject_write depth x.font

theorem again?_value (f : Field) (x : Settings) : f.again? (f.value x) = none := by
  cases f with
  | font => exact Json.Form.repeated?_eq_none_iff.2 (fontWriting.distinct_members x.font)
  | _ => rfl

end Field

def writing : Writing form where
  value := Field.value
  spells := Field.spells_write
  again?_value := Field.again?_value
  plain_key f := by cases f <;> decide
  nodup := by decide
  ne_nil := by decide
  fill_start s := by
    have hfont := fontWriting.fill_start s.font
    simp only [record, form, Field.all, List.map, Json.Form.fill, List.foldl, Json.Form.replace,
      Field.put, Field.value]
    exact congrArg (fun font => { s with font }) hfont

/-- All settings are read back as they were written. -/
theorem parse_toJson (s : Settings) : parse (toJson s) = .ok s := by
  have hread : record.ofText (record.write 0 s) = .ok s := writing.ofText_write s
  rw [parse, ofJson, toJson, String.toList_ofList, hread]

end Settings

end Caption
