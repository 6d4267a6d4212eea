import Mathlib.Data.List.Nodup
import Caption.Proofs.Json.Object
import Caption.Settings.Json

/-!
# How settings are given in objects

The values of each field, their spellings and what they replace, for the font and for the
settings that hold it. A font is an object of its own.

## Main definitions

* `Settings.fontForm`: the fields of the font
* `Settings.form`: the fields of the settings
-/
namespace Caption

open Json

namespace Settings

/-! ## Values -/

inductive SpellsText (s : String) : List Char → Prop where
  | quoted {t : List Char} (h : Quoted.Spells t s.toList) : SpellsText s ('"' :: t ++ ['"'])

inductive SpellsFlag : Bool → List Char → Prop where
  | yes : SpellsFlag true ['t', 'r', 'u', 'e']
  | no : SpellsFlag false ['f', 'a', 'l', 's', 'e']

def SpellsWord (n : UInt32) (t : List Char) : Prop := SpellsWhole t n.toNat

def SpellsSize (n : Int64) (t : List Char) : Prop := SpellsWhole t n.toInt

section Values

variable {t b rest : List Char}

theorem SpellsText.read {s : String} (h : SpellsText s t) (hb : Blanks b) (rest : List Char) :
    readText (b ++ (t ++ rest)) = .ok (s, rest) := by
  obtain ⟨h⟩ := h
  have hquote (cs : List Char) : skipBlanks ('"' :: cs) = '"' :: cs := skipBlanks_cons rfl cs
  simp [readText, hb.skip, hquote, h.scan, Except.map]

theorem SpellsFlag.read {v : Bool} (h : SpellsFlag v t) (hb : Blanks b) (rest : List Char) :
    readFlag (b ++ (t ++ rest)) = .ok (v, rest) := by
  rw [readFlag, hb.skip]
  cases h <;> rfl

theorem SpellsWord.read {n : UInt32} (h : SpellsWord n t) (hb : Blanks b)
    (hrest : Delimited rest) : readWord (b ++ (t ++ rest)) = .ok (n, rest) := by
  have hsize : n.toNat < 0x100000000 := n.toNat_lt
  have hread := SpellsWhole.read h "u32" 0 0xFFFFFFFF (by decide) (by decide) (by omega) hb hrest
  simp [readWord, hread, Except.map]

theorem SpellsSize.read {n : Int64} (h : SpellsSize n t) (hb : Blanks b)
    (hrest : Delimited rest) : readSize (b ++ (t ++ rest)) = .ok (n, rest) := by
  have hlow := n.le_toInt
  have hhigh := n.toInt_lt
  have hread := SpellsWhole.read h "i64" (-0x8000000000000000) 0x7FFFFFFFFFFFFFFF (by decide)
    (by decide) (by omega) hb hrest
  simp [readSize, hread, Except.map]

end Values

/-! ## The font -/

namespace FontField

def Value : FontField → Type
  | face => String
  | size => Int64
  | flags => UInt32

def Spells : ∀ f : FontField, f.Value → List Char → Prop
  | face => SpellsText
  | size => SpellsSize
  | flags => SpellsWord

def put : ∀ f : FontField, f.Value → FontSettings → FontSettings
  | face, v, x => { x with face := v }
  | size, v, x => { x with size := v }
  | flags, v, x => { x with flags := v }

end FontField

/-- A font field holds one value, and nothing in it can be given twice. -/
def fontForm : Json.Form fontRecord where
  Value := FontField.Value
  Spells := FontField.Spells
  put := FontField.put
  again? _ _ := none
  Alike _ v w := v = w
  mem_fields f := by cases f <;> decide
  key_injective f g h := by cases f <;> cases g <;> first | rfl | exact absurd h (by decide)
  readField_eq {f v t b rest} h hb hrest x := by
    cases f with
    | face => exact congrArg (Except.map _) (SpellsText.read h hb rest)
    | size => exact congrArg (Except.map _) (SpellsSize.read h hb hrest)
    | flags => exact congrArg (Except.map _) (SpellsWord.read h hb hrest)
  put_comm {f g} hne v w x := by cases f <;> cases g <;> first | rfl | exact absurd rfl hne
  again?_alike _ := Iff.rfl
  put_alike h _ := by rw [h]

abbrev FontMember : Type := Json.Member FontField.Value

/-! ## The settings -/

namespace Field

/-- A font is given by members of its own. -/
def Value : Field → Type
  | text | file | align | valign => String
  | readFromFile | vertical | outline | extents | extentsWrap => Bool
  | color | opacity | backColor | backOpacity | outlineSize | outlineColor | outlineOpacity
  | extentsWidth | extentsHeight => UInt32
  | font => List FontMember

def Spells : ∀ f : Field, f.Value → List Char → Prop
  | text | file | align | valign => SpellsText
  | readFromFile | vertical | outline | extents | extentsWrap => SpellsFlag
  | color | opacity | backColor | backOpacity | outlineSize | outlineColor | outlineOpacity
  | extentsWidth | extentsHeight => SpellsWord
  | font => fontForm.SpellsObject

def put : ∀ f : Field, f.Value → Settings → Settings
  | text, v, x => { x with text := v }
  | readFromFile, v, x => { x with readFromFile := v }
  | file, v, x => { x with file := v }
  | font, v, x => { x with font := fontForm.fill v .default }
  | color, v, x => { x with color := v }
  | opacity, v, x => { x with opacity := v }
  | backColor, v, x => { x with backColor := v }
  | backOpacity, v, x => { x with backOpacity := v }
  | align, v, x => { x with align := v }
  | valign, v, x => { x with valign := v }
  | vertical, v, x => { x with vertical := v }
  | outline, v, x => { x with outline := v }
  | outlineSize, v, x => { x with outlineSize := v }
  | outlineColor, v, x => { x with outlineColor := v }
  | outlineOpacity, v, x => { x with outlineOpacity := v }
  | extents, v, x => { x with extents := v }
  | extentsWrap, v, x => { x with extentsWrap := v }
  | extentsWidth, v, x => { x with extentsWidth := v }
  | extentsHeight, v, x => { x with extentsHeight := v }

def again? : ∀ f : Field, f.Value → Option String
  | font, v => fontForm.repeated? v
  | _, _ => none

def Alike : ∀ f : Field, f.Value → f.Value → Prop
  | font, v, w => fontForm.Rearranged v w
  | _, v, w => v = w

theorem key_injective (f g : Field) (h : f.key = g.key) : f = g := by
  have hnodup : (all.map key).Nodup := by decide
  have hmem (f : Field) : f ∈ all := by cases f <;> decide
  exact List.inj_on_of_nodup_map hnodup (hmem f) (hmem g) h

theorem readField_eq {f : Field} {v : f.Value} {t b rest : List Char} (h : f.Spells v t)
    (hb : Blanks b) (hrest : Delimited rest) (x : Settings) :
    f.read x (b ++ (t ++ rest)) = unlessRepeated (f.again? v) (f.put v x, rest) := by
  cases f with
  | text | file | align | valign => exact congrArg (Except.map _) (SpellsText.read h hb rest)
  | readFromFile | vertical | outline | extents | extentsWrap =>
    exact congrArg (Except.map _) (SpellsFlag.read h hb rest)
  | color | opacity | backColor | backOpacity | outlineSize | outlineColor | outlineOpacity
  | extentsWidth | extentsHeight => exact congrArg (Except.map _) (SpellsWord.read h hb hrest)
  | font =>
    calc (fontRecord.read (b ++ (t ++ rest))).map _
        = (unlessRepeated (fontForm.repeated? v) (fontForm.fill v .default, rest)).map _ :=
          congrArg (Except.map _) (Json.Form.SpellsObject.read h hb rest)
      _ = unlessRepeated (fontForm.repeated? v) (put font v x, rest) := unlessRepeated_map _ _ _

theorem put_comm {f g : Field} (hne : f ≠ g) (v : f.Value) (w : g.Value) (x : Settings) :
    f.put v (g.put w x) = g.put w (f.put v x) := by
  cases f <;> cases g <;> first | rfl | exact absurd rfl hne

theorem again?_alike {f : Field} {v w : f.Value} (h : f.Alike v w) :
    f.again? v = none ↔ f.again? w = none := by
  cases f with
  | font =>
    calc fontForm.repeated? v = none
        ↔ fontForm.Distinct v := Json.Form.repeated?_eq_none_iff
      _ ↔ fontForm.Distinct w := Json.Form.Rearranged.distinct_iff h
      _ ↔ fontForm.repeated? w = none := Json.Form.repeated?_eq_none_iff.symm
  | _ => exact Iff.rfl

theorem put_alike {f : Field} {v w : f.Value} (h : f.Alike v w) (hagain : f.again? v = none) :
    f.put v = f.put w := by
  cases f with
  | font =>
    have hdistinct := Json.Form.repeated?_eq_none_iff.1 hagain
    have hfill := Json.Form.Rearranged.fill_eq h hdistinct .default
    funext x
    simp only [put, hfill]
  | _ => exact congrArg (put _) h

end Field

def form : Json.Form record where
  Value := Field.Value
  Spells := Field.Spells
  put := Field.put
  again? := Field.again?
  Alike := Field.Alike
  mem_fields f := by cases f <;> decide
  key_injective := Field.key_injective
  readField_eq := Field.readField_eq
  put_comm := Field.put_comm
  again?_alike := Field.again?_alike
  put_alike := Field.put_alike

/-- A member of an object of settings. -/
abbrev Member : Type := Json.Member Field.Value

end Settings

end Caption
