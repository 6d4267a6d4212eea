import Caption.Proofs.Json.CutOff
import Caption.Proofs.Settings.RoundTrip

/-!
# Settings that are cut off

An object of settings that is cut short is refused because it ends too early, wherever it is cut,
within the font and its fields as well. So no part of what was written is taken for settings.

## Main statements

* `Settings.breaksAt`: the value of a field that is cut short is missed
* `Settings.parse_cutOff`: objects of settings that are cut short
* `Settings.parse_toJson_cutOff`: written settings that are cut short
-/
namespace Caption

open Json

namespace Settings

/-! ## Values -/

section Values

variable {t : List Char}

theorem SpellsText.breaks {s : String} (h : SpellsText s t) : Breaks readText t := by
  obtain ⟨h⟩ := h
  exact breaks_readText h

theorem SpellsFlag.breaks {v : Bool} (h : SpellsFlag v t) : Breaks readFlag t := by
  cases h with
  | yes => exact breaks_readFlag_true
  | no => exact breaks_readFlag_false

theorem SpellsWord.breaks {n : UInt32} (h : SpellsWord n t) : Breaks readWord t := by
  have hsize : n.toNat < 0x100000000 := n.toNat_lt
  have hwhole : Breaks (readWhole "u32" 0 0xFFFFFFFF) t :=
    SpellsWhole.breaks h "u32" (by decide) (by decide) (by decide) (by omega)
  exact hwhole.map fun n => n.toNat.toUInt32

theorem SpellsSize.breaks {n : Int64} (h : SpellsSize n t) : Breaks readSize t := by
  have hlow := n.le_toInt
  have hhigh := n.toInt_lt
  have hwhole : Breaks (readWhole "i64" (-0x8000000000000000) 0x7FFFFFFFFFFFFFFF) t :=
    SpellsWhole.breaks h "i64" (by decide) (by decide) (by decide) (by omega)
  exact hwhole.map Int64.ofInt

end Values

/-! ## Fields -/

theorem fontBreaksAt (f : FontField) (v : f.Value) : fontForm.BreaksAt f v := by
  intro t ht x
  let put (w : f.Value) := f.put w x
  cases f with
  | face => exact (SpellsText.breaks ht).map put
  | size => exact (SpellsSize.breaks ht).map put
  | flags => exact (SpellsWord.breaks ht).map put

theorem Field.breaksAt {f : Field} (hf : f ≠ font) (v : f.Value) : form.BreaksAt f v := by
  intro t ht x
  let put (w : f.Value) := f.put w x
  cases f with
  | text | file | align | valign => exact (SpellsText.breaks ht).map put
  | readFromFile | vertical | outline | extents | extentsWrap =>
    exact (SpellsFlag.breaks ht).map put
  | color | opacity | backColor | backOpacity | outlineSize | outlineColor | outlineOpacity
  | extentsWidth | extentsHeight => exact (SpellsWord.breaks ht).map put
  | font => exact absurd rfl hf

/-- A font whose members are fields, each given once. -/
theorem breaksAt_font {v : List FontMember} (hfields : ∀ m ∈ v, m ≠ .other)
    (hdistinct : fontForm.Distinct v) : form.BreaksAt .font v := by
  intro t ht x
  let put (w : FontSettings) : Settings := { x with font := w }
  have hbreaks : fontForm.Breaks v := fun m hm => by
    cases m with
    | field f w => exact ⟨f, w, rfl, fontBreaksAt f w⟩
    | other => exact absurd rfl (hfields _ hm)
  exact (Json.Form.SpellsObject.breaks ht hbreaks hdistinct).map put

/-! ## Objects -/

/-- An object of fields that are given once is missed wherever it is cut. -/
theorem parse_cutOff {ms : List Member} {text p : String}
    (h : form.SpellsObject ms text.toList) (hbreaks : form.Breaks ms)
    (hdistinct : form.Distinct ms) (hp : CutFrom p.toList text.toList) :
    ∃ cause, parse p = .error (.malformed cause) ∧ cause.category = .cutOff := by
  have hread : CutOff (record.read p.toList) := h.cutOff hbreaks hdistinct blanks_nil hp
  obtain ⟨cause, hcause, hcategory⟩ := hread.bind fun r =>
    if skipBlanks r.2 = [] then .ok r.1 else .error .trailingText
  have hofJson : ofJson p = .error cause := hcause
  exact ⟨cause, by rw [parse, hofJson], hcategory⟩

theorem breaks_members (s : Settings) : form.Breaks (writing.members s) := by
  intro m hm
  obtain ⟨f, -, rfl⟩ := List.mem_map.1 hm
  refine ⟨f, Field.value f s, rfl, ?_⟩
  by_cases hf : f = .font
  · subst hf
    refine breaksAt_font (fun m hm => ?_) (fontWriting.distinct_members s.font)
    obtain ⟨g, -, rfl⟩ := List.mem_map.1 hm
    exact fun h => nomatch h
  · exact Field.breaksAt hf _

/-- No part of what was written is read as settings: all that is short of the whole ends too
early. -/
theorem parse_toJson_cutOff (s : Settings) {p : String} (hp : p.toList <+: (toJson s).toList)
    (hne : p ≠ toJson s) :
    ∃ cause, parse p = .error (.malformed cause) ∧ cause.category = .cutOff := by
  have hobject : form.SpellsObject (writing.members s) (toJson s).toList := by
    rw [toJson, String.toList_ofList]
    exact writing.spellsObject_write 0 s
  have hcut : CutFrom p.toList (toJson s).toList := ⟨hp, fun h => hne (String.toList_inj.1 h)⟩
  exact parse_cutOff hobject (breaks_members s) (writing.distinct_members s) hcut

/-- A text with a quote, cut within the escape of the quote. -/
theorem parse_toJson_cutOff_escape :
    ∃ cause, parse "\x7b\n  \"text\": \"a\\" = .error (.malformed cause) ∧
      cause.category = .cutOff := by
  refine parse_toJson_cutOff { Settings.default with text := "a\"" } ?_ (by decide +kernel)
  have hchars : (toJson { Settings.default with text := "a\"" }).toList = record.write 0 _ :=
    String.toList_ofList
  rw [hchars]
  decide +kernel

end Settings

end Caption
