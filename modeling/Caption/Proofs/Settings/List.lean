import Caption.Proofs.Json.Exact
import Caption.Proofs.Settings.Reading
import Caption.Proofs.Settings.RoundTrip

/-!
# Settings in lists

Settings may be given as a list of the values of their first fields, in order and without keys, and
so may the font within them. Such a list says what the object with the same values says. A list with
more elements than there are fields is refused, whatever its elements are.

## Main definitions

* `Settings.freeForm`: the fields of the settings, with a font that is an object or a list
* `Settings.TooLong`: lists with more elements than there are fields

## Main statements

* `Settings.parse_list`: lists are read as the objects of the same values, unless they are too long
-/
namespace Caption

open Json

namespace Settings

/-! ## Values -/

section Values

variable {t : List Char}

theorem SpellsText.startsValue {s : String} (h : SpellsText s t) : StartsValue t := by
  cases h
  exact startsValue_cons rfl (by decide) _

theorem SpellsFlag.startsValue {v : Bool} (h : SpellsFlag v t) : StartsValue t := by
  cases h <;> exact startsValue_cons rfl (by decide) _

theorem startsValue_whole {n : Int} (h : SpellsWhole t n) : StartsValue t := by
  obtain ⟨c, cs, rfl, hc, hblank⟩ := h.exists_cons
  exact startsValue_cons hblank (ne_of_startsNumber hc rfl) cs

theorem fontForm_startsValue (f : FontField) (v : f.Value) (t : List Char)
    (h : fontForm.Spells f v t) : StartsValue t := by
  cases f with
  | face => exact SpellsText.startsValue h
  | size | flags => exact startsValue_whole h

end Values

/-! ## The font as a list -/

/-- A list gives no field of the font twice. -/
theorem distinct_fontList {v : List FontMember} {t : List Char} (h : fontForm.SpellsList v t) :
    fontForm.Distinct v where
  nodup := h.nodup (by decide)
  value _ _ _ := rfl

namespace Field

/-- The texts of a value, among them the lists of a font. -/
inductive SpellsFree : ∀ f : Field, f.Value → List Char → Prop where
  | value {f : Field} {v : f.Value} {t : List Char} (h : f.Spells v t) : SpellsFree f v t
  | list {v : List FontMember} {t : List Char} (h : fontForm.SpellsList v t) : SpellsFree font v t

theorem readField_eq_free {f : Field} {v : f.Value} {t b rest : List Char}
    (h : SpellsFree f v t) (hb : Blanks b) (hrest : Delimited rest) (x : Settings) :
    f.read x (b ++ (t ++ rest)) = unlessRepeated (f.again? v) (f.put v x, rest) := by
  cases h with
  | value h => exact Field.readField_eq h hb hrest x
  | @list v t h =>
    have hread : fontRecord.read (b ++ (t ++ rest)) = .ok (fontForm.fill v .default, rest) :=
      h.read fontForm_startsValue (fun _ _ _ => rfl) hb rest
    have hagain : again? font v = none :=
      Json.Form.repeated?_eq_none_iff.2 (distinct_fontList h)
    rw [hagain]
    exact congrArg (Except.map _) hread

end Field

/-- The fields of the settings, with a font that is an object or a list. -/
def freeForm : Json.Form record where
  __ := form
  Spells := Field.SpellsFree
  readField_eq := Field.readField_eq_free

/-- How a font is spelled makes no difference to what is read. -/
theorem fill_freeForm (ms : List Member) (x : Settings) : freeForm.fill ms x = form.fill ms x := by
  induction ms generalizing x with
  | nil => rfl
  | cons m ms ih =>
    cases m with
    | field f v => exact ih (f.put v x)
    | other => exact ih x

theorem Field.Spells.startsValue {f : Field} {v : f.Value} {t : List Char} (h : f.Spells v t) :
    StartsValue t := by
  cases f with
  | text | file | align | valign => exact SpellsText.startsValue h
  | readFromFile | vertical | outline | extents | extentsWrap => exact SpellsFlag.startsValue h
  | color | opacity | backColor | backOpacity | outlineSize | outlineColor | outlineOpacity
  | extentsWidth | extentsHeight => exact startsValue_whole h
  | font => exact Json.Form.SpellsObject.startsValue h

theorem freeForm_startsValue (f : Field) (v : f.Value) (t : List Char)
    (h : freeForm.Spells f v t) : StartsValue t := by
  have hfree : Field.SpellsFree f v t := h
  cases hfree with
  | value h => exact Field.Spells.startsValue h
  | list h => exact h.startsValue

/-! ## Fields that are not given -/

theorem Field.value_put {f g : Field} (hne : f ≠ g) (w : g.Value) (x : Settings) :
    f.value (g.put w x) = f.value x := by
  cases f <;> cases g <;> first | rfl | exact absurd rfl hne

/-- What is not given is kept. -/
theorem value_fill {f : Field} {ms : List Member} (hf : f ∉ ms.filterMap Json.Member.field?)
    (x : Settings) : f.value (form.fill ms x) = f.value x := by
  induction ms generalizing x with
  | nil => rfl
  | cons m ms ih =>
    cases m with
    | other => exact ih hf x
    | field g w =>
      obtain ⟨hne, hrest⟩ := not_or.1 (mt List.mem_cons.2 hf)
      exact (ih hrest (g.put w x)).trans (Field.value_put hne w x)

/-! ## Values that are taken whole -/

theorem exact_readWord : Exact readWord := (exact_readWhole _ _ _).map fun n => n.toNat.toUInt32

theorem exact_readSize : Exact readSize := (exact_readWhole _ _ _).map Int64.ofInt

theorem exact_fontField (f : FontField) (x : FontSettings) : Exact (fontRecord.readField f x) := by
  let put (v : f.Value) := f.put v x
  cases f with
  | face => exact exact_readText.map put
  | size => exact exact_readSize.map put
  | flags => exact exact_readWord.map put

theorem exact_field (f : Field) (x : Settings) : Exact (record.readField f x) := by
  let put (v : f.Value) := f.put v x
  cases f with
  | text | file | align | valign => exact exact_readText.map put
  | readFromFile | vertical | outline | extents | extentsWrap => exact exact_readFlag.map put
  | color | opacity | backColor | backOpacity | outlineSize | outlineColor | outlineOpacity
  | extentsWidth | extentsHeight => exact exact_readWord.map put
  | font => exact (Record.exact_read exact_fontField).map fun font => { x with font }

/-- A list with more elements than there are fields of the settings, or settings whose font is a
list with more elements than there are fields of a font. -/
inductive TooLong (t : List Char) : Prop where
  | settings (h : record.Overlong t)
  | font {v : List Char} (h : record.Holds .font v t) (hv : fontRecord.Overlong v)

theorem TooLong.refused {t b : List Char} (h : TooLong t) (hb : Blanks b) (rest : List Char) :
    ∃ e, record.read (b ++ (t ++ rest)) = .error e := by
  cases h with
  | settings h => exact h.refused exact_field hb rest
  | font h hv =>
    refine h.refused exact_field (form.field?_key .font) (fun x b rest hb => ?_) hb rest
    obtain ⟨e, he⟩ := hv.refused exact_fontField hb rest
    exact ⟨e, congrArg (Except.map _) he⟩

/-! ## Texts -/

/-- The text is one of these, with blanks around it. -/
def Within (P : List Char → Prop) (text : String) : Prop :=
  ∃ b t b', Blanks b ∧ P t ∧ Blanks b' ∧ text.toList = b ++ (t ++ b')

theorem parse_tooLong {text : String} (h : Within TooLong text) :
    ∃ cause, parse text = .error (.malformed cause) := by
  obtain ⟨b, t, b', hb, h, -, htext⟩ := h
  obtain ⟨e, he⟩ := h.refused hb b'
  have hofJson : ofJson text = .error e := by
    rw [ofJson, Record.ofText, htext, he]
    rfl
  exact ⟨e, by rw [parse, hofJson]⟩

theorem parse_object {ms : List Member} {text : String}
    (h : Within (freeForm.SpellsObject ms) text) (hd : form.Distinct ms) :
    parse text = .ok (given ms) := by
  obtain ⟨b, t, b', hb, h, hb', htext⟩ := h
  have hrepeated : freeForm.repeated? ms = none :=
    Json.Form.repeated?_eq_none_iff.2 ⟨hd.nodup, hd.value⟩
  have hread : ofJson text = .ok (given ms) := by
    rw [ofJson, htext, h.ofText hb hb', hrepeated, fill_freeForm]
    rfl
  rw [parse, hread]

/-- A list of values of the first fields, in which no key of the font is given twice. -/
theorem distinct_list {ms : List Member} {t : List Char} (h : freeForm.SpellsList ms t)
    (hfont : ∀ v, .field .font v ∈ ms → fontForm.Distinct v) : form.Distinct ms where
  nodup := h.nodup (by decide)
  value f v hmem := by
    cases f with
    | font => exact Json.Form.repeated?_eq_none_iff.2 (hfont v hmem)
    | _ => rfl

theorem parse_fields {ms : List Member} {text : String}
    (h : Within (freeForm.SpellsList ms) text) (hd : form.Distinct ms) :
    parse text = .ok (given ms) := by
  obtain ⟨b, t, b', hb, h, hb', htext⟩ := h
  have hread : ofJson text = .ok (given ms) := by
    rw [ofJson, htext, h.ofText freeForm_startsValue hd.value hb hb', fill_freeForm]
    rfl
  rw [parse, hread]

/-- A list of values of the first fields is read as an object of the same values, in any order and
with any other members: what nobody has changed, with these fields replaced. The fields behind them
are kept. A list that is too long is refused. -/
theorem parse_list :
    (∀ ms text, (∀ v, .field .font v ∈ ms → fontForm.Distinct v) →
      Within (freeForm.SpellsList ms) text →
        parse text = .ok (given ms) ∧
        (∀ f, f ∉ ms.filterMap Json.Member.field? → f.value (given ms) = f.value .default) ∧
        ∀ ms' object, form.Rearranged ms ms' → Within (freeForm.SpellsObject ms') object →
          parse object = parse text) ∧
    ∀ text, Within TooLong text → ∃ cause, parse text = .error (.malformed cause) := by
  refine ⟨fun ms text hfont h => ?_, fun text h => parse_tooLong h⟩
  have hd : form.Distinct ms := by
    obtain ⟨_, t, _, -, ht, -⟩ := h
    exact distinct_list ht hfont
  have hlist := parse_fields h hd
  refine ⟨hlist, fun f hf => value_fill hf .default, fun ms' object hms hobject => ?_⟩
  have hgiven : given ms = given ms' := hms.fill_eq hd .default
  rw [hlist, hgiven, parse_object hobject (hms.distinct_iff.1 hd)]

section Sample

/-- A text, a flag, a file and a font with a face. -/
def sample : List Member :=
  [.field .text "hi", .field .readFromFile true, .field .file "", .field .font [.field .face "x"]]

theorem spellsText_sample {s : String}
    (h : s.toList.all (fun c => decide (Quoted.Plain c)) = true) :
    SpellsText s ('"' :: s.toList ++ ['"']) := .quoted (Quoted.spells_of_plain h)

theorem spellsList_sample :
    freeForm.SpellsList sample "[\"hi\",true,\"\",[\"x\"]]".toList := by
  have hface : fontForm.SpellsElement (.field .face "x") _ := .field (spellsText_sample (by decide))
  have hfont : freeForm.SpellsElement (.field .font [.field .face "x"]) _ :=
    .field (.list (.elements (.last blanks_nil hface blanks_nil) ⟨[.size, .flags], rfl⟩))
  have htext : freeForm.SpellsElement (.field .text "hi") _ :=
    .field (.value (spellsText_sample (by decide)))
  have hflag : freeForm.SpellsElement (.field .readFromFile true) _ := .field (.value .yes)
  have hfile : freeForm.SpellsElement (.field .file "") _ :=
    .field (.value (spellsText_sample (by decide)))
  have helements : Elements freeForm.SpellsElement sample _ :=
    .cons blanks_nil htext blanks_nil <| .cons blanks_nil hflag blanks_nil <|
      .cons blanks_nil hfile blanks_nil <| .last blanks_nil hfont blanks_nil
  exact .elements helements ⟨Field.all.drop 4, rfl⟩

theorem spellsMember_plain {f : Field} {v : f.Value} {t : List Char} (h : f.Spells v t) :
    freeForm.SpellsMember (.field f v) ('"' :: (record.key f).toList ++ '"' :: ':' :: t) := by
  have hmember : freeForm.SpellsMember (.field f v) _ :=
    .field blanks_nil (Quoted.spells_of_plain (writing.plain_key f)) blanks_nil blanks_nil
      (.value h) blanks_nil
  simpa using hmember

/-- The same values in an object. -/
theorem spellsObject_sample :
    freeForm.SpellsObject sample
      ("\x7b\"text\":\"hi\",\"read_from_file\":true,\"file\":\"\"," ++
        "\"font\":\x7b\"face\":\"x\"\x7d\x7d").toList := by
  have hface : fontForm.SpellsMember (.field .face "x") _ :=
    .field blanks_nil (Quoted.spells_of_plain (by decide)) blanks_nil blanks_nil
      (spellsText_sample (by decide)) blanks_nil
  have htext : freeForm.SpellsMember (.field .text "hi") _ :=
    spellsMember_plain (spellsText_sample (by decide))
  have hflag : freeForm.SpellsMember (.field .readFromFile true) _ :=
    spellsMember_plain SpellsFlag.yes
  have hfile : freeForm.SpellsMember (.field .file "") _ :=
    spellsMember_plain (spellsText_sample (by decide))
  have hfont : freeForm.SpellsMember (.field .font [.field .face "x"]) _ :=
    spellsMember_plain (Json.Form.SpellsObject.members (.last hface))
  have hmembers : freeForm.SpellsMembers sample _ :=
    .cons htext (.cons hflag (.cons hfile (.last hfont)))
  exact .members hmembers

/-- The font has an element more than there are fields. -/
theorem tooLong_sample : TooLong "[null,null,null,[null,null,null,null]]".toList := by
  have hnull : Verbatim _ _ := .value .null
  have helement : WellFormed .element _ := .element blanks_nil .null blanks_nil
  have helements : Elements Verbatim _ _ :=
    .cons blanks_nil hnull blanks_nil <| .cons blanks_nil hnull blanks_nil <|
      .cons blanks_nil hnull blanks_nil <| .last blanks_nil hnull blanks_nil
  have hlong : fontRecord.Overlong "[null,null,null,null]".toList := .list helements (by decide)
  have hfont : WellFormed .value "[null,null,null,null]".toList :=
    .list (.elements helement (.elements helement (.elements helement (.lastElement helement))))
  have hall : Elements Verbatim _ _ :=
    .cons blanks_nil hnull blanks_nil <| .cons blanks_nil hnull blanks_nil <|
      .cons blanks_nil hnull blanks_nil <| .last blanks_nil (.value hfont) blanks_nil
  exact .font (.list hall (.tail _ (.tail _ (.tail _ (.head _))))) hlong

theorem within_self {P : List Char → Prop} {text : String} (h : P text.toList) :
    Within P text :=
  ⟨[], text.toList, [], blanks_nil, h, blanks_nil, by simp⟩

/-- A list and an object of the same values, and a list whose font is too long. -/
theorem parse_list_sample :
    parse "[\"hi\",true,\"\",[\"x\"]]" =
      .ok { Settings.default with
        text := "hi"
        readFromFile := true
        font := { FontSettings.default with face := "x" } } ∧
    parse ("\x7b\"text\":\"hi\",\"read_from_file\":true,\"file\":\"\"," ++
        "\"font\":\x7b\"face\":\"x\"\x7d\x7d") = parse "[\"hi\",true,\"\",[\"x\"]]" ∧
    ∃ cause, parse "[null,null,null,[null,null,null,null]]" = .error (.malformed cause) := by
  have hfont (v : List FontMember) (hv : .field .font v ∈ sample) : fontForm.Distinct v := by
    obtain _ | ⟨_, _ | ⟨_, _ | ⟨_, _ | ⟨_, ⟨⟩⟩⟩⟩⟩ := hv
    exact Json.Form.repeated?_eq_none_iff.1 rfl
  obtain ⟨hlist, -, hobject⟩ := parse_list.1 sample _ hfont (within_self spellsList_sample)
  exact ⟨hlist, hobject _ _ (.perm (.refl _)) (within_self spellsObject_sample),
    parse_list.2 _ (within_self tooLong_sample)⟩

end Sample

end Settings

end Caption
