import Caption.Proofs.Settings.Form
import Caption.Settings.File

/-!
# Reading settings

Settings are read from a text that is one object. What is read are the settings of a caption
that nobody has changed with the given fields replaced, the fields of the font in turn among
its own. Neither the order of members nor the blanks between tokens, the spelling of keys or
members that are no fields make a difference. A key that is given twice is the only thing that
can be wrong with such a text.

A field of numbers is given by a whole number within its range; `-0` and numbers with a
fraction or an exponent are none.

## Main definitions

* `Settings.Document`: the texts of an object of settings
* `Settings.given`: what an object gives

## Main statements

* `Settings.parse_document`: reading is replacing the given fields, in any order
-/
namespace Caption

open Json

namespace Settings

/-- The text is one object with these members, with blanks around it. -/
inductive Document (ms : List Member) (text : String) : Prop where
  | object {b t b' : List Char} (hb : Blanks b) (h : form.SpellsObject ms t) (hb' : Blanks b')
      (htext : text.toList = b ++ (t ++ b'))

/-- The settings with the given fields replaced. -/
def given (ms : List Member) : Settings := form.fill ms .default

/-- The members decide what is read. -/
theorem Document.ofJson {ms : List Member} {text : String} (h : Document ms text) :
    ofJson text = unlessRepeated (form.repeated? ms) (given ms) := by
  obtain @⟨b, t, b', hb, h, hb', htext⟩ := h
  rw [Settings.ofJson, htext]
  exact h.ofText hb hb'

theorem Document.parse {ms : List Member} {text : String} (h : Document ms text) :
    parse text =
      match form.repeated? ms with
      | none => .ok (given ms)
      | some key => .error (.malformed (.repeatedField key)) := by
  rw [Settings.parse, h.ofJson]
  cases form.repeated? ms <;> rfl

theorem Document.parse_of_distinct {ms : List Member} {text : String} (h : Document ms text)
    (hd : form.Distinct ms) : Settings.parse text = .ok (given ms) := by
  rw [h.parse, Json.Form.repeated?_eq_none_iff.2 hd]

/-- Reading gives what nobody has changed with exactly the given fields replaced. It is the same
for members in another order, with others added or removed. The first key that is given again
is the only error. -/
theorem parse_document {ms : List Member} {text : String} (h : Document ms text) :
    (form.Distinct ms →
      Settings.parse text = .ok (given ms) ∧
      ∀ ms' text', form.Rearranged ms ms' → Document ms' text' →
        Settings.parse text' = Settings.parse text) ∧
    (¬form.Distinct ms →
      ∃ key, form.repeated? ms = some key ∧ form.Repeats key ms ∧
        Settings.parse text = .error (.malformed (.repeatedField key)) ∧
        (Json.Error.repeatedField key).category = .mistyped) := by
  refine ⟨fun hd => ⟨h.parse_of_distinct hd, fun ms' text' hms h' => ?_⟩, fun hd => ?_⟩
  · have hgiven : given ms = given ms' := hms.fill_eq hd .default
    rw [h.parse_of_distinct hd, hgiven, h'.parse_of_distinct (hms.distinct_iff.1 hd)]
  · have hsome : form.repeated? ms ≠ none := fun hnone =>
      hd (Json.Form.repeated?_eq_none_iff.1 hnone)
    obtain ⟨key, hkey⟩ := Option.ne_none_iff_exists'.1 hsome
    refine ⟨key, hkey, Json.Form.repeats_of_repeated? hkey, ?_, rfl⟩
    rw [h.parse, hkey]

section Sample

theorem spellsMember_hi {key : List Char} (hkey : Quoted.Spells key "text".toList) :
    form.SpellsMember (.field .text "hi") ('"' :: key ++ '"' :: ':' :: ['"', 'h', 'i', '"']) := by
  have hmember : form.SpellsMember (.field .text "hi") _ :=
    .field blanks_nil hkey blanks_nil blanks_nil
      (.quoted (Quoted.spells_of_plain (by decide))) blanks_nil
  simpa using hmember

theorem spellsMember_size :
    form.SpellsMember (.field .font [.field .size (48 : Int64)])
      "\"font\":\x7b\"size\":48\x7d".toList := by
  have hdigits : WholePart ['4', '8'] :=
    .digits rfl (by decide) (List.forall_mem_singleton.2 rfl)
  have hsize : fontForm.SpellsMember (.field .size (48 : Int64)) _ :=
    .field blanks_nil (Quoted.spells_of_plain (by decide)) blanks_nil blanks_nil
      (SpellsWhole.nonneg hdigits) blanks_nil
  have hfont : form.SpellsMember (.field .font [.field .size (48 : Int64)]) _ :=
    .field blanks_nil (Quoted.spells_of_plain (by decide)) blanks_nil blanks_nil
      (.members (.last hsize)) blanks_nil
  exact hfont

/-- A text, whose key is spelled with an escape, a member that is no field and a font size. -/
theorem document_sample :
    Document [.field .text "hi", .other, .field .font [.field .size (48 : Int64)]]
      "\x7b\"te\\u0078t\":\"hi\",\"z\":[null],\"font\":\x7b\"size\":48\x7d\x7d" := by
  have hunit : Quoted.SpellsUnit ['0', '0', '7', '8'] 0x78 :=
    .digits (w := 0) (x := 0) (y := 7) (z := 8) rfl rfl rfl rfl
  have hx : Quoted.SpellsChar ['\\', 'u', '0', '0', '7', '8'] 'x' := .unit hunit rfl rfl
  have hkey : Quoted.Spells ['t', 'e', '\\', 'u', '0', '0', '7', '8', 't'] "text".toList :=
    .cons (.plain (by decide)) <| .cons (.plain (by decide)) <| .cons hx <|
      Quoted.spells_of_plain (by decide)
  have hother : form.SpellsMember .other _ :=
    .other blanks_nil (Quoted.spells_of_plain (s := ['z']) (by decide))
      (fun f => by cases f <;> decide) blanks_nil blanks_nil
      (.list (.lastElement (.element blanks_nil .null blanks_nil))) blanks_nil
  have hmembers := Json.Form.SpellsMembers.cons (spellsMember_hi hkey)
    (.cons hother (.last spellsMember_size))
  exact .object blanks_nil (.members hmembers) blanks_nil rfl

/-- The same in another order. -/
theorem document_rearranged :
    Document [.field .font [.field .size (48 : Int64)], .field .text "hi"]
      " \x7b\"font\":\x7b\"size\":48\x7d,\"text\":\"hi\"\x7d" := by
  have hmembers := Json.Form.SpellsMembers.cons spellsMember_size
    (.last (spellsMember_hi (Quoted.spells_of_plain (by decide))))
  have hb : Blanks [' '] := by simp [Blanks, Json.isBlank]
  exact .object hb (.members hmembers) blanks_nil rfl

theorem document_repeated :
    Document [.field .text "hi", .field .text "hi"]
      "\x7b\"text\":\"hi\",\"text\":\"hi\"\x7d" := by
  have hhi := spellsMember_hi (Quoted.spells_of_plain (by decide))
  exact .object blanks_nil (.members (.cons hhi (.last hhi))) blanks_nil rfl

/-- Two texts with the same members but for their order, and one with a key given twice. -/
theorem parse_document_text_and_size :
    (parse "\x7b\"te\\u0078t\":\"hi\",\"z\":[null],\"font\":\x7b\"size\":48\x7d\x7d" =
        .ok { Settings.default with
          text := "hi"
          font := { FontSettings.default with size := 48 } } ∧
      parse " \x7b\"font\":\x7b\"size\":48\x7d,\"text\":\"hi\"\x7d" =
        parse "\x7b\"te\\u0078t\":\"hi\",\"z\":[null],\"font\":\x7b\"size\":48\x7d\x7d") ∧
    parse "\x7b\"text\":\"hi\",\"text\":\"hi\"\x7d" =
      .error (.malformed (.repeatedField "text")) := by
  have hdistinct :
      form.Distinct [.field .text "hi", .other, .field .font [.field .size (48 : Int64)]] :=
    Json.Form.repeated?_eq_none_iff.1 rfl
  have hsame : form.Rearranged
      [.field .text "hi", .other, .field .font [.field .size (48 : Int64)]]
      [.field .font [.field .size (48 : Int64)], .field .text "hi"] :=
    .trans (.perm (.swap _ _ _)) (.trans (.other _) (.perm (.swap _ _ _)))
  have hrepeated : ¬form.Distinct [.field .text "hi", .field .text "hi"] := fun h => by
    cases Json.Form.repeated?_eq_none_iff.2 h
  obtain ⟨hread, hother⟩ := (parse_document document_sample).1 hdistinct
  obtain ⟨key, hkey, -, herror, -⟩ := (parse_document document_repeated).2 hrepeated
  cases hkey
  exact ⟨⟨hread, hother _ _ hsame document_rearranged⟩, herror⟩

end Sample

end Settings

end Caption
