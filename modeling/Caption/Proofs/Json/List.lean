import Caption.Proofs.Json.Object

/-!
# Lists that are read into records

A list gives values to the first fields of a record, in their order and without their keys. Reading
it comes to what reading an object of the same values comes to: the start of the record with these
values put into their fields.

## Main definitions

* `Json.Elements`: the texts of elements, with the blanks around them
* `Json.Form.SpellsList`: the texts of a list of the first fields

## Main statements

* `Json.Form.SpellsList.read`, `Json.Form.SpellsList.ofText`: reading a list
-/
namespace Caption

namespace Json

/-! ## Elements -/

/-- Elements one after another, each of them a text for its item, with the blanks around it. -/
inductive Elements {α : Type} (Spells : α → List Char → Prop) : List α → List Char → Prop where
  | last {a : α} {b t b' : List Char} (hb : Blanks b) (h : Spells a t) (hb' : Blanks b') :
      Elements Spells [a] (b ++ t ++ b')
  | cons {a : α} {as : List α} {b t b' ts : List Char} (hb : Blanks b) (h : Spells a t)
      (hb' : Blanks b') (hs : Elements Spells as ts) :
      Elements Spells (a :: as) (b ++ t ++ b' ++ ',' :: ts)

/-- A text that starts a value: neither with a blank nor with the end of a list. -/
def StartsValue (t : List Char) : Prop := ∃ c cs, t = c :: cs ∧ isBlank c = false ∧ c ≠ ']'

theorem startsValue_cons {c : Char} (hc : isBlank c = false) (hend : c ≠ ']') (cs : List Char) :
    StartsValue (c :: cs) := ⟨c, cs, rfl, hc, hend⟩

theorem StartsValue.append {t : List Char} (h : StartsValue t) (rest : List Char) :
    StartsValue (t ++ rest) := by
  obtain ⟨c, cs, rfl, hc, hend⟩ := h
  exact startsValue_cons hc hend (cs ++ rest)

namespace Record

open Form

variable {φ ρ : Type} (r : Record φ ρ) {b t : List Char} (first : Bool) (x : ρ)

theorem read_list [DecidableEq φ] (hb : Blanks b) (cs : List Char) :
    r.read (b ++ '[' :: cs) = r.readElements true r.fields r.start cs := by
  rw [read, hb.skip, skipBlanks_cons rfl]
  rfl

theorem read_other [DecidableEq φ] (hb : Blanks b) {c : Char} (hc : isBlank c = false)
    (hlist : c ≠ '[') (hobject : c ≠ '{') (cs : List Char) :
    r.read (b ++ c :: cs) = .error (mismatch r.expected (c :: cs)) := by
  rw [read, hb.skip, skipBlanks_cons hc]
  simp [hlist, hobject]

theorem readElements_blanks (fs : List φ) (hb : Blanks b) (cs : List Char) :
    r.readElements first fs x (b ++ cs) = r.readElements first fs x cs := by
  cases fs with
  | nil => rw [readElements, readElements, closeList, closeList, hb.skip]
  | cons f fs => rw [readElements, readElements, hb.skip]

theorem readElements_end (fs : List φ) (rest : List Char) :
    r.readElements first fs x (']' :: rest) = .ok (x, rest) := by
  have hclose : skipBlanks (']' :: rest) = ']' :: rest := skipBlanks_cons rfl _
  cases fs with
  | nil => simp [readElements, closeList, hclose, bind, Except.bind]
  | cons f fs => simp [readElements, hclose]

/-- An element is read into the first field that is left. -/
theorem readElements_next (f : φ) (fs : List φ) (hb : Blanks b) (ht : StartsValue t) :
    r.readElements first (f :: fs) x (lead first ++ (b ++ t)) = (do
      let (x, rest) ← r.readField f x t
      r.readElements false fs x rest) := by
  obtain ⟨c, cs, rfl, hc, hend⟩ := ht
  have hfront : skipBlanks (b ++ c :: cs) = c :: cs := by rw [hb.skip, skipBlanks_cons hc]
  cases first with
  | true =>
    rw [lead, if_pos rfl, List.nil_append]
    simp [readElements, openElement, hfront, hend, bind, Except.bind]
  | false =>
    have hcomma : skipBlanks (',' :: (b ++ c :: cs)) = ',' :: (b ++ c :: cs) :=
      skipBlanks_cons rfl _
    have hlead : lead false ++ (b ++ c :: cs) = ',' :: (b ++ c :: cs) := rfl
    rw [hlead]
    simp [readElements, openElement, hcomma, hfront, hend, bind, Except.bind]

theorem closeList_of_ne {cs : List Char} (h : ∀ rest, skipBlanks cs ≠ ']' :: rest) :
    ∃ e, closeList cs = .error e := by
  unfold closeList
  split
  next => exact ⟨_, rfl⟩
  next rest hclose => exact absurd hclose (h rest)
  next => split <;> exact ⟨_, rfl⟩
  next => exact ⟨_, rfl⟩

/-- An element for which no field is left is refused. -/
theorem readElements_full (hb : Blanks b) (ht : StartsValue t) :
    ∃ e, r.readElements first [] x (lead first ++ (b ++ t)) = .error e := by
  obtain ⟨c, cs, rfl, hc, hend⟩ := ht
  have hfront : ∀ rest, skipBlanks (lead first ++ (b ++ c :: cs)) ≠ ']' :: rest := by
    intro rest
    cases first with
    | true =>
      rw [lead, if_pos rfl, List.nil_append, hb.skip, skipBlanks_cons hc]
      exact fun h => hend (List.cons.inj h).1
    | false =>
      rw [lead, if_neg Bool.false_ne_true, List.singleton_append, skipBlanks_cons rfl]
      intro h
      cases h
  obtain ⟨e, he⟩ := closeList_of_ne hfront
  exact ⟨e, by rw [readElements, he]; rfl⟩

end Record

/-! ## Lists of fields -/

namespace Form

variable {φ ρ : Type} {r : Record φ ρ} (F : Form r)

/-- The texts of an element, which is the value of a field. -/
inductive SpellsElement : Member F.Value → List Char → Prop where
  | field {f : φ} {v : F.Value f} {t : List Char} (ht : F.Spells f v t) :
      SpellsElement (.field f v) t

/-- The texts of a list of values of the first fields. -/
inductive SpellsList : List (Member F.Value) → List Char → Prop where
  | empty {b : List Char} (hb : Blanks b) : SpellsList [] ('[' :: b ++ [']'])
  | elements {ms : List (Member F.Value)} {t : List Char} (h : Elements F.SpellsElement ms t)
      (hfields : ms.filterMap Member.field? <+: r.fields) : SpellsList ms ('[' :: t ++ [']'])

variable {F}

theorem SpellsObject.startsValue {ms : List (Member F.Value)} {t : List Char}
    (h : F.SpellsObject ms t) : StartsValue t := by
  cases h <;> exact startsValue_cons rfl (by decide) _

theorem SpellsList.startsValue {ms : List (Member F.Value)} {t : List Char}
    (h : F.SpellsList ms t) : StartsValue t := by
  cases h <;> exact startsValue_cons rfl (by decide) _

/-- The value of a field is read into it. -/
theorem readElements_field {f : φ} {v : F.Value f} {b t b' rest : List Char} (hb : Blanks b)
    (ht : F.Spells f v t) (hb' : Blanks b') (hstart : StartsValue t) (hagain : F.again? f v = none)
    (hrest : Delimited rest) (first : Bool) (fs : List φ) (x : ρ) :
    r.readElements first (f :: fs) x (lead first ++ (b ++ t ++ b' ++ rest)) =
      r.readElements false fs (F.put f v x) rest := by
  have hread : r.readField f x (t ++ (b' ++ rest)) = .ok (F.put f v x, b' ++ rest) := by
    have hfield := F.readField_eq ht blanks_nil (hb'.delimited hrest) x
    rwa [hagain] at hfield
  rw [List.append_assoc, List.append_assoc,
    r.readElements_next first x f fs hb (hstart.append (b' ++ rest)), hread]
  exact r.readElements_blanks false _ fs hb' rest

/-- Elements are read into the fields in front of the others. -/
theorem readElements_eq (hstart : ∀ f v t, F.Spells f v t → StartsValue t)
    {ms : List (Member F.Value)} {t : List Char} (h : Elements F.SpellsElement ms t)
    (hagain : ∀ f v, .field f v ∈ ms → F.again? f v = none) {fs : List φ}
    (hfields : ms.filterMap Member.field? <+: fs) (first : Bool) (x : ρ) (rest : List Char) :
    r.readElements first fs x (lead first ++ (t ++ ']' :: rest)) = .ok (F.fill ms x, rest) := by
  induction h generalizing fs first x with
  | last hb h hb' =>
    cases h with
    | @field f v _ ht =>
      obtain ⟨fs, rfl⟩ := hfields
      have hend : Delimited (']' :: rest) := delimited_cons (by decide) rest
      have hagain := hagain f v List.mem_cons_self
      exact (readElements_field hb ht hb' (hstart f v _ ht) hagain hend first fs x).trans
        (r.readElements_end false _ fs rest)
  | @cons m ms b t b' ts hb h hb' _ ih =>
    cases h with
    | @field f v _ ht =>
      obtain ⟨fs, rfl⟩ := hfields
      have hcomma : Delimited (',' :: (ts ++ ']' :: rest)) := delimited_cons (by decide) _
      have hothers := fun g w hg => hagain g w (List.mem_cons_of_mem _ hg)
      have hagain := hagain f v List.mem_cons_self
      rw [List.append_assoc, List.cons_append]
      exact (readElements_field hb ht hb' (hstart f v _ ht) hagain hcomma first _ x).trans
        (ih hothers (List.prefix_append _ fs) false _)

/-- A list is read with the blanks before it. -/
theorem SpellsList.read [DecidableEq φ] (hstart : ∀ f v t, F.Spells f v t → StartsValue t)
    {ms : List (Member F.Value)} {b t : List Char} (h : F.SpellsList ms t)
    (hagain : ∀ f v, .field f v ∈ ms → F.again? f v = none) (hb : Blanks b) (rest : List Char) :
    r.read (b ++ (t ++ rest)) = .ok (F.fill ms r.start, rest) := by
  cases h with
  | @empty b' hb' =>
    have htext : '[' :: b' ++ [']'] ++ rest = '[' :: (b' ++ ']' :: rest) := by simp
    rw [htext, r.read_list hb, r.readElements_blanks true _ _ hb']
    exact r.readElements_end true _ _ rest
  | @elements _ t h hfields =>
    have htext : '[' :: t ++ [']'] ++ rest = '[' :: (t ++ ']' :: rest) := by simp
    rw [htext, r.read_list hb]
    exact readElements_eq hstart h hagain hfields true r.start rest

/-- A list gives no field twice. -/
theorem SpellsList.nodup (hnodup : r.fields.Nodup) {ms : List (Member F.Value)} {t : List Char}
    (h : F.SpellsList ms t) : (ms.filterMap Member.field?).Nodup := by
  cases h with
  | empty => exact List.nodup_nil
  | elements h hfields => exact hnodup.sublist hfields.sublist

/-- A text that is one list is read whole. -/
theorem SpellsList.ofText [DecidableEq φ] (hstart : ∀ f v t, F.Spells f v t → StartsValue t)
    {ms : List (Member F.Value)} {b t b' : List Char} (h : F.SpellsList ms t)
    (hagain : ∀ f v, .field f v ∈ ms → F.again? f v = none) (hb : Blanks b) (hb' : Blanks b') :
    r.ofText (b ++ (t ++ b')) = .ok (F.fill ms r.start) := by
  rw [Record.ofText, h.read hstart hagain hb]
  simp [bind, Except.bind, hb'.skip_eq_nil]

end Form

end Json

end Caption
