import Caption.Proofs.Json.Object

/-!
# Written records

What is written of a record is one of the texts of the object that gives all its fields their
values, so it is read back as the record.

## Main definitions

* `Json.Writing`: written values are among the texts that are read

## Main statements

* `Json.Writing.spellsObject_write`: the written form of a record is an object
* `Json.Writing.ofText_write`: what was written is read back
-/
namespace Caption

namespace Json

variable {φ ρ : Type} {r : Record φ ρ}

/-- The fields of a record are written in their form and hold all of it. -/
structure Writing (F : Form r) where
  /-- The value of a field. -/
  value : ∀ f, ρ → F.Value f
  spells : ∀ f depth x, F.Spells f (value f x) (r.writeField f depth x)
  again?_value : ∀ f x, F.again? f (value f x) = none
  plain_key : ∀ f, (r.key f).toList.all (fun c => decide (Quoted.Plain c)) = true
  nodup : r.fields.Nodup
  ne_nil : r.fields ≠ []
  fill_start : ∀ x, F.fill (r.fields.map fun f => .field f (value f x)) r.start = x

namespace Writing

variable {F : Form r} (W : Writing F) (depth : Nat) (x : ρ)

/-- The members that give all fields their values. -/
def members : List (Member F.Value) := r.fields.map fun f => .field f (W.value f x)

theorem blanks_indent : Blanks (Record.indent depth) := by
  intro c hc
  rw [List.eq_of_mem_replicate hc]
  rfl

/-- A member is written on a line of its own. -/
theorem spellsMember_writeMember (f : φ) {behind : List Char} (hbehind : Blanks behind) :
    F.SpellsMember (.field f (W.value f x)) ('\n' :: r.writeMember depth x f ++ behind) := by
  have hline : Blanks ('\n' :: Record.indent depth) :=
    Blanks.append (b := ['\n']) (by simp [Blanks, isBlank]) (blanks_indent depth)
  have hblank : Blanks [' '] := by simp [Blanks, isBlank]
  have hmember := Form.SpellsMember.field hline (Quoted.spells_of_plain (W.plain_key f))
    blanks_nil hblank (W.spells f depth x) hbehind
  have htext : '\n' :: r.writeMember depth x f ++ behind =
      '\n' :: Record.indent depth ++ '"' :: (r.key f).toList ++ '"' :: [] ++ ':' :: [' '] ++
        r.writeField f depth x ++ behind := by simp [Record.writeMember]
  rwa [htext]

theorem spellsMembers_write {fs : List φ} (hne : fs ≠ []) {behind : List Char}
    (hbehind : Blanks behind) :
    F.SpellsMembers (fs.map fun f => .field f (W.value f x))
      ('\n' :: List.intercalate [',', '\n'] (fs.map (r.writeMember depth x)) ++ behind) := by
  induction fs with
  | nil => exact absurd rfl hne
  | cons f fs ih =>
    cases fs with
    | nil =>
      have hlast := W.spellsMember_writeMember depth x f hbehind
      simpa using Form.SpellsMembers.last hlast
    | cons g fs =>
      have hfirst := W.spellsMember_writeMember depth x f blanks_nil
      simpa using Form.SpellsMembers.cons hfirst (ih (by simp))

/-- The written form of a record is an object of all its fields. -/
theorem spellsObject_write : F.SpellsObject (W.members x) (r.write depth x) := by
  have hclose : Blanks ('\n' :: Record.indent depth) :=
    Blanks.append (b := ['\n']) (by simp [Blanks, isBlank]) (blanks_indent depth)
  have hmembers := W.spellsMembers_write (depth + 1) x W.ne_nil hclose
  simpa [Record.write, members] using Form.SpellsObject.members hmembers

theorem distinct_members : F.Distinct (W.members x) where
  nodup := by
    have hfields : (W.members x).filterMap Member.field? = r.fields := by
      rw [members, List.filterMap_map]
      exact List.filterMap_some
    rw [hfields]
    exact W.nodup
  value f v hmem := by
    obtain ⟨g, -, hg⟩ := List.mem_map.1 hmem
    cases hg
    exact W.again?_value f x

/-- What was written of a record is read back as the record. -/
theorem ofText_write [DecidableEq φ] (W : Writing F) (x : ρ) : r.ofText (r.write 0 x) = .ok x := by
  have hread := (W.spellsObject_write 0 x).ofText blanks_nil blanks_nil
  have hdistinct : F.repeated? (W.members x) = none :=
    Form.repeated?_eq_none_iff.2 (W.distinct_members x)
  rw [hdistinct, members, W.fill_start] at hread
  simpa [unlessRepeated] using hread

end Writing

end Json

end Caption
