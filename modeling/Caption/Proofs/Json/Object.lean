import Caption.Json.Record
import Caption.Proofs.Json.Value

/-!
# Objects that are read into records

An object gives values to fields of a record and may have other members. Whatever the order of
the members, the spelling of their keys and the blanks between tokens, reading it comes to the
start of the record with the given values put into their fields, unless a field is given twice.

## Main definitions

* `Json.Member`: what a member of an object is to a record
* `Json.Form`: how the values of fields are spelled and what they do to a record
* `Json.Form.SpellsObject`: the texts of an object
* `Json.Form.fill`: a record with the fields of members replaced
* `Json.Form.repeated?`: the first key that is given again
* `Json.Form.Distinct`: no key is given twice
* `Json.Form.Rearranged`: members in another order, with other members added or removed

## Main statements

* `Json.Form.SpellsObject.ofText`: reading an object
* `Json.Form.repeated?_eq_none_iff`: when no key is given again
* `Json.Form.Rearranged.fill_eq`: the order of members makes no difference
-/
namespace Caption

namespace Json

variable {φ ρ : Type}

/-- A member of an object that is read into a record: a value for a field, or one that is no
field. -/
inductive Member {φ : Type} (Value : φ → Type) where
  | field (f : φ) (v : Value f)
  | other

def Member.field? {Value : φ → Type} : Member Value → Option φ
  | .field f _ => some f
  | .other => none

/-- What reading gives when the key, if any, was given before. -/
def unlessRepeated {α : Type} (key : Option String) (a : α) : Except Error α :=
  match key with
  | none => .ok a
  | some key => .error (.repeatedField key)

theorem unlessRepeated_map {α β : Type} (key : Option String) (a : α) (f : α → β) :
    (unlessRepeated key a).map f = unlessRepeated key (f a) := by
  cases key <;> rfl

theorem Record.read_object [DecidableEq φ] (r : Record φ ρ) {b : List Char} (hb : Blanks b)
    (cs : List Char) :
    r.read (b ++ '{' :: cs) = r.readMembers (cs.length + 1) true [] r.start cs := by
  rw [Record.read, hb.skip, skipBlanks_cons rfl]
  rfl

/-- How the fields of a record are given in objects. -/
structure Form (r : Record φ ρ) where
  /-- The values of a field. -/
  Value : φ → Type
  /-- The texts of a value. -/
  Spells : ∀ f, Value f → List Char → Prop
  /-- The record with the value in the field. -/
  put : ∀ f, Value f → ρ → ρ
  /-- A key that is given again within a value. -/
  again? : ∀ f, Value f → Option String
  /-- Values that say the same in another order. -/
  Alike : ∀ f, Value f → Value f → Prop
  mem_fields : ∀ f, f ∈ r.fields
  key_injective : ∀ f g, r.key f = r.key g → f = g
  readField_eq : ∀ {f : φ} {v : Value f} {t b rest : List Char}, Spells f v t → Blanks b →
    Delimited rest → ∀ x,
      r.readField f x (b ++ (t ++ rest)) = unlessRepeated (again? f v) (put f v x, rest)
  put_comm : ∀ {f g : φ}, f ≠ g → ∀ (v : Value f) (w : Value g) x,
    put f v (put g w x) = put g w (put f v x)
  again?_alike : ∀ {f : φ} {v w : Value f}, Alike f v w → (again? f v = none ↔ again? f w = none)
  put_alike : ∀ {f : φ} {v w : Value f}, Alike f v w → again? f v = none → put f v = put f w

namespace Form

variable {r : Record φ ρ} (F : Form r)

/-! ## Texts -/

/-- The texts of a member. Keys may be spelled in any way. -/
inductive SpellsMember : Member F.Value → List Char → Prop where
  | field {f : φ} {v : F.Value f} {b k b₁ b₂ t b₃ : List Char} (hb : Blanks b)
      (hk : Quoted.Spells k (r.key f).toList) (hb₁ : Blanks b₁) (hb₂ : Blanks b₂)
      (ht : F.Spells f v t) (hb₃ : Blanks b₃) :
      SpellsMember (.field f v) (b ++ '"' :: k ++ '"' :: b₁ ++ ':' :: b₂ ++ t ++ b₃)
  | other {key b k b₁ b₂ t b₃ : List Char} (hb : Blanks b) (hk : Quoted.Spells k key)
      (hkey : ∀ f, (r.key f).toList ≠ key) (hb₁ : Blanks b₁) (hb₂ : Blanks b₂)
      (ht : WellFormed .value t) (hb₃ : Blanks b₃) :
      SpellsMember .other (b ++ '"' :: k ++ '"' :: b₁ ++ ':' :: b₂ ++ t ++ b₃)

inductive SpellsMembers : List (Member F.Value) → List Char → Prop where
  | last {m : Member F.Value} {t : List Char} (h : F.SpellsMember m t) : SpellsMembers [m] t
  | cons {m : Member F.Value} {ms : List (Member F.Value)} {t ts : List Char}
      (h : F.SpellsMember m t) (hs : SpellsMembers ms ts) :
      SpellsMembers (m :: ms) (t ++ ',' :: ts)

inductive SpellsObject : List (Member F.Value) → List Char → Prop where
  | empty {b : List Char} (hb : Blanks b) : SpellsObject [] ('{' :: b ++ ['}'])
  | members {ms : List (Member F.Value)} {t : List Char} (h : F.SpellsMembers ms t) :
      SpellsObject ms ('{' :: t ++ ['}'])

/-! ## Meanings -/

/-- The record with the field of a member replaced. -/
def replace (m : Member F.Value) (x : ρ) : ρ :=
  match m with
  | .field f v => F.put f v x
  | .other => x

/-- The record with the fields of all members replaced. -/
def fill (ms : List (Member F.Value)) (x : ρ) : ρ := ms.foldl (fun x m => F.replace m x) x

/-- No key is given twice, in the object or within a value. -/
structure Distinct (ms : List (Member F.Value)) : Prop where
  nodup : (ms.filterMap Member.field?).Nodup
  value : ∀ f v, .field f v ∈ ms → F.again? f v = none

/-- The key is given twice, in the object or within a value. -/
inductive Repeats (key : String) (ms : List (Member F.Value)) : Prop where
  | member {pre mid post : List (Member F.Value)} {f : φ} {v w : F.Value f}
      (hms : ms = pre ++ .field f v :: mid ++ .field f w :: post) (hkey : key = r.key f)
  | value {f : φ} {v : F.Value f} (hmem : .field f v ∈ ms) (hkey : F.again? f v = some key)

/-- The same values, up to the order of members and to those that are no fields. -/
inductive Rearranged : List (Member F.Value) → List (Member F.Value) → Prop where
  | perm {ms ms' : List (Member F.Value)} (h : ms.Perm ms') : Rearranged ms ms'
  | other (ms : List (Member F.Value)) : Rearranged (.other :: ms) ms
  | value {f : φ} {v w : F.Value f} (h : F.Alike f v w) (ms : List (Member F.Value)) :
      Rearranged (.field f v :: ms) (.field f w :: ms)
  | symm {ms ms' : List (Member F.Value)} (h : Rearranged ms ms') : Rearranged ms' ms
  | trans {ms ms' ms'' : List (Member F.Value)} (h : Rearranged ms ms')
      (h' : Rearranged ms' ms'') : Rearranged ms ms''

variable {F}

theorem fill_cons_field {f : φ} (v : F.Value f) (ms : List (Member F.Value)) (x : ρ) :
    F.fill (.field f v :: ms) x = F.fill ms (F.put f v x) := rfl

theorem distinct_cons_other {ms : List (Member F.Value)} :
    F.Distinct (.other :: ms) ↔ F.Distinct ms := by
  constructor
  · rintro ⟨hnodup, hvalue⟩
    exact ⟨hnodup, fun f v h => hvalue f v (List.mem_cons_of_mem _ h)⟩
  · rintro ⟨hnodup, hvalue⟩
    refine ⟨hnodup, fun f v h => hvalue f v ?_⟩
    simpa using h

theorem distinct_cons_field {f : φ} {v : F.Value f} {ms : List (Member F.Value)} :
    F.Distinct (.field f v :: ms) ↔
      f ∉ ms.filterMap Member.field? ∧ F.again? f v = none ∧ F.Distinct ms := by
  constructor
  · rintro ⟨hnodup, hvalue⟩
    obtain ⟨hf, hnodup⟩ := List.nodup_cons.1 hnodup
    exact ⟨hf, hvalue f v List.mem_cons_self, hnodup, fun g w h =>
      hvalue g w (List.mem_cons_of_mem _ h)⟩
  · rintro ⟨hf, hagain, hnodup, hvalue⟩
    refine ⟨List.nodup_cons.2 ⟨hf, hnodup⟩, fun g w h => ?_⟩
    rcases List.mem_cons.1 h with h | h
    · cases h
      exact hagain
    · exact hvalue g w h

theorem Repeats.cons {key : String} {ms : List (Member F.Value)} (h : F.Repeats key ms)
    (m : Member F.Value) : F.Repeats key (m :: ms) := by
  cases h with
  | @member pre mid post f v w hms hkey =>
    have hcons : m :: ms = (m :: pre) ++ .field f v :: mid ++ .field f w :: post := by
      rw [hms]
      rfl
    exact .member hcons hkey
  | value hmem hkey => exact .value (List.mem_cons_of_mem m hmem) hkey

/-! ## The order of members -/

theorem Distinct.perm {ms ms' : List (Member F.Value)} (h : F.Distinct ms) (hp : ms.Perm ms') :
    F.Distinct ms' where
  nodup := (hp.filterMap _).nodup_iff.1 h.nodup
  value f v hmem := h.value f v (hp.mem_iff.2 hmem)

theorem fill_perm {ms ms' : List (Member F.Value)} (hp : ms.Perm ms') (h : F.Distinct ms)
    (x : ρ) : F.fill ms x = F.fill ms' x := by
  induction hp generalizing x with
  | nil => rfl
  | cons m _ ih =>
    cases m with
    | other => exact ih (distinct_cons_other.1 h) x
    | field f v => exact ih (distinct_cons_field.1 h).2.2 (F.put f v x)
  | swap m m' ms =>
    cases m with
    | other => rfl
    | field f v =>
      cases m' with
      | other => rfl
      | field g w =>
        have hne : f ≠ g := by
          rintro rfl
          exact (distinct_cons_field.1 h).1 List.mem_cons_self
        exact congrArg (F.fill ms) (F.put_comm hne v w x)
  | trans hp _ ih ih' => exact (ih h x).trans (ih' (h.perm hp) x)

theorem Rearranged.distinct_iff {ms ms' : List (Member F.Value)} (h : F.Rearranged ms ms') :
    F.Distinct ms ↔ F.Distinct ms' := by
  induction h with
  | perm hp => exact ⟨fun h => h.perm hp, fun h => h.perm hp.symm⟩
  | other ms => exact distinct_cons_other
  | value h ms => rw [distinct_cons_field, distinct_cons_field, F.again?_alike h]
  | symm _ ih => exact ih.symm
  | trans _ _ ih ih' => exact ih.trans ih'

/-- What members give does not depend on their order, nor on members that are no fields. -/
theorem Rearranged.fill_eq {ms ms' : List (Member F.Value)} (h : F.Rearranged ms ms')
    (hd : F.Distinct ms) (x : ρ) : F.fill ms x = F.fill ms' x := by
  induction h with
  | perm hp => exact fill_perm hp hd x
  | other ms => rfl
  | @value f v w h ms =>
    have hput := F.put_alike h (distinct_cons_field.1 hd).2.1
    rw [fill_cons_field, fill_cons_field, hput]
  | symm h ih => exact (ih (h.distinct_iff.2 hd)).symm
  | trans h _ ih ih' => exact (ih hd).trans (ih' (h.distinct_iff.1 hd))

/-! ## Reading -/

theorem field?_key (F : Form r) (f : φ) : r.field? (r.key f).toList = some f := by
  have hsome : (r.field? (r.key f).toList).isSome = true :=
    List.find?_isSome.2 ⟨f, F.mem_fields f, by simp⟩
  obtain ⟨g, hg⟩ := Option.isSome_iff_exists.1 hsome
  have hkey : r.key g = r.key f := String.toList_inj.1 (by simpa using List.find?_some hg)
  rw [hg, F.key_injective g f hkey]

theorem field?_other {key : List Char} (h : ∀ f, (r.key f).toList ≠ key) :
    r.field? key = none := by
  refine List.find?_eq_none.2 fun f _ => ?_
  simpa using h f

theorem SpellsMembers.length_le {ms : List (Member F.Value)} {t : List Char}
    (h : F.SpellsMembers ms t) : ms.length ≤ t.length := by
  have hmember {m : Member F.Value} {t : List Char} (h : F.SpellsMember m t) : 0 < t.length := by
    cases h <;>
    · simp only [List.length_append, List.length_cons]
      omega
  induction h with
  | last h => exact hmember h
  | cons h _ ih =>
    have hpos := hmember h
    simp only [List.length_append, List.length_cons]
    omega

variable [DecidableEq φ]

variable (F) in
/-- The first key, in reading order, that is one of those `given` before. -/
def repeatedAfter? : List φ → List (Member F.Value) → Option String
  | _, [] => none
  | given, .other :: ms => repeatedAfter? given ms
  | given, .field f v :: ms =>
    if f ∈ given then some (r.key f)
    else
      match F.again? f v with
      | some key => some key
      | none => repeatedAfter? (f :: given) ms

variable (F) in
def repeated? (ms : List (Member F.Value)) : Option String := F.repeatedAfter? [] ms

section Reading

variable {b rest : List Char} (fuel : Nat) (first : Bool) (given : List φ) (x : ρ)

/-- What stands before a member. -/
def lead (first : Bool) : List Char := if first then [] else [',']

theorem readMembers_blanks (hb : Blanks b) (rest : List Char) :
    r.readMembers fuel first given x (b ++ rest) = r.readMembers fuel first given x rest := by
  cases fuel with
  | zero => rfl
  | succ fuel => rw [Record.readMembers, Record.readMembers, hb.skip]

theorem readMembers_end (rest : List Char) :
    r.readMembers (fuel + 1) first given x ('}' :: rest) = .ok (x, rest) := by
  have hclose : skipBlanks ('}' :: rest) = '}' :: rest := skipBlanks_cons rfl _
  rw [Record.readMembers, hclose]
  rfl

/-- The text behind the quote that opens the key of a member. -/
theorem readMembers_key (hb : Blanks b) (cs : List Char) :
    r.readMembers (fuel + 1) first given x (lead first ++ (b ++ '"' :: cs)) = (do
      let (key, rest) ← scanText cs
      match r.field? key with
      | some f =>
        if f ∈ given then .error (.repeatedField (r.key f))
        else
          let rest ← skipColon rest
          let (x, rest) ← r.readField f x rest
          r.readMembers fuel false (f :: given) x rest
      | none =>
        let rest ← skipColon rest
        let rest ← skipValue rest
        r.readMembers fuel false given x rest) := by
  have hquote : skipBlanks ('"' :: cs) = '"' :: cs := skipBlanks_cons rfl _
  cases first with
  | true =>
    have hfront : skipBlanks (lead true ++ (b ++ '"' :: cs)) = '"' :: cs := by
      rw [lead, if_pos rfl, List.nil_append, hb.skip, hquote]
    rw [Record.readMembers, hfront]
    rfl
  | false =>
    have hfront : skipBlanks (lead false ++ (b ++ '"' :: cs)) = ',' :: (b ++ '"' :: cs) :=
      skipBlanks_cons rfl _
    have hopen : Record.openKey false (',' :: (b ++ '"' :: cs)) = .ok cs := by
      simp [Record.openKey, hb.skip, hquote]
    rw [Record.readMembers, hfront]
    change (Record.openKey false (',' :: (b ++ '"' :: cs))).bind _ = _
    rw [hopen]
    rfl

/-- A field is read into the record unless it was given before. -/
theorem readMembers_field {f : φ} {v : F.Value f} {t : List Char}
    (h : F.SpellsMember (.field f v) t) (hrest : Delimited rest) :
    r.readMembers (fuel + 1) first given x (lead first ++ (t ++ rest)) =
      if f ∈ given then .error (.repeatedField (r.key f))
      else (unlessRepeated (F.again? f v) ()).bind fun _ =>
        r.readMembers fuel false (f :: given) (F.put f v x) rest := by
  obtain @⟨f, v, b, k, b₁, b₂, t, b₃, hb, hk, hb₁, hb₂, ht, hb₃⟩ := h
  have hread := F.readField_eq ht hb₂ (hb₃.delimited hrest) x
  have htext : b ++ '"' :: k ++ '"' :: b₁ ++ ':' :: b₂ ++ t ++ b₃ ++ rest =
      b ++ '"' :: (k ++ '"' :: (b₁ ++ ':' :: (b₂ ++ (t ++ (b₃ ++ rest))))) := by simp
  rw [htext, readMembers_key fuel first given x hb, hk.scan]
  simp only [bind, Except.bind, field?_key F, skipColon_blanks hb₁, hread]
  split
  · rfl
  · cases F.again? f v with
    | none => exact readMembers_blanks fuel false _ _ hb₃ rest
    | some key => rfl

/-- A member that is no field leaves no trace. -/
theorem readMembers_other {t : List Char} (h : F.SpellsMember .other t) (hrest : Delimited rest) :
    r.readMembers (fuel + 1) first given x (lead first ++ (t ++ rest)) =
      r.readMembers fuel false given x rest := by
  obtain - | @⟨key, b, k, b₁, b₂, t, b₃, hb, hk, hkey, hb₁, hb₂, ht, hb₃⟩ := h
  have hskip := ht.skip hb₂ (hb₃.delimited hrest)
  have htext : b ++ '"' :: k ++ '"' :: b₁ ++ ':' :: b₂ ++ t ++ b₃ ++ rest =
      b ++ '"' :: (k ++ '"' :: (b₁ ++ ':' :: (b₂ ++ (t ++ (b₃ ++ rest))))) := by simp
  rw [htext, readMembers_key fuel first given x hb, hk.scan]
  simp only [bind, Except.bind, field?_other hkey, skipColon_blanks hb₁, hskip]
  exact readMembers_blanks fuel false given x hb₃ rest

end Reading

/-- Members are read in their order, up to the first key that was given before. -/
theorem SpellsMembers.read {ms : List (Member F.Value)} {t : List Char}
    (h : F.SpellsMembers ms t) {fuel : Nat} (hfuel : ms.length < fuel) (first : Bool)
    (given : List φ) (x : ρ) (rest : List Char) :
    r.readMembers fuel first given x (lead first ++ (t ++ '}' :: rest)) =
      unlessRepeated (F.repeatedAfter? given ms) (F.fill ms x, rest) := by
  have hclose : Delimited ('}' :: rest) := delimited_cons (by decide) rest
  induction h generalizing fuel first given x with
  | @last m t h =>
    obtain ⟨fuel, rfl⟩ : ∃ n, fuel = n + 2 := ⟨fuel - 2, by simp at hfuel; omega⟩
    cases m with
    | other =>
      rw [readMembers_other _ first given x h hclose]
      exact readMembers_end fuel false given x rest
    | field f v =>
      rw [readMembers_field _ first given x h hclose, repeatedAfter?]
      split
      · rfl
      · cases hagain : F.again? f v with
        | none => exact readMembers_end (r := r) fuel false (f :: given) (F.put f v x) rest
        | some key => rfl
  | @cons m ms t ts h _ ih =>
    obtain ⟨fuel, rfl⟩ := Nat.exists_eq_add_one.2 (Nat.zero_lt_of_lt hfuel)
    replace hfuel : ms.length < fuel := by simpa using hfuel
    have hcomma : Delimited (',' :: (ts ++ '}' :: rest)) := delimited_cons (by decide) _
    rw [List.append_assoc, List.cons_append]
    cases m with
    | other =>
      rw [readMembers_other _ first given x h hcomma]
      exact ih hfuel false given x
    | field f v =>
      rw [readMembers_field _ first given x h hcomma, repeatedAfter?]
      split
      · rfl
      · cases hagain : F.again? f v with
        | none => exact ih hfuel false (f :: given) (F.put f v x)
        | some key => rfl

/-- An object is read with the blanks before it. -/
theorem SpellsObject.read {ms : List (Member F.Value)} {b t : List Char}
    (h : F.SpellsObject ms t) (hb : Blanks b) (rest : List Char) :
    r.read (b ++ (t ++ rest)) = unlessRepeated (F.repeated? ms) (F.fill ms r.start, rest) := by
  cases h with
  | @empty b' hb' =>
    have htext : b ++ ('{' :: b' ++ ['}'] ++ rest) = b ++ '{' :: (b' ++ '}' :: rest) := by simp
    rw [htext, r.read_object hb, readMembers_blanks _ true [] r.start hb', readMembers_end]
    rfl
  | @members _ t h =>
    have htext : b ++ ('{' :: t ++ ['}'] ++ rest) = b ++ '{' :: (t ++ '}' :: rest) := by simp
    have hfuel : ms.length < (t ++ '}' :: rest).length + 1 := by
      have hlen := h.length_le
      simp only [List.length_append, List.length_cons]
      omega
    rw [htext, r.read_object hb]
    exact h.read hfuel true [] r.start rest

/-- A text that is one object is read whole. -/
theorem SpellsObject.ofText {ms : List (Member F.Value)} {b t b' : List Char}
    (h : F.SpellsObject ms t) (hb : Blanks b) (hb' : Blanks b') :
    r.ofText (b ++ (t ++ b')) = unlessRepeated (F.repeated? ms) (F.fill ms r.start) := by
  rw [Record.ofText, h.read hb]
  cases F.repeated? ms with
  | none => simp [unlessRepeated, bind, Except.bind, hb'.skip_eq_nil]
  | some key => rfl

/-! ## Keys that are given twice -/

theorem repeatedAfter?_eq_none_iff (given : List φ) (ms : List (Member F.Value)) :
    F.repeatedAfter? given ms = none ↔
      (∀ f ∈ ms.filterMap Member.field?, f ∉ given) ∧ F.Distinct ms := by
  induction ms generalizing given with
  | nil => exact ⟨fun _ => ⟨by simp, by simp, by simp⟩, fun _ => rfl⟩
  | cons m ms ih =>
    cases m with
    | other => rw [repeatedAfter?, ih, distinct_cons_other]; rfl
    | field f v =>
      rw [repeatedAfter?, distinct_cons_field]
      by_cases hf : f ∈ given
      · simp [hf, Member.field?]
      · cases hagain : F.again? f v with
        | some key => simp [hf]
        | none =>
          have hfields : (Member.field f v :: ms).filterMap Member.field? =
              f :: ms.filterMap Member.field? := rfl
          simp only [hf, if_false, ih, hfields, List.mem_cons, not_or, forall_eq_or_imp,
            not_false_eq_true, true_and]
          constructor
          · rintro ⟨hgiven, hdistinct⟩
            exact ⟨fun g hg => (hgiven g hg).2, fun hmem => (hgiven f hmem).1 rfl, hdistinct⟩
          · rintro ⟨hgiven, hmem, hdistinct⟩
            refine ⟨fun g hg => ⟨?_, hgiven g hg⟩, hdistinct⟩
            rintro rfl
            exact hmem hg

/-- No key is given again exactly when none is given twice. -/
theorem repeated?_eq_none_iff {ms : List (Member F.Value)} :
    F.repeated? ms = none ↔ F.Distinct ms := by
  rw [repeated?, repeatedAfter?_eq_none_iff]
  simp

theorem repeats_of_repeatedAfter? {given : List φ} {ms : List (Member F.Value)} {key : String}
    (h : F.repeatedAfter? given ms = some key) :
    (∃ f ∈ given, (∃ v, .field f v ∈ ms) ∧ key = r.key f) ∨ F.Repeats key ms := by
  induction ms generalizing given with
  | nil => cases h
  | cons m ms ih =>
    cases m with
    | other =>
      rcases ih h with ⟨f, hf, ⟨v, hv⟩, hkey⟩ | hrepeats
      · exact .inl ⟨f, hf, ⟨v, List.mem_cons_of_mem _ hv⟩, hkey⟩
      · exact .inr (hrepeats.cons _)
    | field f v =>
      rw [repeatedAfter?] at h
      split at h
      · next hf => exact .inl ⟨f, hf, ⟨v, List.mem_cons_self⟩, (Option.some.inj h).symm⟩
      · cases hagain : F.again? f v with
        | some again =>
          rw [hagain] at h
          exact .inr (.value List.mem_cons_self (hagain.trans h))
        | none =>
          rw [hagain] at h
          rcases ih h with ⟨g, hg, ⟨w, hw⟩, hkey⟩ | hrepeats
          · rcases List.mem_cons.1 hg with rfl | hg
            · obtain ⟨mid, post, rfl⟩ := List.append_of_mem hw
              have hms : .field g v :: (mid ++ .field g w :: post) =
                  [] ++ .field g v :: mid ++ .field g w :: post := rfl
              exact .inr (.member hms hkey)
            · exact .inl ⟨g, hg, ⟨w, List.mem_cons_of_mem _ hw⟩, hkey⟩
          · exact .inr (hrepeats.cons _)

/-- The first key that is given again is given twice. -/
theorem repeats_of_repeated? {ms : List (Member F.Value)} {key : String}
    (h : F.repeated? ms = some key) : F.Repeats key ms := by
  rcases repeats_of_repeatedAfter? h with ⟨f, hf, -⟩ | hrepeats
  · cases hf
  · exact hrepeats

end Form

end Json

end Caption
