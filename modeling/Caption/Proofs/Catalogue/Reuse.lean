import Mathlib.Data.List.Induction
import Caption.Catalogue.Basic

/-!
# Faces that are read once

A catalogue keeps the faces it has read by the place of their entries, but a face also carries the
name that it was asked for by. So what is kept is a function of the requests so far: at each place
the answer to the first request that was led there, under that request's name. A later request for
the same face gets all of it right but the name, and a catalogue answers as if it had read nothing
exactly as long as no face is asked for by two names.

## Main definitions

* `Catalogue.unread`: a catalogue that has read no face
* `Catalogue.after`: the catalogue after some requests
* `Catalogue.nameFor`: the name that a request is answered under

## Main statements

* `Catalogue.remembers_after`: what is kept after some requests
* `Catalogue.answer_after`: an answer is a first answer under the name that was kept
* `Catalogue.answers_reused`: when answers are first answers
-/
namespace Caption

/-- The same face known by a name. -/
def Typeface.named {α : Type} (f : Typeface α) (family : String) : Typeface α :=
  { f with family := family }

/-- What is asked of a catalogue at once. -/
structure FaceRequest where
  family : String
  style : Style
deriving DecidableEq

namespace Catalogue

/-- Known faces of which none has been read. -/
def unread (entries : List CatalogueEntry) : Catalogue := ⟨entries, []⟩

variable (files : FileTree) (entries : List CatalogueEntry)

def answer (c : Catalogue) (r : FaceRequest) : Except FontError (Typeface Float32) :=
  (load files r.family r.style c).1

/-- The catalogue after requests one after another. -/
def after (c : Catalogue) (rs : List FaceRequest) : Catalogue :=
  rs.foldl (fun c r => (load files r.family r.style c).2) c

/-- The place of the entry that a request is led to. -/
def place? (r : FaceRequest) : Option Nat :=
  ((unread entries).find? r.family r.style).map Prod.snd

/-- The name a request is answered under: that of the first request so far, this one included,
that is led to the same entry. -/
def nameFor (before : List FaceRequest) (r : FaceRequest) : String :=
  (((before ++ [r]).find? fun q => place? entries q = place? entries r).getD r).family

/-! ## One entry -/

section Narrowed

variable {α β : Type}

theorem mem_of_mem_keepBest [BEq β] {key : α → β} {best? : List β → Option β} {xs : List α}
    {x : α} (h : x ∈ keepBest key best? xs) : x ∈ xs := by
  unfold keepBest at h
  split at h
  · exact (List.mem_filter.1 h).1
  · cases h

theorem mem_of_mem_narrowed {design : α → Design} {style : Style} {xs : List α} {x : α}
    (h : x ∈ narrowed design style xs) : x ∈ xs :=
  mem_of_mem_keepBest (mem_of_mem_keepBest (mem_of_mem_keepBest h))

end Narrowed

variable {files entries}

/-- The place of an entry tells which one it is. -/
theorem getElem?_of_find? {c : Catalogue} {family : String} {style : Style} {e : CatalogueEntry}
    {i : Nat} (h : c.find? family style = some (e, i)) : c.entries[i]? = some e := by
  have hmem := mem_of_mem_narrowed (List.mem_of_mem_head? (Option.mem_def.2 h))
  exact List.mk_mem_zipIdx_iff_getElem?.1 (List.mem_filter.1 hmem).1

/-- Finding an entry does not ask which faces have been read. -/
theorem find?_eq {c : Catalogue} (h : c.entries = entries) (r : FaceRequest) :
    c.find? r.family r.style = (unread entries).find? r.family r.style := by
  subst h
  rfl

/-- Reading an entry under another name changes nothing but the name. -/
theorem toOption_read (e : CatalogueEntry) (family other : String) :
    (CatalogueEntry.read files e other).toOption =
      (CatalogueEntry.read files e family).toOption.map fun f => f.named other := by
  unfold CatalogueEntry.read OpenType.readFace
  split
  · cases OpenType.Directory.ofBytes? _ e.index <;> rfl
  · rfl

/-! ## First answers -/

theorem answer_unread (files : FileTree) (entries : List CatalogueEntry) (r : FaceRequest) :
    answer files (unread entries) r =
    match (unread entries).find? r.family r.style with
    | none => .error (.familyNotFound r.family)
    | some (e, _) => CatalogueEntry.read files e r.family := by
  unfold answer load
  cases (unread entries).find? r.family r.style with
  | none => rfl
  | some found =>
    obtain ⟨e, i⟩ := found
    have hunread : (unread entries).faces.lookup i = none := rfl
    simp only [hunread]
    cases CatalogueEntry.read files e r.family <;> rfl

/-- Requests that are led to one place get the same face, each under its own name. -/
theorem toOption_answer_unread (files : FileTree) {q r : FaceRequest}
    (h : place? entries q = place? entries r) :
    (answer files (unread entries) r).toOption =
      (answer files (unread entries) q).toOption.map fun f => f.named r.family := by
  rw [answer_unread, answer_unread]
  unfold place? at h
  cases hq : (unread entries).find? q.family q.style with
  | none =>
    rw [hq] at h
    rw [Option.map_eq_none_iff.1 h.symm]
    rfl
  | some found =>
    obtain ⟨e, i⟩ := found
    rw [hq] at h
    obtain ⟨⟨d, j⟩, hr, rfl⟩ := Option.map_eq_some_iff.1 h.symm
    have hsame : d = e := by
      have he := getElem?_of_find? hq
      have hd := getElem?_of_find? hr
      exact Option.some.inj (hd.symm.trans he)
    subst hsame
    rw [hr]
    exact toOption_read d q.family r.family

/-- A first answer is under the name that was asked for. -/
theorem family_of_answer_unread {r : FaceRequest} {face : Typeface Float32}
    (h : answer files (unread entries) r = .ok face) : face.family = r.family := by
  have hself := toOption_answer_unread files (rfl : place? entries r = place? entries r)
  rw [h] at hself
  exact congrArg Typeface.family (Option.some.inj hself)

/-! ## What is kept -/

/-- The face kept at a place after some requests: the first request that was led there tells. -/
def kept (files : FileTree) (entries : List CatalogueEntry) (rs : List FaceRequest) (i : Nat) :
    Option (Typeface Float32) :=
  (rs.find? fun q => place? entries q = some i).bind fun q =>
    (answer files (unread entries) q).toOption

/-- What a catalogue of some entries knows after some requests. -/
structure Remembers (files : FileTree) (entries : List CatalogueEntry) (rs : List FaceRequest)
    (c : Catalogue) : Prop where
  entries_eq : c.entries = entries
  lookup_eq : ∀ i, c.faces.lookup i = kept files entries rs i

variable {rs : List FaceRequest} {r : FaceRequest} {i : Nat}

theorem kept_concat_of_ne (h : place? entries r ≠ some i) :
    kept files entries (rs ++ [r]) i = kept files entries rs i := by
  simp [kept, h]

/-- If the first request for a place had no face, a later one has none either. -/
theorem kept_concat_of_eq (h : place? entries r = some i) :
    kept files entries (rs ++ [r]) i =
      (kept files entries rs i).or (answer files (unread entries) r).toOption := by
  cases hfirst : rs.find? fun q => place? entries q = some i with
  | none => simp [kept, List.find?_append, hfirst, h]
  | some q =>
    have hq : place? entries q = some i := by simpa using List.find?_some hfirst
    have hr := toOption_answer_unread files (hq.trans h.symm)
    simp only [kept, List.find?_append, hfirst, Option.some_or, Option.bind_some]
    cases hface : (answer files (unread entries) q).toOption with
    | none => rw [hr, hface]; rfl
    | some face => rfl

namespace Remembers

theorem start : Remembers files entries [] (unread entries) := ⟨rfl, fun _ => rfl⟩

variable {c : Catalogue}

/-- Nothing needs to be kept after a request without a face or for a face that is kept. -/
theorem again (h : Remembers files entries rs c)
    (hkept : ∀ i, place? entries r = some i → kept files entries rs i = none →
      (answer files (unread entries) r).toOption = none) :
    Remembers files entries (rs ++ [r]) c where
  entries_eq := h.entries_eq
  lookup_eq i := by
    rw [h.lookup_eq]
    by_cases hi : place? entries r = some i
    · rw [kept_concat_of_eq hi]
      cases hface : kept files entries rs i with
      | none => rw [hkept i hi hface]; rfl
      | some face => rfl
    · rw [kept_concat_of_ne hi]

theorem insert (h : Remembers files entries rs c) {i : Nat} {face : Typeface Float32}
    (hi : place? entries r = some i) (hkept : kept files entries rs i = none)
    (hface : answer files (unread entries) r = .ok face) :
    Remembers files entries (rs ++ [r]) { c with faces := (i, face) :: c.faces } where
  entries_eq := h.entries_eq
  lookup_eq j := by
    by_cases hj : j = i
    · subst hj
      rw [kept_concat_of_eq hi, hkept, hface]
      exact List.lookup_cons_self
    · have hne : place? entries r ≠ some j := fun hj' => hj (Option.some.inj (hj'.symm.trans hi))
      rw [kept_concat_of_ne hne, ← h.lookup_eq, List.lookup_cons, beq_false_of_ne hj]

/-- One more request keeps at most one more face. -/
theorem load (h : Remembers files entries rs c) (r : FaceRequest) :
    Remembers files entries (rs ++ [r]) (load files r.family r.style c).2 := by
  have hanswer := answer_unread files entries r
  unfold Catalogue.load
  rw [find?_eq h.entries_eq]
  cases hfind : (unread entries).find? r.family r.style with
  | none =>
    rw [hfind] at hanswer
    exact h.again fun _ _ _ => by rw [hanswer]; rfl
  | some found =>
    obtain ⟨e, i⟩ := found
    rw [hfind] at hanswer
    have hplace : place? entries r = some i := by rw [place?, hfind]; rfl
    cases hlookup : c.faces.lookup i with
    | some face =>
      simp only [hlookup]
      refine h.again fun j hj hnone => ?_
      obtain rfl := Option.some.inj (hplace.symm.trans hj)
      rw [← h.lookup_eq, hlookup] at hnone
      cases hnone
    | none =>
      simp only [hlookup]
      cases hread : CatalogueEntry.read files e r.family with
      | ok face => exact h.insert hplace (h.lookup_eq i ▸ hlookup) (hanswer.trans hread)
      | error cause =>
        have hcause : answer files (unread entries) r = .error cause := hanswer.trans hread
        exact h.again fun _ _ _ => by rw [hcause]; rfl

/-- A kept face is given as it is, any other one as by a catalogue that has read nothing. -/
theorem answer_eq (h : Remembers files entries rs c) (r : FaceRequest) :
    answer files c r =
      match (place? entries r).bind (kept files entries rs) with
      | some face => .ok face
      | none => answer files (Catalogue.unread entries) r := by
  rw [answer_unread]
  unfold answer Catalogue.load place?
  rw [find?_eq h.entries_eq]
  cases (Catalogue.unread entries).find? r.family r.style with
  | none => rfl
  | some found =>
    obtain ⟨e, i⟩ := found
    simp only [Option.map_some, Option.bind_some, h.lookup_eq i]
    cases kept files entries rs i with
    | some face => rfl
    | none => cases CatalogueEntry.read files e r.family <;> rfl

end Remembers

/-- So many requests keep the faces that their first answers gave. -/
theorem remembers_after (files : FileTree) (entries : List CatalogueEntry)
    (rs : List FaceRequest) : Remembers files entries rs ((unread entries).after files rs) := by
  induction rs using List.reverseRecOn with
  | nil => exact .start
  | append_singleton rs r ih =>
    have hlast : (unread entries).after files (rs ++ [r]) =
        (load files r.family r.style ((unread entries).after files rs)).2 := List.foldl_append ..
    rw [hlast]
    exact ih.load r

/-! ## Later answers -/

theorem map_named_answer_unread (r : FaceRequest) (family : String) :
    (answer files (unread entries) r).map (fun f => f.named family) =
        answer files (unread entries) r ↔
      (∃ cause, answer files (unread entries) r = .error cause) ∨ family = r.family := by
  cases hfirst : answer files (unread entries) r with
  | error cause => simp [Except.map]
  | ok face =>
    have hfamily := family_of_answer_unread hfirst
    simp only [Except.map, Except.ok.injEq, reduceCtorEq, exists_false, false_or]
    constructor
    · intro h
      exact (congrArg Typeface.family h).trans hfamily
    · rintro rfl
      rw [← hfamily]
      rfl

theorem exists_nameFor (entries : List CatalogueEntry) (before : List FaceRequest)
    (r : FaceRequest) :
    ∃ q, place? entries q = place? entries r ∧ nameFor entries before r = q.family := by
  unfold nameFor
  cases hfound : (before ++ [r]).find? fun q => place? entries q = place? entries r with
  | none => exact ⟨r, rfl, rfl⟩
  | some q => exact ⟨q, by simpa using List.find?_some hfound, rfl⟩

theorem toOption_answer_of_place?_none (h : place? entries r = none) :
    (answer files (unread entries) r).toOption = none := by
  rw [answer_unread, Option.map_eq_none_iff.1 h]
  rfl

/-- What is kept where a request is led was given to the first request that was led there. -/
theorem kept_at_place (rs : List FaceRequest) (r : FaceRequest) :
    (place? entries r).bind (kept files entries rs) =
      (rs.find? fun q => place? entries q = place? entries r).bind fun q =>
        (answer files (unread entries) q).toOption := by
  cases hr : place? entries r with
  | some i => rfl
  | none =>
    cases hfirst : rs.find? fun q => place? entries q = none with
    | none => rfl
    | some q =>
      have hq : place? entries q = none := by simpa using List.find?_some hfirst
      exact (toOption_answer_of_place?_none hq).symm

/-- A request after others gets what it would get first, under the name that was kept. -/
theorem answer_after (files : FileTree) (entries : List CatalogueEntry)
    (before : List FaceRequest) (r : FaceRequest) :
    answer files ((unread entries).after files before) r =
      (answer files (unread entries) r).map fun f => f.named (nameFor entries before r) := by
  rw [(remembers_after files entries before).answer_eq, kept_at_place, nameFor, List.find?_append]
  cases hfirst : before.find? fun q => place? entries q = place? entries r with
  | none => simpa using ((map_named_answer_unread r r.family).2 (.inr rfl)).symm
  | some q =>
    have hq : place? entries q = place? entries r := by simpa using List.find?_some hfirst
    have hr := toOption_answer_unread files hq
    simp only [Option.bind_some, Option.some_or, Option.getD_some]
    cases hface : answer files (unread entries) q with
    | error cause =>
      rw [hface] at hr
      cases hanswer : answer files (unread entries) r with
      | error other => rfl
      | ok face => rw [hanswer] at hr; cases hr
    | ok face =>
      rw [hface] at hr
      have hanswer : answer files (unread entries) r = .ok (face.named r.family) := by
        cases hanswer : answer files (unread entries) r with
        | error other => rw [hanswer] at hr; cases hr
        | ok other => rw [hanswer] at hr; exact congrArg Except.ok (Option.some.inj hr)
      rw [hanswer, ← family_of_answer_unread hface]
      rfl

/-- After any requests an answer is the one that a catalogue gives which has read nothing, but for
the name: that is the name of the first request for the same entry. So the answer is the same
exactly if there is no face or the request is under that name, and all answers of some entries are
the same exactly if no face is reached by two names. -/
theorem answers_reused (files : FileTree) (entries : List CatalogueEntry) :
    (∀ before r, answer files ((unread entries).after files before) r =
      (answer files (unread entries) r).map fun f => f.named (nameFor entries before r)) ∧
    (∀ before r, answer files ((unread entries).after files before) r =
        answer files (unread entries) r ↔
      (∃ cause, answer files (unread entries) r = .error cause) ∨
        nameFor entries before r = r.family) ∧
    ((∀ before r, answer files ((unread entries).after files before) r =
        answer files (unread entries) r) ↔
      ∀ q r face, place? entries q = place? entries r →
        answer files (unread entries) r = .ok face → q.family = r.family) := by
  have hone (before : List FaceRequest) (r : FaceRequest) :
      answer files ((unread entries).after files before) r = answer files (unread entries) r ↔
        (∃ cause, answer files (unread entries) r = .error cause) ∨
          nameFor entries before r = r.family := by
    rw [answer_after, map_named_answer_unread]
  refine ⟨answer_after files entries, hone, ?_⟩
  simp only [hone]
  constructor
  · intro h q r face hplace hface
    rcases h [q] r with ⟨cause, hcause⟩ | hname
    · rw [hface] at hcause
      cases hcause
    · simpa [nameFor, hplace] using hname
  · intro h before r
    cases hface : answer files (unread entries) r with
    | error cause => exact .inl ⟨cause, rfl⟩
    | ok face =>
      obtain ⟨q, hplace, hname⟩ := exists_nameFor entries before r
      exact .inr (hname.trans (h q r face hplace hface))

/-! ## A face of two names -/

/-- A font of no more than its names: a family called A and B, and P for printers. -/
def twoNames : ByteArray :=
  ⟨#[0, 1, 0, 0, 0, 1, 0, 0, 0, 0, 0, 0,
    -- the record of the name table, then the table, its three records and their texts
    0x6e, 0x61, 0x6d, 0x65, 0, 0, 0, 0, 0, 0, 0, 28, 0, 0, 0, 48,
    0, 0, 0, 3, 0, 42,
    0, 3, 0, 1, 4, 9, 0, 1, 0, 2, 0, 0,
    0, 3, 0, 1, 4, 7, 0, 1, 0, 2, 0, 2,
    0, 3, 0, 1, 4, 9, 0, 6, 0, 2, 0, 4,
    0, 0x41, 0, 0x42, 0, 0x50]⟩

/-- Once asked for by its first name, a face answers to that under its second name too. -/
theorem answer_keeps_first_name :
    let files : FileTree := ⟨[], [], []⟩
    let fonts := empty.addData twoNames
    let first := answer files fonts ⟨"B", .plain⟩
    let later := answer files (fonts.after files [⟨"A", .plain⟩]) ⟨"B", .plain⟩
    fonts.faces = [] ∧ first.toOption.map Typeface.family = some "B" ∧
      later.toOption.map Typeface.family = some "A" ∧ later ≠ first := by
  intro files fonts first later
  have hfirst : first.toOption.map Typeface.family = some "B" := by decide +kernel
  have hlater : later.toOption.map Typeface.family = some "A" := by decide +kernel
  refine ⟨rfl, hfirst, hlater, fun h => ?_⟩
  rw [h, hfirst] at hlater
  exact absurd hlater (by decide)

end Catalogue

end Caption
