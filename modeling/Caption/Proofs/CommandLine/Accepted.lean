import Caption.Proofs.CommandLine.Repeated

/-!
# Pieces one after another

A piece that may be given once takes up a slot, and the next piece with this slot is refused. If
no slot is taken up twice and every value is all right, then a whole line is accepted, and what it
gives stands in its pieces. Otherwise something is wrong with the use of the program.

## Main definitions

* `Piece.slot?`: what a piece takes up
* `Given.ofPieces`: what is given by pieces that are all accepted

## Main statements

* `Piece.take_ofPieces`: one more piece
* `Piece.foldlM_take_ofPieces`: pieces with slots of their own
* `Piece.foldlM_take_error`: any other pieces
-/
namespace Caption

/-- What can be said once. -/
inductive Slot where
  | option (o : OptionName)
  | switch (s : SwitchName)
deriving DecidableEq, Repr

namespace Piece

def pair? : Piece → Option (OptionName × String)
  | value o v => some (o, v)
  | _ => none

def switch? : Piece → Option SwitchName
  | value _ _ => none
  | noSystemFonts => some .noSystemFonts
  | verbose _ => some .verbose

def slot? : Piece → Option Slot
  | value o _ => if o.isList then none else some (.option o)
  | noSystemFonts => some (.switch .noSystemFonts)
  | verbose _ => some (.switch .verbose)

def valueOf? (o : OptionName) : Piece → Option String
  | value o' v => if o' = o then some v else none
  | _ => none

/-- The value, if any, may be given to the option. -/
def Admissible : Piece → Prop
  | value o v => Given.checkValue o v = .ok ()
  | _ => True

end Piece

namespace Given

/-- What is given by pieces that are all accepted. -/
def ofPieces (ps : List Piece) : Given := ⟨ps.filterMap Piece.pair?, ps.filterMap Piece.switch?⟩

theorem ofPieces_append_singleton (ps : List Piece) (p : Piece) :
    ofPieces (ps ++ [p]) =
      ⟨(ofPieces ps).values ++ p.pair?.toList, (ofPieces ps).switches ++ p.switch?.toList⟩ := by
  unfold ofPieces
  grind

theorem value?_eq_head? (g : Given) (o : OptionName) : g.value? o = (g.all o).head? := by
  obtain ⟨values, switches⟩ := g
  unfold value? all
  induction values with
  | nil => rfl
  | cons p values ih =>
    obtain ⟨o', v⟩ := p
    by_cases h : o' = o
    · subst h
      simp
    · have hne : (o == o') = false := beq_false_of_ne (Ne.symm h)
      simpa [List.lookup_cons, h, hne] using ih

theorem all_ofPieces (ps : List Piece) (o : OptionName) :
    (ofPieces ps).all o = ps.filterMap (Piece.valueOf? o) := by
  unfold all ofPieces
  induction ps with
  | nil => rfl
  | cons p ps ih => cases p <;> grind [Piece.pair?, Piece.valueOf?]

theorem value?_ofPieces (ps : List Piece) (o : OptionName) :
    (ofPieces ps).value? o = (ps.filterMap (Piece.valueOf? o)).head? := by
  rw [value?_eq_head?, all_ofPieces]

theorem isSome_value?_ofPieces (ps : List Piece) {o : OptionName} (ho : o.isList = false) :
    ((ofPieces ps).value? o).isSome ↔ .option o ∈ ps.filterMap Piece.slot? := by
  rw [value?_ofPieces]
  induction ps with
  | nil => simp
  | cons p ps ih => cases p <;> grind [Piece.slot?, Piece.valueOf?]

theorem has_ofPieces (ps : List Piece) (s : SwitchName) :
    (ofPieces ps).has s ↔ .switch s ∈ ps.filterMap Piece.slot? := by
  unfold has ofPieces
  induction ps with
  | nil => simp
  | cons p ps ih => cases p <;> grind [Piece.slot?, Piece.switch?]

theorem exitCode_of_checkValue {o : OptionName} {v : String} {e : UsageError}
    (h : checkValue o v = .error e) : e.exitCode = 2 := by
  unfold checkValue at h
  split at h
  next => cases h; rfl
  next =>
    split at h
    next => cases h; rfl
    next => cases h

theorem accept_of_checkValue (g : Given) {o : OptionName} {v : String}
    (h : checkValue o v = .ok ()) :
    g.accept o v = if !o.isList && (g.value? o).isSome then .error .repeated
      else .ok { g with values := g.values ++ [(o, v)] } := by
  unfold accept
  rw [h]
  rfl

end Given

namespace Piece

/-- One more piece is accepted if its slot is free. -/
theorem take_ofPieces (ps : List Piece) {p : Piece} (h : p.Admissible) :
    p.take (.ofPieces ps) =
      if ∃ s ∈ p.slot?, s ∈ ps.filterMap slot? then .error .repeated
      else .ok (.ofPieces (ps ++ [p])) := by
  rw [Given.ofPieces_append_singleton]
  cases p with
  | value o v =>
    have hused := Given.isSome_value?_ofPieces ps (o := o)
    rw [take, Given.accept_of_checkValue _ h]
    cases ho : o.isList <;> simp_all [slot?, pair?, switch?]
  | noSystemFonts =>
    have hused := Given.has_ofPieces ps .noSystemFonts
    simp [take, Given.switchOn, hused, slot?, pair?, switch?]
  | verbose flag =>
    have hused := Given.has_ofPieces ps .verbose
    simp [take, Given.switchOn, hused, slot?, pair?, switch?]

/-- Pieces that take up different slots are accepted. -/
theorem foldlM_take_ofPieces (ps : List Piece) {qs : List Piece} (hq : ∀ q ∈ qs, q.Admissible)
    (h : ((ps ++ qs).filterMap slot?).Nodup) :
    qs.foldlM take (.ofPieces ps) = .ok (.ofPieces (ps ++ qs)) := by
  induction qs generalizing ps with
  | nil =>
    rw [List.append_nil]
    rfl
  | cons q qs ih =>
    have hfree : ¬ ∃ s ∈ q.slot?, s ∈ ps.filterMap slot? := by
      rintro ⟨s, hs, hused⟩
      rw [List.filterMap_append, List.filterMap_cons_some hs] at h
      exact (List.nodup_append.1 h).2.2 s hused s List.mem_cons_self rfl
    rw [List.append_cons] at h ⊢
    rw [List.foldlM_cons, take_ofPieces ps (hq q List.mem_cons_self), if_neg hfree]
    exact ih _ (fun q' hq' => hq q' (List.mem_cons_of_mem _ hq')) h

/-- A piece that is refused is an error of use, and if its value is all right, then something took
up its slot before. -/
theorem take_error {p : Piece} {g : Given} {e : UsageError} (h : p.take g = .error e) :
    e.exitCode = 2 ∧ (p.Admissible → e = .repeated) := by
  cases p with
  | value o v =>
    simp only [take, Given.accept] at h
    split at h
    next => cases h; exact ⟨rfl, fun _ => rfl⟩
    next =>
      cases hv : Given.checkValue o v with
      | error e' =>
        rw [hv] at h
        cases h
        refine ⟨Given.exitCode_of_checkValue hv, fun hadmissible => ?_⟩
        cases hv.symm.trans hadmissible
      | ok u => rw [hv] at h; cases h
  | noSystemFonts =>
    simp only [take, Given.switchOn] at h
    split at h <;> cases h
    exact ⟨rfl, fun _ => rfl⟩
  | verbose flag =>
    simp only [take, Given.switchOn] at h
    split at h <;> cases h
    exact ⟨rfl, fun _ => rfl⟩

theorem foldlM_take_error {ps : List Piece} {g : Given} {e : UsageError}
    (h : ps.foldlM take g = .error e) :
    e.exitCode = 2 ∧ ((∀ p ∈ ps, p.Admissible) → e = .repeated) := by
  induction ps generalizing g with
  | nil => cases h
  | cons p ps ih =>
    rw [List.foldlM_cons] at h
    cases hp : p.take g with
    | error e' =>
      rw [hp] at h
      cases h
      exact (take_error hp).imp_right fun hrepeated hall => hrepeated (hall p List.mem_cons_self)
    | ok g' =>
      rw [hp] at h
      exact (ih h).imp_right fun hrepeated hall =>
        hrepeated fun q hq => hall q (List.mem_cons_of_mem _ hq)

end Piece

end Caption
