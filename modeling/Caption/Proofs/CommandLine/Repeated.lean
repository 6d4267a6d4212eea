import Caption.Checked
import Caption.Error
import Caption.Proofs.CommandLine.Written

/-!
# Options that are given twice

What has been accepted is never given up: whatever argument comes next, either it ends the reading
or all values are still there. So an option that takes one value and has got it refuses another
one, however far behind and whatever stands between.

## Main definitions

* `Given.Within`: everything that was given is given still

## Main statements

* `Reading.within_step`: one argument
* `Reading.exists_of_run_append`: arguments on the way
* `Piece.run_ne_ok_of_repeated`: no line with such an option given twice is accepted
-/
namespace Caption

namespace Given

/-- The options that had a value have one. -/
def Within (g g' : Given) : Prop := ∀ o, (g.value? o).isSome → (g'.value? o).isSome

theorem Within.refl (g : Given) : g.Within g := fun _ h => h

theorem Within.trans {g g' g'' : Given} (h : g.Within g') (h' : g'.Within g'') : g.Within g'' :=
  fun o ho => h' o (h o ho)

theorem value?_append (g : Given) (o o' : OptionName) (v : String) :
    value? { g with values := g.values ++ [(o, v)] } o' =
      (g.value? o').or (if o' = o then some v else none) := by
  unfold value?
  rw [List.lookup_append]
  by_cases h : o' = o
  · simp [h]
  · simp [h, List.lookup_cons, beq_false_of_ne h]

theorem accept_ok {g g' : Given} {o : OptionName} {v : String} (h : g.accept o v = .ok g') :
    g' = { g with values := g.values ++ [(o, v)] } ∧
      (o.isList = false → g.value? o = none) := by
  unfold accept at h
  split at h
  next => cases h
  next hfree =>
    cases hv : checkValue o v with
    | error e => rw [hv] at h; cases h
    | ok u =>
      rw [hv] at h
      cases h
      refine ⟨rfl, fun ho => ?_⟩
      simpa [ho] using hfree

theorem within_accept {g g' : Given} {o : OptionName} {v : String} (h : g.accept o v = .ok g') :
    g.Within g' ∧ (g'.value? o).isSome := by
  obtain ⟨rfl, -⟩ := accept_ok h
  constructor
  · intro o' ho'
    rw [value?_append]
    simp [ho']
  · rw [value?_append]
    simp

theorem values_switchOn {g g' : Given} {s : SwitchName} (h : g.switchOn s = .ok g') :
    g'.values = g.values := by
  unfold switchOn at h
  split at h
  next => cases h
  next => cases h
  next =>
    split at h
    next => cases h
    next => cases h; rfl

theorem within_switchOn {g g' : Given} {s : SwitchName} (h : g.switchOn s = .ok g') :
    g.Within g' := by
  intro o ho
  rw [value?, values_switchOn h]
  exact ho

end Given

namespace Reading

variable {g : Grammar} {r r' : Reading}

theorem within_settle {given : Given} (h : r.settle = .ok given) : r.given.Within given := by
  unfold settle at h
  split at h
  next => cases h; exact .refl _
  next => cases h
  next => exact (Given.within_accept h).1

theorem within_option {o : OptionName} {value : Option String} (h : r.option o value = .ok r') :
    r.given.Within r'.given := by
  cases value with
  | none =>
    obtain ⟨settled, hsettled, hr⟩ := bind_eq_ok_iff.1 h
    cases hr
    exact within_settle hsettled
  | some v =>
    obtain ⟨settled, hsettled, h⟩ := bind_eq_ok_iff.1 h
    obtain ⟨accepted, haccepted, hr⟩ := bind_eq_ok_iff.1 h
    cases hr
    exact (within_settle hsettled).trans (Given.within_accept haccepted).1

theorem within_switch {s : SwitchName} (h : r.switch s = .ok r') : r.given.Within r'.given := by
  obtain ⟨settled, hsettled, h⟩ := bind_eq_ok_iff.1 h
  obtain ⟨switched, hswitched, hr⟩ := bind_eq_ok_iff.1 h
  cases hr
  exact (within_settle hsettled).trans (Given.within_switchOn hswitched)

theorem within_long {name : String} {value : Option String} (h : r.long g name value = .ok r') :
    r.given.Within r'.given := by
  unfold long at h
  split at h
  next => exact within_option h
  next => exact within_switch h
  next => cases h
  next => cases h

theorem within_short {cs : List Char} (h : r.short g cs = .ok r') : r.given.Within r'.given := by
  -- a switch may be followed by further letters; an option ends the argument
  induction cs generalizing r with
  | nil => cases h; exact .refl _
  | cons c cs ih =>
    unfold short at h
    split at h
    next => exact within_option h
    next => exact within_option h
    next => exact within_option h
    next =>
      obtain ⟨switched, hswitched, h⟩ := bind_eq_ok_iff.1 h
      exact (within_switch hswitched).trans (ih h)
    next => cases h

/-- Whatever is written, nothing is given up. -/
theorem within_step {a : Argument} (h : r.step g a = .ok r') : r.given.Within r'.given := by
  cases a with
  | stop => cases h; exact .refl _
  | long name value => exact within_long (g := g) h
  | short letters => exact within_short (g := g) h
  | plain text =>
    simp only [step] at h
    split at h
    next => cases h; exact .refl _
    next => cases h

theorem run_stop_cons {s : String} (h : Argument.ofText s = .stop) (t : String)
    (rest : List String) : run g r (s :: t :: rest) = .error .unknownArgument := by
  unfold run
  rw [h]

/-- If a line is read to its end, then so is what stands behind its first arguments. -/
theorem exists_of_run_append {xs ys : List String} {given : Given} (hys : ys ≠ [])
    (h : r.run g (xs ++ ys) = .ok given) :
    ∃ r' : Reading, r'.run g ys = .ok given ∧ r.given.Within r'.given := by
  induction xs generalizing r with
  | nil => exact ⟨r, h, .refl _⟩
  | cons s xs ih =>
    by_cases hstop : Argument.ofText s = .stop
    · -- options end here, and yet something follows
      obtain ⟨t, rest, hrest⟩ :=
        List.exists_cons_of_ne_nil (List.append_ne_nil_of_right_ne_nil xs hys)
      rw [List.cons_append, hrest, run_stop_cons hstop] at h
      cases h
    · rw [List.cons_append, run_cons g r hstop] at h
      obtain ⟨next, hnext, h⟩ := bind_eq_ok_iff.1 h
      obtain ⟨r', hr', hwithin⟩ := ih h
      exact ⟨r', hr', (within_step hnext).trans hwithin⟩

end Reading

namespace Piece

open CommandName (render)

/-- An option written with its value has been accepted when the reading goes on behind it. -/
theorem exists_of_run_value {o : OptionName} {v : String} {rest : List String} {r : Reading}
    {given : Given} (h : r.run render.grammar ((value o v).text :: rest) = .ok given) :
    ∃ before after, r.given.Within before ∧ before.accept o v = .ok after ∧
      Reading.run render.grammar ⟨after, none⟩ rest = .ok given := by
  have hstop : Argument.ofText (value o v).text ≠ .stop :=
    ofText_text (value o v) ▸ argument_ne_stop _
  rw [Reading.run_cons _ _ hstop, step_text] at h
  obtain ⟨next, hnext, hrest⟩ := bind_eq_ok_iff.1 h
  obtain ⟨before, hbefore, htake⟩ := bind_eq_ok_iff.1 hnext
  change (before.accept o v).map _ = _ at htake
  cases haccept : before.accept o v with
  | error e => rw [haccept] at htake; cases htake
  | ok after =>
    rw [haccept] at htake
    cases htake
    exact ⟨before, after, Reading.within_settle hbefore, haccept, hrest⟩

/-- An option with one value that is given twice spoils the line, whatever else stands in it. -/
theorem run_ne_ok_of_repeated {o : OptionName} (ho : o.isList = false) (v w : String)
    (xs ys zs : List String) (r : Reading) (given : Given) :
    r.run render.grammar (xs ++ (value o v).text :: (ys ++ (value o w).text :: zs)) ≠
      .ok given := by
  intro h
  obtain ⟨r₁, h₁, -⟩ := Reading.exists_of_run_append (List.cons_ne_nil _ _) h
  obtain ⟨start, first, -, hfirst, h₁⟩ := exists_of_run_value h₁
  obtain ⟨r₂, h₂, hkept⟩ := Reading.exists_of_run_append (List.cons_ne_nil _ _) h₁
  obtain ⟨before, after, hbefore, hsecond, -⟩ := exists_of_run_value h₂
  have hgiven : (before.value? o).isSome :=
    (hkept.trans hbefore) o (Given.within_accept hfirst).2
  have hfree : before.value? o = none := (Given.accept_ok hsecond).2 ho
  rw [hfree] at hgiven
  cases hgiven

end Piece

end Caption
