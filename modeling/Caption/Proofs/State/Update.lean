import Caption.State

/-!
# Updates of a state

An update takes every field from its settings but two: the canvas, which is measured anew
later, and the name of the file while the text is typed. So what a caption shows after any
number of updates follows from the last settings, while the name that it remembers is that of
the last file it was told to read.

## Main definitions

* `State.after`: a state after several updates
* `State.lastFile`: the file that was asked for last

## Main statements

* `State.apply_after`: what any sequence of updates ends in
* `State.apply_after_eq_ofSettings_iff`: when that is the state of a new caption
* `State.update_forgets_all_but_file`: both together
-/
namespace Caption

theorem Logged.map_eq {α β : Type} (f : α → β) (x : Logged α) :
    f <$> x = ⟨f x.value, x.log⟩ := by
  change (⟨f x.value, x.log ++ []⟩ : Logged β) = _
  rw [List.append_nil]

namespace State

/-- Settings with what they are read by. -/
abbrev Change := Settings × TextReader

def after (st : State) (cs : List Change) : State :=
  cs.foldl (fun st c => (st.apply c.1 c.2).value) st

/-- The file of the last settings that read from one, `name` if there are none. -/
def lastFile (name : String) (cs : List Change) : String :=
  cs.foldl (fun name c => if c.1.readFromFile then c.1.file else name) name

/-- A state that keeps a canvas and a file's name. -/
def keeping (canvas : Canvas) (file : String) (st : State) : State :=
  { st with canvas := canvas, file := file }

theorem apply_eq (st : State) (s : Settings) (read : TextReader) :
    st.apply s read =
      keeping st.canvas (if s.readFromFile then s.file else st.file) <$> ofSettings s read := by
  rw [Logged.map_eq]
  rfl

@[simp] theorem canvas_apply (st : State) (s : Settings) (read : TextReader) :
    (st.apply s read).value.canvas = st.canvas := rfl

@[simp] theorem file_apply (st : State) (s : Settings) (read : TextReader) :
    (st.apply s read).value.file = if s.readFromFile then s.file else st.file := rfl

theorem canvas_after (st : State) (cs : List Change) : (st.after cs).canvas = st.canvas := by
  unfold after
  induction cs generalizing st with
  | nil => rfl
  | cons c cs ih => rw [List.foldl_cons, ih, canvas_apply]

theorem file_after (st : State) (cs : List Change) :
    (st.after cs).file = lastFile st.file cs := by
  unfold after lastFile
  induction cs generalizing st with
  | nil => rfl
  | cons c cs ih => rw [List.foldl_cons, ih, file_apply, List.foldl_cons]

/-- Nothing of the settings before the last remains but the name of a file. -/
theorem apply_after (st : State) (cs : List Change) (s : Settings) (read : TextReader) :
    (st.after cs).apply s read =
      keeping st.canvas (lastFile st.file (cs ++ [(s, read)])) <$> ofSettings s read := by
  rw [apply_eq, canvas_after, file_after]
  simp [lastFile]

theorem file_ofSettings (s : Settings) (read : TextReader) :
    (ofSettings s read).value.file = if s.readFromFile then s.file else "" := rfl

/-- After any updates, an update ends in the state of a new caption with the old canvas exactly
when it reads from a file or no file's name is remembered. -/
theorem apply_after_eq_ofSettings_iff (st : State) (cs : List Change) (s : Settings)
    (read : TextReader) :
    (st.after cs).apply s read =
        (fun new => { new with canvas := st.canvas }) <$> ofSettings s read ↔
      s.readFromFile = true ∨ lastFile st.file cs = "" := by
  have hlast : lastFile st.file (cs ++ [(s, read)]) =
      if s.readFromFile then s.file else lastFile st.file cs := by
    simp [lastFile]
  rw [apply_after, hlast, Logged.map_eq, Logged.map_eq]
  constructor
  · intro h
    have hfile := congrArg (fun x => x.value.file) h
    simp only [keeping, file_ofSettings] at hfile
    by_cases hr : s.readFromFile = true
    · exact .inl hr
    · exact .inr (by simpa [hr] using hfile)
  · intro h
    have hfile : (if s.readFromFile then s.file else lastFile st.file cs) =
        (ofSettings s read).value.file := by
      rw [file_ofSettings]
      rcases h with h | h <;> simp [h]
    simp only [keeping, hfile]

/-- An update forgets the settings before it, all but the name of the last file; it forgets them
wholly exactly when it reads from a file or no file's name is remembered. -/
theorem update_forgets_all_but_file (st : State) (cs : List Change) (s : Settings)
    (read : TextReader) :
    (st.after cs).apply s read =
        keeping st.canvas (lastFile st.file (cs ++ [(s, read)])) <$> ofSettings s read ∧
      ((st.after cs).apply s read =
          (fun new => { new with canvas := st.canvas }) <$> ofSettings s read ↔
        s.readFromFile = true ∨ lastFile st.file cs = "") :=
  ⟨apply_after st cs s read, apply_after_eq_ofSettings_iff st cs s read⟩

/-- A typed text after a text from a file leaves the file's name behind. -/
theorem apply_after_ne_ofSettings :
    ¬ ∀ (st : State) (s : Settings) (read : TextReader),
      st.apply s read = (fun new => { new with canvas := st.canvas }) <$> ofSettings s read := by
  intro h
  let shown : Settings := { Settings.default with readFromFile := true, file := "a.txt" }
  let typed : Settings := { Settings.default with text := "typed" }
  let read : TextReader := fun _ => pure ['x']
  have hfile := congrArg (fun x => x.value.file) (h (initial.after [(shown, read)]) typed read)
  exact absurd hfile (by decide)

end State

end Caption
