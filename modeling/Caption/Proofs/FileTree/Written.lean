import Caption.Checked
import Caption.FileTree

/-!
# What is written is read

A path that a file is written to leads to this file from then on, and every other file is as it
was. The walk to the file goes through folders that were there before, and a new file takes the
place of none of them.

## Main definitions

* `FileTree.Known`: a place where there is something
* `FileTree.Step`: what one step of a walk can do
* `FileTree.Entered`: the way to a place that a file can be written to

## Main statements

* `FileTree.file?_put_of_ne`: other files are as they were
* `FileTree.foldlM_step_put`: a walk that was possible before is possible after
* `FileTree.read_put`: the new file is read back
-/
namespace Caption

namespace FileTree

variable {t : FileTree} {p q r : Place} {path name : String}

/-! ## Files and folders -/

@[simp] theorem file?_put_self (t : FileTree) (q : Place) (content : ByteArray) :
    (t.put q content).file? q = some content := by
  simp [put, file?]

theorem file?_put_of_ne (t : FileTree) (content : ByteArray) (h : r ≠ q) :
    (t.put q content).file? r = t.file? r := by
  have hrest (files : List (Place × ByteArray)) :
      (files.filter fun f => f.1 != q).lookup r = files.lookup r := by
    induction files with
    | nil => rfl
    | cons f files ih => grind
  grind [put, file?]

theorem isFile_put_of_ne (t : FileTree) (content : ByteArray) (h : r ≠ q) :
    (t.put q content).isFile r = t.isFile r := by
  rw [isFile, isFile, file?_put_of_ne t content h]

theorem isFolder_iff : t.isFolder p ↔
    p = [] ∨ p <+: t.here ∨ (∃ f ∈ t.folders, p <+: f) ∨ ∃ f ∈ t.files, p ≠ f.1 ∧ p <+: f.1 := by
  simp [isFolder, or_assoc]

theorem isFolder_dropLast (h : t.isFolder p) : t.isFolder p.dropLast := by
  have hfront := p.dropLast_prefix
  rw [isFolder_iff] at h ⊢
  obtain rfl | h | ⟨f, hf, h⟩ | ⟨f, hf, hne, h⟩ := h
  · exact .inl rfl
  · exact .inr (.inl (hfront.trans h))
  · exact .inr (.inr (.inl ⟨f, hf, hfront.trans h⟩))
  · refine .inr (.inr (.inr ⟨f, hf, ?_, hfront.trans h⟩))
    intro hplace
    exact hne (h.eq_of_length_le (hplace ▸ hfront.length_le))

/-- A new file takes no folder away. -/
theorem isFolder_put (q : Place) (content : ByteArray) (h : t.isFolder p) :
    (t.put q content).isFolder p := by
  rw [isFolder_iff] at h ⊢
  obtain h | h | h | ⟨f, hf, hne, h⟩ := h
  · exact .inl h
  · exact .inr (.inl h)
  · exact .inr (.inr (.inl h))
  · by_cases hq : f.1 = q
    · exact .inr (.inr (.inr ⟨(q, content), by simp [put], hq ▸ hne, hq ▸ h⟩))
    · exact .inr (.inr (.inr ⟨f, by simp [put, hf, hq], hne, h⟩))

/-! ## Walks -/

/-- There is a file or a folder at a place. -/
def Known (t : FileTree) (p : Place) : Prop := t.isFile p ∨ t.isFolder p

theorem Known.isFolder (h : t.Known p) (hfile : t.isFile p = false) : t.isFolder p :=
  h.resolve_left (by simp [hfile])

/-- What a step from a place that is no file can do. -/
inductive Step (t : FileTree) (p : Place) : String → Place → Prop
  | stay {name : String} (h : name = "" ∨ name = ".") : Step t p name p
  | up : Step t p ".." p.dropLast
  | into {name : String} (h : name ≠ "" ∧ name ≠ "." ∧ name ≠ "..")
      (known : t.Known (p ++ [name])) : Step t p name (p ++ [name])

theorem step_eq_ok_iff : t.step p name = .ok r ↔ t.isFile p = false ∧ Step t p name r := by
  constructor
  · intro h
    unfold step at h
    split at h
    next => cases h
    next hfile =>
      refine ⟨by simpa using hfile, ?_⟩
      split at h
      next hstay =>
        cases h
        exact .stay hstay
      next hstay =>
        split at h
        next hup =>
          cases h
          exact hup ▸ .up
        next hup =>
          dsimp only at h
          split at h
          next hnext =>
            cases h
            exact .into (by simpa [hup] using hstay) (by simpa [Known] using hnext)
          next => cases h
  · rintro ⟨hfile, ⟨hstay⟩ | _ | ⟨⟨hempty, hdot, hup⟩, known⟩⟩
    · simp [step, hfile, hstay]
    · simp [step, hfile]
    · have hnext : (t.isFile (p ++ [name]) || t.isFolder (p ++ [name])) = true := by
        simpa [Known] using known
      simp [step, hfile, hempty, hdot, hup, hnext]

theorem step_dot (hfile : t.isFile p = false) : t.step p "." = .ok p :=
  step_eq_ok_iff.2 ⟨hfile, .stay (.inr rfl)⟩

theorem Known.step (hp : t.Known p) (h : t.step p name = .ok r) : t.Known r := by
  obtain ⟨hfile, hstep⟩ := step_eq_ok_iff.1 h
  cases hstep with
  | stay => exact hp
  | up => exact .inr (isFolder_dropLast (hp.isFolder hfile))
  | into _ known => exact known

theorem Known.put (q : Place) (content : ByteArray) (h : t.Known p) :
    (t.put q content).Known p := by
  by_cases hq : p = q
  · exact .inl (by simp [hq, isFile])
  · exact h.imp (fun h => by rwa [isFile_put_of_ne t content hq]) (isFolder_put q content)

/-- A step is still possible after a file is written where there is no folder. -/
theorem step_put (content : ByteArray) (hp : t.Known p) (hq : t.isFolder q = false)
    (h : t.step p name = .ok r) : (t.put q content).step p name = .ok r := by
  obtain ⟨hfile, hstep⟩ := step_eq_ok_iff.1 h
  -- a walk goes on from folders only, and there is none at `q`
  have hne : p ≠ q := by
    rintro rfl
    simp [hp.isFolder hfile] at hq
  refine step_eq_ok_iff.2 ⟨(isFile_put_of_ne t content hne).trans hfile, ?_⟩
  cases hstep with
  | stay hname => exact .stay hname
  | up => exact .up
  | into hname known => exact .into hname (known.put q content)

theorem foldlM_step_put {names : List String} (content : ByteArray) (hp : t.Known p)
    (hq : t.isFolder q = false) (h : names.foldlM t.step p = .ok r) :
    names.foldlM (t.put q content).step p = .ok r := by
  induction names generalizing p with
  | nil => exact h
  | cons name names ih =>
    rw [List.foldlM_cons, bind_eq_ok_iff] at h ⊢
    obtain ⟨next, hstep, hrest⟩ := h
    exact ⟨next, step_put content hp hq hstep, ih (hp.step hstep) hrest⟩

theorem isFolder_of_start (h : t.start path = .ok p) : t.isFolder p := by
  unfold start at h
  split at h
  next => cases h
  next =>
    split at h
    next => cases h
    next =>
      cases h
      rfl
    next =>
      cases h
      exact isFolder_iff.2 (.inr (.inl (List.prefix_refl _)))

/-! ## Writing -/

/-- A path that a file can be written to goes through folders to a folder, and from there by one
more name to a place where there is no folder. -/
structure Entered (t : FileTree) (path : String) (front : List String) (name : String)
    (first folder : Place) : Prop where
  names_eq : names path = front ++ [name]
  start_eq : t.start path = .ok first
  walk : front.foldlM t.step first = .ok folder
  not_file : t.isFile folder = false
  name_ne : name ≠ "" ∧ name ≠ "." ∧ name ≠ ".."
  not_folder : t.isFolder (folder ++ [name]) = false

theorem Entered.target_eq {front : List String} {first folder : Place}
    (h : t.Entered path front name first folder) : t.target path = .ok (folder ++ [name]) := by
  obtain ⟨hne, hdot, hup⟩ := h.name_ne
  have hback : (names path).reverse.dropWhile (· = "") = name :: front.reverse := by
    rw [h.names_eq, List.reverse_append, List.reverse_singleton, List.singleton_append,
      List.dropWhile_cons_of_neg (by simpa using hne)]
  simp only [target, bind_eq_ok_iff, hback]
  refine ⟨first, h.start_eq, folder, by simpa using h.walk, folder, step_dot h.not_file,
    if_neg ?_⟩
  simp [h.names_eq, hne, hdot, hup, h.not_folder]

theorem exists_entered_of_target (h : t.target path = .ok q) :
    ∃ front name first folder,
      t.Entered path front name first folder ∧ q = folder ++ [name] := by
  simp only [target, bind_eq_ok_iff] at h
  obtain ⟨first, hfirst, folder, hwalk, last, hlast, hname⟩ := h
  have hfile := (step_eq_ok_iff.1 hlast).1
  obtain rfl : folder = last := Except.ok.inj ((step_dot hfile).symm.trans hlast)
  -- the last name is not empty, so no names are dropped from the end
  have hempty : (names path).getLast? ≠ some "" := by
    intro hempty
    simp only [hempty, true_or, if_true] at hname
    split at hname <;> cases hname
  cases hback : (names path).reverse with
  | nil =>
    rw [hback] at hname
    cases hname
  | cons name front =>
    have hnames : names path = front.reverse ++ [name] := by
      simpa using congrArg List.reverse hback
    have hne : name ≠ "" := by simpa [hnames] using hempty
    rw [hback, List.dropWhile_cons_of_neg (by simpa using hne)] at hwalk hname
    dsimp only at hname
    split at hname
    next => cases hname
    next hnot =>
      cases hname
      simp only [not_or, Bool.not_eq_true] at hnot
      obtain ⟨-, hdot, hup, hfolder⟩ := hnot
      exact ⟨front.reverse, name, first, folder,
        ⟨hnames, hfirst, hwalk, hfile, ⟨hne, hdot, hup⟩, hfolder⟩, rfl⟩

theorem locate_put (content : ByteArray) (h : t.target path = .ok q) :
    (t.put q content).locate path = .ok q := by
  obtain ⟨front, name, first, folder, entered, rfl⟩ := exists_entered_of_target h
  have hwalk := foldlM_step_put content (.inr (isFolder_of_start entered.start_eq))
    entered.not_folder entered.walk
  have hlast : (t.put (folder ++ [name]) content).step folder name = .ok (folder ++ [name]) := by
    have hne : folder ≠ folder ++ [name] := by simp
    refine step_eq_ok_iff.2 ⟨?_, .into entered.name_ne (.inl (by simp [isFile]))⟩
    rw [isFile_put_of_ne t content hne, entered.not_file]
  rw [locate, bind_eq_ok_iff]
  refine ⟨first, entered.start_eq, ?_⟩
  rw [entered.names_eq, List.foldlM_append, bind_eq_ok_iff]
  exact ⟨folder, hwalk, by rw [List.foldlM_cons, hlast]; rfl⟩

theorem read_put (content : ByteArray) (h : t.target path = .ok q) :
    (t.put q content).read path = .ok content := by
  rw [read, bind_eq_ok_iff]
  exact ⟨q, locate_put content h, by rw [file?_put_self]⟩

/-- Only that there is no place for a file stands in the way of writing. -/
theorem write_eq (t : FileTree) (path : String) (content : ByteArray) :
    t.write path content = (t.target path).map fun q => t.put q content := by
  unfold write
  cases t.target path <;> rfl

end FileTree

end Caption
