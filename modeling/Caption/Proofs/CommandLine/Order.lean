import Caption.Proofs.CommandLine.Accepted

/-!
# Arguments in any order

Arguments behind the name of the command for pictures may change places. What may be given once is
looked for by its name; only folders are gathered in the order in which they stand.

## Main definitions

* `RenderChoice`: what can be asked for
* `RenderChoice.pieces`: how it is asked for
* `RenderChoice.Arranged`: arguments that ask for it, in some order

## Main statements

* `RenderChoice.Arranged.nodup_slots`: nothing is asked for twice
* `RenderChoice.Arranged.renderOptions_ofPieces`: the order of the pieces does not matter
* `CommandLine.parse_in_any_order`
-/
namespace Caption

/-! ## What is asked for -/

/-- What can be asked of the command for pictures. What is left out is not mentioned. -/
structure RenderChoice where
  settings : Option String
  output : Option String
  text : Option String
  face : Option String
  fontSize : Option Int64
  defaultFace : Option String
  folders : List String
  noSystemFonts : Bool
deriving DecidableEq, Repr

namespace RenderChoice

def options (c : RenderChoice) : RenderOptions where
  settings := c.settings
  output := c.output.getD "text.png"
  text := c.text
  face := c.face
  fontSize := c.fontSize
  defaultFace := c.defaultFace
  fonts := ⟨c.folders, c.noSystemFonts⟩

/-- The value that is written for an option that is given once. -/
def value? (c : RenderChoice) : OptionName → Option String
  | .settings => c.settings
  | .output => c.output
  | .text => c.text
  | .face => c.face
  | .fontSize => c.fontSize.map toString
  | .defaultFace => c.defaultFace
  | .fontsFolder => none

def piece? (c : RenderChoice) (o : OptionName) : Option Piece := (c.value? o).map (.value o)

def folderPieces (c : RenderChoice) : List Piece := c.folders.map (.value .fontsFolder)

def switchPieces (c : RenderChoice) (flag : Option VerboseFlag) : List Piece :=
  (if c.noSystemFonts then [.noSystemFonts] else []) ++ (flag.map .verbose).toList

/-- What is asked for, piece by piece, with a flag for more messages. -/
def pieces (c : RenderChoice) (flag : Option VerboseFlag) : List Piece :=
  OptionName.all.filterMap c.piece? ++ c.folderPieces ++ c.switchPieces flag

/-- No path is empty. -/
structure PathsFilled (c : RenderChoice) : Prop where
  settings_ne : c.settings ≠ some ""
  output_ne : c.output ≠ some ""
  folder_ne : "" ∉ c.folders

/-- The arguments ask for just this, in some order that keeps the folders in sequence. -/
structure Arranged (c : RenderChoice) (flag : Option VerboseFlag) (args : List Piece) : Prop where
  perm : args.Perm (c.pieces flag)
  folders_eq : args.filterMap (Piece.valueOf? .fontsFolder) = c.folders

variable {c : RenderChoice} {flag : Option VerboseFlag} {args : List Piece}

/-! ### Every piece is accepted -/

theorem checkValue_value? (h : c.PathsFilled) {o : OptionName} {v : String}
    (hv : c.value? o = some v) : Given.checkValue o v = .ok () := by
  cases o with
  | settings =>
    have hne : v ≠ "" := fun hempty => h.settings_ne (hempty ▸ hv)
    simp [Given.checkValue, hne]
  | output =>
    have hne : v ≠ "" := fun hempty => h.output_ne (hempty ▸ hv)
    simp [Given.checkValue, hne]
  | text => rfl
  | face => rfl
  | fontSize =>
    obtain ⟨n, -, rfl⟩ := Option.map_eq_some_iff.1 hv
    simp [Given.checkValue, OptionName.isPath, int64OfText?_toString]
  | defaultFace => rfl
  | fontsFolder => cases hv

theorem admissible_of_mem_pieces (h : c.PathsFilled) {p : Piece} (hp : p ∈ c.pieces flag) :
    p.Admissible := by
  simp only [pieces, folderPieces, switchPieces, List.mem_append, List.mem_filterMap,
    List.mem_map] at hp
  obtain (⟨o, -, ho⟩ | ⟨v, hv, rfl⟩) | hp | hp := hp
  · obtain ⟨v, hv, rfl⟩ := Option.map_eq_some_iff.1 ho
    exact checkValue_value? h hv
  · have hne : v ≠ "" := fun hempty => h.folder_ne (hempty ▸ hv)
    simp [Piece.Admissible, Given.checkValue, hne]
  · split at hp
    next => cases List.mem_singleton.1 hp; trivial
    next => cases hp
  · obtain ⟨flag, -, rfl⟩ := Option.map_eq_some_iff.1 (Option.mem_toList.1 hp)
    trivial

/-- All slots, in the order in which a choice is written down. -/
def slots : List Slot :=
  OptionName.all.map .option ++ [.switch .noSystemFonts, .switch .verbose]

theorem filterMap_slot?_sublist (c : RenderChoice) (os : List OptionName) :
    ((os.filterMap c.piece?).filterMap Piece.slot?).Sublist (os.map Slot.option) := by
  induction os with
  | nil => exact .slnil
  | cons o os ih =>
    cases hv : c.value? o with
    | none => simpa [piece?, hv] using ih.cons (.option o)
    | some v =>
      cases ho : o.isList with
      | true => simpa [piece?, hv, Piece.slot?, ho] using ih.cons (.option o)
      | false => simpa [piece?, hv, Piece.slot?, ho] using ih

theorem slots_sublist (c : RenderChoice) (flag : Option VerboseFlag) :
    ((c.pieces flag).filterMap Piece.slot?).Sublist slots := by
  -- a folder takes up no slot
  have hfolders : c.folderPieces.filterMap Piece.slot? = [] := by
    simp [folderPieces, Piece.slot?, OptionName.isList]
  have hswitches : ((c.switchPieces flag).filterMap Piece.slot?).Sublist
      [.switch .noSystemFonts, .switch .verbose] := by
    unfold switchPieces
    cases c.noSystemFonts <;> cases flag <;> simp [Piece.slot?]
  rw [pieces, List.filterMap_append, List.filterMap_append, hfolders, List.append_nil]
  exact (c.filterMap_slot?_sublist _).append hswitches

theorem Arranged.nodup_slots (h : c.Arranged flag args) : (args.filterMap Piece.slot?).Nodup := by
  have hslots : slots.Nodup := by decide
  exact ((h.perm.filterMap _).nodup_iff).2 (hslots.sublist (c.slots_sublist flag))

/-! ### Every piece is found -/

theorem filterMap_valueOf?_pieces (c : RenderChoice) (flag : Option VerboseFlag) {o : OptionName}
    (ho : o.isList = false) :
    (c.pieces flag).filterMap (Piece.valueOf? o) = (c.value? o).toList := by
  have hoptions : (OptionName.all.filterMap c.piece?).filterMap (Piece.valueOf? o) =
      (c.value? o).toList := by
    have hpiece (o' : OptionName) :
        (c.piece? o').bind (Piece.valueOf? o) = if o' = o then c.value? o else none := by
      cases hv : c.value? o' <;> grind [piece?, Piece.valueOf?]
    rw [List.filterMap_filterMap, funext hpiece]
    cases o <;> cases c.value? _ <;> rfl
  have hfolders : c.folderPieces.filterMap (Piece.valueOf? o) = [] := by
    have hne : OptionName.fontsFolder ≠ o := by
      rintro rfl
      cases ho
    simp [folderPieces, Piece.valueOf?, hne]
  have hswitches : (c.switchPieces flag).filterMap (Piece.valueOf? o) = [] := by
    unfold switchPieces
    cases c.noSystemFonts <;> cases flag <;> rfl
  rw [pieces, List.filterMap_append, List.filterMap_append, hoptions, hfolders, hswitches,
    List.append_nil, List.append_nil]

/-- Where there is at most one element, the order does not matter. -/
theorem eq_toList_of_perm {α : Type} {as : List α} {a : Option α} (h : as.Perm a.toList) :
    as = a.toList := by
  cases a with
  | none => exact h.eq_nil
  | some a => exact h.eq_singleton

theorem Arranged.value?_ofPieces (h : c.Arranged flag args) {o : OptionName}
    (ho : o.isList = false) : (Given.ofPieces args).value? o = c.value? o := by
  have hperm := h.perm.filterMap (Piece.valueOf? o)
  rw [filterMap_valueOf?_pieces c flag ho] at hperm
  rw [Given.value?_ofPieces, eq_toList_of_perm hperm, Option.head?_toList]

theorem filterMap_switch?_pieces (c : RenderChoice) (flag : Option VerboseFlag) :
    (c.pieces flag).filterMap Piece.switch? =
      (if c.noSystemFonts then [.noSystemFonts] else []) ++
        (flag.map fun _ => SwitchName.verbose).toList := by
  have hvalues : (OptionName.all.filterMap c.piece? ++ c.folderPieces).filterMap Piece.switch? =
      [] := by
    simp only [folderPieces, piece?, List.filterMap_eq_nil_iff, List.mem_append,
      List.mem_filterMap, List.mem_map, Option.map_eq_some_iff]
    rintro p (⟨o, -, v, -, rfl⟩ | ⟨v, -, rfl⟩) <;> rfl
  rw [pieces, List.filterMap_append, hvalues, List.nil_append]
  unfold switchPieces
  cases c.noSystemFonts <;> cases flag <;> rfl

theorem Arranged.has_ofPieces (h : c.Arranged flag args) :
    (Given.ofPieces args).has .noSystemFonts = c.noSystemFonts ∧
      (Given.ofPieces args).has .verbose = flag.isSome := by
  have hperm := h.perm.filterMap Piece.switch?
  rw [filterMap_switch?_pieces] at hperm
  rw [Given.has, Given.has, Given.ofPieces, hperm.contains_eq, hperm.contains_eq]
  cases c.noSystemFonts <;> cases flag <;> exact ⟨rfl, rfl⟩

/-- The order of the pieces does not matter. -/
theorem Arranged.renderOptions_ofPieces (h : c.Arranged flag args) :
    (Given.ofPieces args).renderOptions = c.options := by
  have hsize : (c.value? .fontSize).bind int64OfText? = c.fontSize := by
    cases hn : c.fontSize <;> simp [value?, hn, int64OfText?_toString]
  have hfolders : (Given.ofPieces args).all .fontsFolder = c.folders :=
    (Given.all_ofPieces args _).trans h.folders_eq
  have hvalue (o : OptionName) (ho : o.isList = false) :
      (Given.ofPieces args).value? o = c.value? o := h.value?_ofPieces ho
  simp only [Given.renderOptions, Given.fontOptions, hfolders, h.has_ofPieces.1,
    hvalue .settings rfl, hvalue .output rfl, hvalue .text rfl, hvalue .face rfl,
    hvalue .fontSize rfl, hvalue .defaultFace rfl, hsize]
  rfl

end RenderChoice

/-! ## Whole lines -/

namespace CommandLine

open CommandName (render)

/-- A line that asks for a picture, with a flag in front of the name or without. -/
def renderLine (before : Option VerboseFlag) (name : String) (args : List Piece) : List String :=
  (before.map VerboseFlag.text).toList ++ name :: args.map Piece.text

theorem parse_renderLine (before : Option VerboseFlag) {name : String}
    (hname : name = "render" ∨ name = "r") (args : List Piece) :
    parse (renderLine before name args) = (args.foldlM Piece.take .empty).map fun g =>
      ⟨before.isSome || g.has .verbose, .render g.renderOptions⟩ := by
  have hcommand : CommandName.ofText? name = some render := if_pos hname
  have hhelp : name ≠ helpName := by
    rintro rfl
    cases hcommand
  have hfrom (r : Reading) : parseFrom r (name :: args.map Piece.text) =
      (args.foldlM Piece.take .empty).map fun g =>
        ⟨r.given.has .verbose || g.has .verbose, .render g.renderOptions⟩ := by
    rw [parseFrom, if_neg hhelp, hcommand, ← Piece.run_texts]
    rfl
  cases before with
  | none => exact hfrom .empty
  | some flag =>
    have hflag : parse (renderLine (some flag) name args) =
        parseFrom ⟨⟨[], [.verbose]⟩, none⟩ (name :: args.map Piece.text) := by
      cases flag <;> rfl
    rw [hflag, hfrom]
    rfl

/-- Arguments that ask for a picture are understood in any order: with their values attached, the
folders in sequence and a flag in front of the name or behind, they give what was asked for, and
what was left out is left out. An option with one value that is given twice is an error of use. -/
theorem parse_in_any_order {name : String} (hname : name = "render" ∨ name = "r")
    (before : Option VerboseFlag) :
    (∀ (c : RenderChoice) (after : Option VerboseFlag) (args : List Piece),
      c.PathsFilled → c.Arranged after args →
        parse (renderLine before name args) =
          .ok ⟨before.isSome || after.isSome, .render c.options⟩) ∧
    (∀ (o : OptionName) (v w : String) (xs ys zs : List Piece), o.isList = false →
      ∃ e, parse (renderLine before name (xs ++ .value o v :: (ys ++ .value o w :: zs))) =
          .error e ∧ e.exitCode = 2 ∧
        ((∀ p ∈ xs ++ .value o v :: (ys ++ .value o w :: zs), p.Admissible) → e = .repeated)) := by
  constructor
  · intro c after args hpaths harranged
    have hadmissible : ∀ p ∈ args, p.Admissible := fun p hp =>
      RenderChoice.admissible_of_mem_pieces hpaths (harranged.perm.mem_iff.1 hp)
    have htaken : args.foldlM Piece.take .empty = .ok (.ofPieces args) :=
      Piece.foldlM_take_ofPieces [] hadmissible harranged.nodup_slots
    rw [parse_renderLine before hname, htaken, Except.map, harranged.renderOptions_ofPieces,
      harranged.has_ofPieces.2]
  · intro o v w xs ys zs ho
    rw [parse_renderLine before hname]
    generalize hargs : xs ++ Piece.value o v :: (ys ++ .value o w :: zs) = args
    cases htaken : args.foldlM Piece.take .empty with
    | ok g =>
      refine absurd ?_ (Piece.run_ne_ok_of_repeated ho v w (xs.map Piece.text) (ys.map Piece.text)
        (zs.map Piece.text) ⟨.empty, none⟩ g)
      rw [← Piece.run_texts, ← hargs] at htaken
      simpa using htaken
    | error e => exact ⟨e, rfl, Piece.foldlM_take_error htaken⟩

theorem parse_in_any_order_mixed :
    parse ["-v", "r", "--fonts-dir=b", "--text=a=b -x", "--no-system-fonts", "--font-size=-12",
        "--fonts-dir=a"] =
      .ok ⟨true, .render ⟨none, "text.png", some "a=b -x", none, some (-12), none,
        ⟨["b", "a"], true⟩⟩⟩ ∧
    ∃ e, parse ["-v", "r", "--output=a", "--text=", "--output=b"] = .error e ∧ e.exitCode = 2 := by
  have hany := parse_in_any_order (.inr rfl : "r" = "render" ∨ "r" = "r") (some .letter)
  constructor
  · let c : RenderChoice := ⟨none, none, some "a=b -x", none, some (-12), none, ["b", "a"], true⟩
    have hpaths : c.PathsFilled := ⟨by decide, by decide, by decide⟩
    have harranged : c.Arranged none [.value .fontsFolder "b", .value .text "a=b -x",
        .noSystemFonts, .value .fontSize "-12", .value .fontsFolder "a"] :=
      ⟨by decide, rfl⟩
    exact hany.1 c none _ hpaths harranged
  · obtain ⟨e, he, hcode, -⟩ := hany.2 .output "a" "b" [] [.value .text ""] [] rfl
    exact ⟨e, he, hcode⟩

end CommandLine

end Caption
