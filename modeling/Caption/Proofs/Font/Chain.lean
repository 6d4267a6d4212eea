import Caption.Font.Resolver
import Caption.Proofs.Scalar.Zero

/-!
# The chain of faces

A search for a font asks for the face of the request, unless it has no name, and then for the
default face. It stops at the first face that it gets, and every step that gets none is logged
once. This is read off the requests and answers of one search, which the provider is made to
write down, so it holds whatever the provider answers and however its answers change.

## Main definitions

* `Asked`, `FontProvider.recorded`: requests with their answers, and a provider that keeps them
* `Resolver.Search`: what a search may ask for and be answered
* `Resolver.Exact`: what requests, log and font of a search should be

## Main statements

* `Resolver.Search.resolve_eq`: a search by its requests and answers
* `Resolver.resolve_exact`: the requests, the log and the font of every search
-/
namespace Caption

variable {σ ε : Type}

/-- An act and what follows it, where it is known what the act does. -/
theorem Logged.bind_eq {α β : Type} {act : StateT σ Logged α} {s t : σ} {a : α}
    {log : List LogEntry} (h : act s = ⟨(a, t), log⟩) (f : α → StateT σ Logged β) :
    (act >>= f) s = ⟨(f a t).value, log ++ (f a t).log⟩ := by
  change (act s >>= fun x => f x.1 x.2) = _
  rw [h]
  rfl

/-! ## Requests -/

/-- A request to a provider with its answer. -/
structure Asked (ε : Type) where
  family : String
  style : Style
  answer : Except ε (Typeface Float32)

/-- The request was answered without a face. -/
def Asked.failed (a : Asked ε) : Bool := a.answer.toOption.isNone

/-- A provider that keeps what it was asked and what it answered, oldest first. -/
def FontProvider.recorded (p : FontProvider σ ε) : FontProvider (σ × List (Asked ε)) ε :=
  fun family style s =>
    let (answer, t) := p family style s.1
    (answer, (t, s.2 ++ [⟨family, style, answer⟩]))

theorem FontProvider.recorded_eq {p : FontProvider σ ε} {family : String} {style : Style}
    {s t : σ} {answer : Except ε (Typeface Float32)} (h : p family style s = (answer, t))
    (seen : List (Asked ε)) :
    p.recorded family style (s, seen) = (answer, (t, seen ++ [⟨family, style, answer⟩])) := by
  simp only [recorded, h]

namespace Resolver

/-- The same search with requests and answers kept. -/
def recorded (r : Resolver σ ε) : Resolver (σ × List (Asked ε)) ε :=
  ⟨r.provider.recorded, r.defaultFace⟩

variable {r : Resolver σ ε} {q : FontRequest} {s t : σ} {asked : List (Asked ε)}

/-- What a search may ask for and be answered, from one state of the provider to another. -/
inductive Search (r : Resolver σ ε) (q : FontRequest) : σ → List (Asked ε) → σ → Prop
  | found {s t : σ} {face : Typeface Float32} (hname : q.face ≠ "")
      (hface : r.provider q.face q.style s = (.ok face, t)) :
      Search r q s [⟨q.face, q.style, .ok face⟩] t
  | missed {s t u : σ} {cause : ε} {answer : Except ε (Typeface Float32)} (hname : q.face ≠ "")
      (hcause : r.provider q.face q.style s = (.error cause, t))
      (hanswer : r.provider r.defaultFace q.style t = (answer, u)) :
      Search r q s [⟨q.face, q.style, .error cause⟩, ⟨r.defaultFace, q.style, answer⟩] u
  | unnamed {s t : σ} {answer : Except ε (Typeface Float32)} (hname : q.face = "")
      (hanswer : r.provider r.defaultFace q.style s = (answer, t)) :
      Search r q s [⟨r.defaultFace, q.style, answer⟩] t

theorem exists_search (r : Resolver σ ε) (q : FontRequest) (s : σ) :
    ∃ asked t, Search r q s asked t := by
  by_cases hname : q.face = ""
  · exact ⟨_, _, .unnamed hname rfl⟩
  · obtain ⟨answer, t, hanswer⟩ : ∃ answer t, r.provider q.face q.style s = (answer, t) :=
      ⟨_, _, rfl⟩
    cases answer with
    | ok face => exact ⟨_, _, .found hname hanswer⟩
    | error cause => exact ⟨_, _, .missed hname hanswer rfl⟩

/-- Keeping the requests changes nothing about them. -/
theorem Search.recorded (h : Search r q s asked t) (seen : List (Asked ε)) :
    Search r.recorded q (s, seen) asked (t, seen ++ asked) := by
  cases h with
  | found hname hface => exact .found hname (FontProvider.recorded_eq hface seen)
  | missed hname hcause hanswer =>
    rw [List.append_cons]
    exact .missed hname (FontProvider.recorded_eq hcause seen) (FontProvider.recorded_eq hanswer _)
  | unnamed hname hanswer => exact .unnamed hname (FontProvider.recorded_eq hanswer seen)

/-- The families that may be asked for, in order. -/
def families (r : Resolver σ ε) (q : FontRequest) : List String :=
  (if q.face = "" then [] else [q.face]) ++ [r.defaultFace]

/-- The first face among some answers. -/
def firstFace? (asked : List (Asked ε)) : Option (Typeface Float32) :=
  asked.findSome? fun a => a.answer.toOption

namespace Search

/-- Families are asked for from the front of the list on. -/
theorem prefix_families (h : Search r q s asked t) :
    asked.map Asked.family <+: r.families q := by
  cases h with
  | found hname => exact ⟨[r.defaultFace], by simp [families, hname]⟩
  | missed hname => exact ⟨[], by simp [families, hname]⟩
  | unnamed hname => exact ⟨[], by simp [families, hname]⟩

theorem style_eq (h : Search r q s asked t) : ∀ a ∈ asked, a.style = q.style := by
  cases h <;> simp

/-- Nothing more is asked for once there is a face. -/
theorem failed_of_mem (h : Search r q s asked t) : ∀ a ∈ asked.dropLast, a.failed := by
  cases h <;> simp [Asked.failed, Except.toOption]

/-- There is no face only where all families were asked for. -/
theorem families_eq (h : Search r q s asked t) (hnone : firstFace? asked = none) :
    asked.map Asked.family = r.families q := by
  cases h with
  | found => cases hnone
  | missed hname => simp [families, hname]
  | unnamed hname => simp [families, hname]

end Search

/-! ## The log -/

section Log

variable [Cause ε]

/-- What the steps of a search come to. Without a name the first one fails with no request. -/
def outcomes (q : FontRequest) (asked : List (Asked ε)) : List (Except Error (Typeface Float32)) :=
  (if q.face = "" then [.error (.font .emptyName)] else []) ++
    asked.map fun a => a.answer.mapError Cause.toError

/-- The warning of a step, if it fails. -/
def warning? (text : String → String) : Except Error (Typeface Float32) → Option LogEntry
  | .ok _ => none
  | .error cause => some ⟨.warning, text cause.message⟩

/-- The warnings of the steps that fail, in order. -/
def warnings (r : Resolver σ ε) (q : FontRequest) (asked : List (Asked ε)) : List LogEntry :=
  (List.zipWith warning? [r.requestedText q, r.fallbackText] (outcomes q asked)).filterMap id

theorem attempt_eq {act : StateM σ (Except Error (Typeface Float32))}
    {outcome : Except Error (Typeface Float32)} (h : act s = (outcome, t))
    (text : String → String) :
    attempt act text s = ⟨(outcome.toOption, t), (warning? text outcome).toList⟩ := by
  unfold attempt
  rw [h]
  cases outcome <;> rfl

theorem ask_eq {family : String} {style : Style} {answer : Except ε (Typeface Float32)}
    (h : r.provider family style s = (answer, t)) :
    r.ask family style s = (answer.mapError Cause.toError, t) := by
  change ((r.provider family style s).1.mapError Cause.toError, (r.provider family style s).2) = _
  rw [h]

theorem requested_of_named {answer : Except ε (Typeface Float32)} (hname : q.face ≠ "")
    (h : r.provider q.face q.style s = (answer, t)) :
    r.requested q s = (answer.mapError Cause.toError, t) := by
  rw [requested, if_neg hname, ask_eq h]

theorem requested_of_unnamed (hname : q.face = "") (s : σ) :
    r.requested q s = (.error (.font .emptyName), s) := by
  rw [requested, if_pos hname]
  rfl

theorem face?_of_ok {face : Typeface Float32} (h : r.requested q s = (.ok face, t)) :
    r.face? q s = ⟨(some face, t), []⟩ :=
  Logged.bind_eq (attempt_eq h (r.requestedText q)) _

theorem face?_of_error {cause : Error} {outcome : Except Error (Typeface Float32)} {u : σ}
    (h : r.requested q s = (.error cause, t)) (hd : r.fallback q t = (outcome, u)) :
    r.face? q s = ⟨(outcome.toOption, u),
      ⟨.warning, r.requestedText q cause.message⟩ :: (warning? r.fallbackText outcome).toList⟩ := by
  have hsecond := attempt_eq hd r.fallbackText
  calc r.face? q s
      = ⟨(attempt (r.fallback q) r.fallbackText t).value,
          [⟨.warning, r.requestedText q cause.message⟩] ++
            (attempt (r.fallback q) r.fallbackText t).log⟩ :=
        Logged.bind_eq (attempt_eq h (r.requestedText q)) _
    _ = _ := by rw [hsecond]; rfl

/-- The face and the warnings of a search by its requests and answers. -/
theorem Search.face?_eq (h : Search r q s asked t) :
    r.face? q s = ⟨(firstFace? asked, t), r.warnings q asked⟩ := by
  cases h with
  | found hname hface =>
    rw [face?_of_ok (requested_of_named hname hface), warnings, outcomes, if_neg hname]
    rfl
  | @missed _ _ _ answer hname hcause hanswer =>
    rw [face?_of_error (requested_of_named hname hcause) (ask_eq hanswer), warnings, outcomes,
      if_neg hname]
    cases answer <;> rfl
  | @unnamed _ answer hname hanswer =>
    rw [face?_of_error (requested_of_unnamed hname s) (ask_eq hanswer), warnings, outcomes,
      if_pos hname]
    cases answer <;> rfl

/-- A step is warned of exactly if it fails. -/
theorem Search.countP_warnings (h : Search r q s asked t) :
    (r.warnings q asked).countP (fun e => e.severity = .warning) =
      (if q.face = "" then 1 else 0) + asked.countP Asked.failed := by
  cases h with
  | found hname hface =>
    rw [warnings, outcomes, if_neg hname, if_neg hname]
    rfl
  | @missed _ _ _ answer hname hcause hanswer =>
    rw [warnings, outcomes, if_neg hname, if_neg hname]
    cases answer <;> rfl
  | @unnamed _ answer hname hanswer =>
    rw [warnings, outcomes, if_pos hname, if_pos hname]
    cases answer <;> rfl

end Log

/-! ## The font -/

/-- A font of the size of the request cut at zero. -/
theorem fontOf_eq (q : FontRequest) (face : Typeface Float32) :
    fontOf q face = ⟨face, Scalar.ofInt (max q.size.toInt 0), q.style⟩ :=
  congrArg (fun size => Font.mk face size q.style) (Single.larger_ofInt_zero q.size.toInt)

/-- What the log says about a font that was found. -/
def foundEntry (font : Font Float32) : LogEntry :=
  ⟨.detail, "Resolved font " ++ font.logText⟩

theorem Search.resolve_eq [Cause ε] (h : Search r q s asked t) :
    r.resolve q s = ⟨((firstFace? asked).map (fontOf q), t),
      r.warnings q asked ++ (((firstFace? asked).map (fontOf q)).map foundEntry).toList⟩ := by
  refine (Logged.bind_eq h.face?_eq _).trans ?_
  cases firstFace? asked <;> rfl

/-- What requests, log and font of a search should be. -/
structure Exact [Cause ε] (r : Resolver σ ε) (q : FontRequest) (asked : List (Asked ε))
    (log : List LogEntry) (font? : Option (Font Float32)) : Prop where
  /-- The requested family if it has a name, then the default, and never more. -/
  families : asked.map Asked.family <+: r.families q
  style : ∀ a ∈ asked, a.style = q.style
  /-- One family is asked for after another only if that one failed. -/
  failed : ∀ a ∈ asked.dropLast, a.failed
  /-- Without a font all families were asked for. -/
  all : font? = none → asked.map Asked.family = r.families q
  font : font? =
    (firstFace? asked).map fun face => ⟨face, Scalar.ofInt (max q.size.toInt 0), q.style⟩
  fakesBold : ∀ font, font? = some font → (font.fakesBold ↔ q.style.bold ∧ ¬font.face.bold)
  fakesItalic : ∀ font, font? = some font →
    (font.fakesItalic ↔ q.style.italic ∧ ¬font.face.italic)
  entries : log = r.warnings q asked ++ (font?.map foundEntry).toList
  /-- One warning for the step that is skipped and for each that fails. -/
  warned : log.countP (fun e => e.severity = .warning) =
    (if q.face = "" then 1 else 0) + asked.countP Asked.failed

/-- A search with given requests and answers does what it should. -/
theorem Search.exact [Cause ε] (h : Search r q s asked t) :
    Exact r q asked (r.resolve q s).log (r.resolve q s).value.1 := by
  have hstyle (font : Font Float32) (hsome : (firstFace? asked).map (fontOf q) = some font) :
      font.style = q.style := by
    obtain ⟨face, -, rfl⟩ := Option.map_eq_some_iff.1 hsome
    rfl
  rw [h.resolve_eq]
  exact {
    families := h.prefix_families
    style := h.style_eq
    failed := h.failed_of_mem
    all := fun hnone => h.families_eq (Option.map_eq_none_iff.1 hnone)
    font := congrArg (fun f => (firstFace? asked).map f) (funext (fontOf_eq q))
    fakesBold := fun font hsome => by simp [Font.fakesBold, hstyle font hsome]
    fakesItalic := fun font hsome => by simp [Font.fakesItalic, hstyle font hsome]
    entries := rfl
    warned := by
      rw [List.countP_append, h.countP_warnings]
      cases firstFace? asked <;> rfl }

/-- Every search asks for the requested face and then for the default, as far as it must, warns of
each step without a face, and makes its font of the first face. Keeping the requests does not
change what comes of it. -/
theorem resolve_exact [Cause ε] (r : Resolver σ ε) (q : FontRequest) (s : σ) :
    let run := r.recorded.resolve q (s, [])
    Exact r q run.value.2.2 run.log run.value.1 ∧
      r.resolve q s = ⟨(run.value.1, run.value.2.1), run.log⟩ := by
  obtain ⟨asked, t, h⟩ := exists_search r q s
  have hrun : r.recorded.resolve q (s, []) =
      ⟨((r.resolve q s).value.1, (t, asked)), (r.resolve q s).log⟩ := by
    rw [(h.recorded []).resolve_eq, h.resolve_eq]
    rfl
  have hstate : (r.resolve q s).value.2 = t := by rw [h.resolve_eq]
  simp only [hrun]
  exact ⟨h.exact, by rw [← hstate]⟩

end Resolver

end Caption
