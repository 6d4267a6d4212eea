import Caption.CommandLine.Parser

/-!
# Arguments as they are written

Behind the name of a command an option may be written in one word with its value, where the value
may look like anything. What is written so is understood on the spot: nothing waits for the next
argument, and a line of such arguments is read by taking in one after another.

## Main definitions

* `Piece`: an argument behind the name of the command for pictures
* `Piece.text`: how it is written
* `Piece.take`: what has been given, with one more piece

## Main statements

* `int64OfText?_toString`: a number is read back
* `Piece.step_text`: an argument is understood on the spot
* `Piece.run_texts`: arguments are taken in one after another
-/
namespace Caption

/-! ## Numbers -/

theorem digitsValue?_toDigits (n : Nat) : digitsValue? (Nat.toDigits 10 n) = some n := by
  have hdigits : (Nat.toDigits 10 n).all Char.isDigit = true :=
    List.all_eq_true.2 fun d hd => Nat.isDigit_of_mem_toDigits (by decide) (by decide) hd
  unfold digitsValue?
  split
  next h => exact absurd h Nat.toDigits_ne_nil
  next => rw [if_pos hdigits, Nat.ofDigitChars_ten_toDigits]

/-- Digits without a sign in front. -/
theorem wholeOfText?_of_isDigit {d : Char} (hd : d.isDigit = true) (ds : List Char) :
    wholeOfText? (d :: ds) = (digitsValue? (d :: ds)).map Int.ofNat := by
  unfold wholeOfText?
  split
  next h => cases h; exact absurd hd (by decide)
  next h => cases h; exact absurd hd (by decide)
  next => rfl

theorem wholeOfText?_repr (n : Int) : wholeOfText? n.repr.toList = some n := by
  cases n with
  | ofNat m =>
    have hdigits : (Int.repr (.ofNat m)).toList = Nat.toDigits 10 m := Nat.toList_repr
    obtain ⟨d, ds, hds⟩ := List.exists_cons_of_ne_nil (Nat.toDigits_ne_nil (n := m) (b := 10))
    have hd : d.isDigit = true :=
      Nat.isDigit_of_mem_toDigits (by decide) (by decide) (hds ▸ List.mem_cons_self)
    rw [hdigits, hds, wholeOfText?_of_isDigit hd, ← hds, digitsValue?_toDigits]
    rfl
  | negSucc m =>
    have hdigits : (Int.repr (.negSucc m)).toList = '-' :: Nat.toDigits 10 (m + 1) := by
      rw [Int.repr, String.toList_append, Nat.toList_repr]
      rfl
    rw [hdigits, wholeOfText?, digitsValue?_toDigits]
    rfl

/-- A whole number of 64 bits is read back from its digits. -/
theorem int64OfText?_toString (n : Int64) : int64OfText? (toString n) = some n := by
  have hlow := n.le_toInt
  have hhigh := n.toInt_lt
  have hrange : -0x8000000000000000 ≤ n.toInt ∧ n.toInt < 0x8000000000000000 := by omega
  have hwhole : wholeOfText? (toString n).toList = some n.toInt := wholeOfText?_repr n.toInt
  rw [int64OfText?, hwhole]
  simp only [Option.bind_eq_bind, Option.bind_some]
  rw [if_pos hrange, Int64.ofInt_toInt]

/-! ## Pieces -/

/-- The two ways to ask for more messages. -/
inductive VerboseFlag where
  | letter | word
deriving DecidableEq, Repr

def VerboseFlag.text : VerboseFlag → String
  | letter => "-v"
  | word => "--verbose"

/-- An argument behind the name of the command for pictures: an option with its value in one word,
or a switch. -/
inductive Piece where
  | value (o : OptionName) (v : String)
  | noSystemFonts
  | verbose (flag : VerboseFlag)
deriving DecidableEq, Repr

namespace Argument

/-- The first equals sign ends the name, whatever stands in the value. -/
theorem cutLong_append {name : List Char} (h : '=' ∉ name) (value : List Char) :
    cutLong (name ++ '=' :: value) = .long (String.ofList name) (some (String.ofList value)) := by
  have hname : (name ++ '=' :: value).takeWhile (· ≠ '=') = name := by
    have hall : ∀ c ∈ name, decide (c ≠ '=') = true := by
      intro c hc
      simp only [decide_eq_true_eq]
      rintro rfl
      exact h hc
    rw [List.takeWhile_append_of_pos hall]
    simp
  rw [cutLong, hname, List.drop_left]

theorem ofText_dashes {s : String} {c : Char} {cs : List Char}
    (h : s.toList = '-' :: '-' :: c :: cs) : ofText s = cutLong (c :: cs) := by
  rw [ofText, h]
  rfl

end Argument

theorem OptionName.equals_not_mem_long (o : OptionName) : '=' ∉ o.long.toList := by
  cases o <;> decide

theorem OptionName.exists_long_cons (o : OptionName) : ∃ c cs, o.long.toList = c :: cs := by
  cases o <;> exact ⟨_, _, rfl⟩

namespace Piece

def text : Piece → String
  | value o v => "--" ++ o.long ++ "=" ++ v
  | noSystemFonts => "--no-system-fonts"
  | verbose flag => flag.text

/-- How a piece looks to the reader. -/
def argument : Piece → Argument
  | value o v => .long o.long (some v)
  | noSystemFonts => .long "no-system-fonts" none
  | verbose .letter => .short ['v']
  | verbose .word => .long "verbose" none

def take (g : Given) : Piece → Except UsageError Given
  | value o v => g.accept o v
  | noSystemFonts => g.switchOn .noSystemFonts
  | verbose _ => g.switchOn .verbose

theorem ofText_value (o : OptionName) (v : String) :
    Argument.ofText (value o v).text = .long o.long (some v) := by
  have htext : (value o v).text.toList = '-' :: '-' :: (o.long.toList ++ '=' :: v.toList) := by
    simp [text]
  obtain ⟨c, cs, hlong⟩ := o.exists_long_cons
  rw [hlong, List.cons_append] at htext
  rw [Argument.ofText_dashes htext, ← List.cons_append, ← hlong,
    Argument.cutLong_append o.equals_not_mem_long, String.ofList_toList, String.ofList_toList]

theorem ofText_text (p : Piece) : Argument.ofText p.text = p.argument := by
  cases p with
  | value o v => exact ofText_value o v
  | noSystemFonts => decide
  | verbose flag => cases flag <;> decide

theorem argument_ne_stop (p : Piece) : p.argument ≠ .stop := by
  cases p with
  | value o v => exact Argument.noConfusion
  | noSystemFonts => exact Argument.noConfusion
  | verbose flag => cases flag <;> exact Argument.noConfusion

end Piece

namespace Reading

/-- One argument, unless options end there, and then the others. -/
theorem run_cons (g : Grammar) (r : Reading) {s : String} (h : Argument.ofText s ≠ .stop)
    (rest : List String) :
    run g r (s :: rest) = (r.step g (Argument.ofText s)).bind fun r => run g r rest := by
  rw [run]
  · rfl
  · exact fun hstop _ => h hstop
  · exact fun _ _ hstop _ => h hstop

theorem long_of_option? {g : Grammar} {name : String} {o : OptionName}
    (h : g.option? name = some o) (r : Reading) (value : Option String) :
    r.long g name value = r.option o value := by
  unfold long
  rw [h]

theorem long_of_switch? {g : Grammar} {name : String} {s : SwitchName}
    (ho : g.option? name = none) (hs : g.switch? name = some s) (r : Reading) :
    r.long g name none = r.switch s := by
  unfold long
  rw [ho, hs]

end Reading

namespace Piece

open CommandName (render)

theorem option?_long (o : OptionName) : render.grammar.option? o.long = some o := by
  cases o <;> decide

/-- A value that is written with its option does not wait to be looked at. -/
theorem step_text (p : Piece) (r : Reading) :
    r.step render.grammar (Argument.ofText p.text) =
      r.settle.bind fun g => (p.take g).map (⟨·, none⟩) := by
  rw [ofText_text]
  cases p with
  | value o v =>
    change r.long render.grammar o.long (some v) = _
    rw [Reading.long_of_option? (option?_long o)]
    rfl
  | noSystemFonts =>
    change r.long render.grammar "no-system-fonts" none = _
    rw [Reading.long_of_switch? (s := .noSystemFonts) (by decide) (by decide)]
    rfl
  | verbose flag =>
    cases flag with
    | letter =>
      have hletter : r.short render.grammar ['v'] = r.switch .verbose := by
        change (r.switch .verbose).bind .ok = _
        cases r.switch .verbose <;> rfl
      change r.short render.grammar ['v'] = _
      rw [hletter]
      rfl
    | word =>
      change r.long render.grammar "verbose" none = _
      rw [Reading.long_of_switch? (s := .verbose) (by decide) (by decide)]
      rfl

/-- Arguments are taken in one after another. -/
theorem run_texts (ps : List Piece) (g : Given) :
    Reading.run render.grammar ⟨g, none⟩ (ps.map text) = ps.foldlM take g := by
  induction ps generalizing g with
  | nil => rfl
  | cons p ps ih =>
    have hstop : Argument.ofText p.text ≠ .stop := ofText_text p ▸ p.argument_ne_stop
    rw [List.map_cons, Reading.run_cons _ _ hstop, step_text, List.foldlM_cons]
    have hsettle : Reading.settle ⟨g, none⟩ = .ok g := rfl
    simp only [hsettle, Except.bind]
    cases p.take g with
    | error e => rfl
    | ok g => exact ih g

end Piece

end Caption
