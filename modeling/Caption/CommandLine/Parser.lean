import Caption.CommandLine.Basic

/-!
# Reading command lines

A command line is switches, the name of a command, and options of that command. An option's
value follows it, or is attached to it; attached values may look like anything.

A value that follows its option is looked at only when the next option, switch or the end is
reached: an argument that nobody knows is reported first.

## Main definitions

* `Argument.ofText`: how an argument looks
* `Reading`: what has been read so far
* `CommandLine.parse`
-/
namespace Caption

/-- An option with a value. -/
inductive OptionName where
  | settings | output | text | face | fontSize | defaultFace | fontsFolder
deriving DecidableEq, Repr

inductive SwitchName where
  | verbose | noSystemFonts | help | version
deriving DecidableEq, Repr

namespace OptionName

def all : List OptionName :=
  [settings, output, text, face, fontSize, defaultFace, fontsFolder]

def long : OptionName → String
  | settings => "settings"
  | output => "output"
  | text => "text"
  | face => "face"
  | fontSize => "font-size"
  | defaultFace => "default-face"
  | fontsFolder => "fonts-dir"

def short? : OptionName → Option Char
  | settings => some 's'
  | output => some 'o'
  | text => some 't'
  | _ => none

def isPath : OptionName → Bool
  | settings => true
  | output => true
  | fontsFolder => true
  | _ => false

/-- Whether an option may be given more than once. -/
def isList : OptionName → Bool
  | fontsFolder => true
  | _ => false

end OptionName

namespace SwitchName

def long : SwitchName → String
  | verbose => "verbose"
  | noSystemFonts => "no-system-fonts"
  | help => "help"
  | version => "version"

def short? : SwitchName → Option Char
  | verbose => some 'v'
  | help => some 'h'
  | version => some 'V'
  | noSystemFonts => none

end SwitchName

/-- What may be given in one part of a command line. -/
structure Grammar where
  options : List OptionName
  switches : List SwitchName

inductive CommandName where
  | render | defaults | fonts
deriving DecidableEq, Repr

namespace CommandName

def ofText? (s : String) : Option CommandName :=
  if s = "render" ∨ s = "r" then some render
  else if s = "defaults" then some defaults
  else if s = "fonts" then some fonts
  else none

def grammar : CommandName → Grammar
  | render => ⟨OptionName.all, [.noSystemFonts, .verbose, .help]⟩
  | defaults => ⟨[], [.verbose, .help]⟩
  | fonts => ⟨[.fontsFolder], [.noSystemFonts, .verbose, .help]⟩

end CommandName

namespace Grammar

/-- In front of the command. -/
def leading : Grammar := ⟨[], [.verbose, .help, .version]⟩

def option? (g : Grammar) (long : String) : Option OptionName :=
  g.options.find? fun o => o.long == long

def switch? (g : Grammar) (long : String) : Option SwitchName :=
  g.switches.find? fun s => s.long == long

def shortOption? (g : Grammar) (c : Char) : Option OptionName :=
  g.options.find? fun o => o.short? == some c

def shortSwitch? (g : Grammar) (c : Char) : Option SwitchName :=
  g.switches.find? fun s => s.short? == some c

end Grammar

/-! ## Arguments -/

inductive Argument where
  /-- Two dashes alone: options end here. -/
  | stop
  | long (name : String) (value : Option String)
  | short (letters : List Char)
  | plain (text : String)
deriving DecidableEq, Repr

namespace Argument

/-- Cuts at the first equals sign. -/
def cutLong (cs : List Char) : Argument :=
  let name := cs.takeWhile (· ≠ '=')
  match cs.drop name.length with
  | [] => .long (String.ofList name) none
  | _ :: value => .long (String.ofList name) (some (String.ofList value))

/-- A dash alone is plain. -/
def ofText (s : String) : Argument :=
  match s.toList with
  | ['-', '-'] => .stop
  | '-' :: '-' :: cs => cutLong cs
  | ['-'] => .plain s
  | '-' :: cs => .short cs
  | _ => .plain s

end Argument

/-! ## Numbers -/

def digitsValue? : List Char → Option Nat
  | [] => none
  | cs => if cs.all Char.isDigit then some (Nat.ofDigitChars 10 cs 0) else none

/-- A whole number in decimal digits, with a sign or without. -/
def wholeOfText? : List Char → Option Int
  | '-' :: cs => (digitsValue? cs).map fun n => -(n : Int)
  | '+' :: cs => (digitsValue? cs).map Int.ofNat
  | cs => (digitsValue? cs).map Int.ofNat

/-- A whole number of 64 bits. -/
def int64OfText? (s : String) : Option Int64 := do
  let n ← wholeOfText? s.toList
  if -0x8000000000000000 ≤ n ∧ n < 0x8000000000000000 then some (Int64.ofInt n) else none

/-! ## Reading -/

/-- Values and switches that have been accepted, in order. -/
structure Given where
  values : List (OptionName × String)
  switches : List SwitchName
deriving DecidableEq, Repr

/-- An option whose value is still to come, or has come and is still to be looked at. -/
structure Reading where
  given : Given
  waiting : Option (OptionName × Option String)
deriving DecidableEq, Repr

namespace Given

def empty : Given := ⟨[], []⟩

def value? (g : Given) (o : OptionName) : Option String := g.values.lookup o

def all (g : Given) (o : OptionName) : List String :=
  (g.values.filter fun v => v.1 == o).map Prod.snd

def has (g : Given) (s : SwitchName) : Bool := g.switches.contains s

def checkValue (o : OptionName) (value : String) : Except UsageError Unit :=
  if o.isPath && value == "" then .error .missingValue
  else if o == .fontSize && (int64OfText? value).isNone then .error .badNumber
  else .ok ()

def accept (g : Given) (o : OptionName) (value : String) : Except UsageError Given := do
  if !o.isList && (g.value? o).isSome then .error .repeated
  else
    checkValue o value
    return { g with values := g.values ++ [(o, value)] }

def switchOn (g : Given) : SwitchName → Except UsageError Given
  | .help => .error .help
  | .version => .error .version
  | s => if g.has s then .error .repeated else .ok { g with switches := g.switches ++ [s] }

end Given

namespace Reading

def empty : Reading := ⟨.empty, none⟩

/-- Looks at the option that waits, if any. -/
def settle (r : Reading) : Except UsageError Given :=
  match r.waiting with
  | none => .ok r.given
  | some (_, none) => .error .missingValue
  | some (o, some value) => r.given.accept o value

def option (r : Reading) (o : OptionName) : Option String → Except UsageError Reading
  | some value => do return ⟨← (← r.settle).accept o value, none⟩
  | none => do return ⟨← r.settle, some (o, none)⟩

def switch (r : Reading) (s : SwitchName) : Except UsageError Reading := do
  return ⟨← (← r.settle).switchOn s, none⟩

def long (g : Grammar) (r : Reading) (name : String) (value : Option String) :
    Except UsageError Reading :=
  match g.option? name, g.switch? name, value with
  | some o, _, _ => r.option o value
  | none, some s, none => r.switch s
  | none, some _, some _ => .error .unneededValue
  | none, none, _ => .error .unknownArgument

/-- A value may be attached to the letter of an option, also with an equals sign. -/
def short (g : Grammar) (r : Reading) : List Char → Except UsageError Reading
  | [] => .ok r
  | c :: cs =>
    match g.shortOption? c, g.shortSwitch? c, cs with
    | some o, _, [] => r.option o none
    | some o, _, '=' :: value => r.option o (some (String.ofList value))
    | some o, _, value => r.option o (some (String.ofList value))
    | none, some s, _ => do short g (← r.switch s) cs
    | none, none, _ => .error .unknownArgument

/-- Takes in an argument that is no command. -/
def step (g : Grammar) (r : Reading) : Argument → Except UsageError Reading
  | .long name value => r.long g name value
  | .short letters => r.short g letters
  | .plain text =>
    match r.waiting with
    | some (o, none) => .ok { r with waiting := some (o, some text) }
    | _ => .error .unknownArgument
  | .stop => .ok r

/-- Nothing may follow where options end. -/
def run (g : Grammar) (r : Reading) : List String → Except UsageError Given
  | [] => r.settle
  | s :: rest =>
    match Argument.ofText s, rest with
    | .stop, [] => r.settle
    | .stop, _ :: _ => .error .unknownArgument
    | a, rest => do run g (← r.step g a) rest

end Reading

/-! ## Command lines -/

def Given.fontOptions (g : Given) : FontOptions := ⟨g.all .fontsFolder, g.has .noSystemFonts⟩

def defaultOutput : String := "text.png"

def Given.renderOptions (g : Given) : RenderOptions where
  settings := g.value? .settings
  output := (g.value? .output).getD defaultOutput
  text := g.value? .text
  face := g.value? .face
  fontSize := (g.value? .fontSize).bind int64OfText?
  defaultFace := g.value? .defaultFace
  fonts := g.fontOptions

def CommandName.command (g : Given) : CommandName → Command
  | render => .render g.renderOptions
  | defaults => .defaults
  | fonts => .fonts g.fontOptions

def helpName : String := "help"

/-- Help is given on the program or on one command. -/
def helpOn : List String → UsageError
  | [] => .help
  | [s] => if s = helpName ∨ (CommandName.ofText? s).isSome then .help else .unknownCommand
  | _ => .unknownCommand

/-- Where options have ended in front of any command, none can follow. -/
def afterStop (r : Reading) : List String → UsageError
  | [] => if r.given.switches = [] then .nothingGiven else .missingCommand
  | s :: _ =>
    if s = helpName ∨ (CommandName.ofText? s).isSome then .unknownArgument else .unknownCommand

namespace CommandLine

/-- Reads from the front; `r` holds the switches in front of the command. -/
def parseFrom (r : Reading) : List String → Except UsageError CommandLine
  | [] => .error (afterStop r [])
  | s :: rest =>
    if s = helpName then .error (helpOn rest)
    else
      match CommandName.ofText? s with
      | some name => do
        let g ← Reading.empty.run name.grammar rest
        return ⟨r.given.has .verbose || g.has .verbose, name.command g⟩
      | none =>
        match Argument.ofText s with
        | .stop => .error (afterStop r rest)
        | .plain _ => .error .unknownCommand
        | a => do parseFrom (← r.step .leading a) rest

/-- Reads the arguments of a program, its own name left out. -/
def parse (arguments : List String) : Except UsageError CommandLine :=
  parseFrom .empty arguments

end CommandLine

end Caption
