/-!
# Command lines

What can be asked for on a command line, and what can be wrong with one.

## Main definitions

* `Command`: a picture, the settings to start from, or the fonts there are
* `CommandLine`: a command with what concerns all commands
* `UsageError`
-/
namespace Caption

/-- Where fonts come from. -/
structure FontOptions where
  /-- Folders to look for font files in, in the order they are given. -/
  folders : List String
  /-- Leave out the fonts that are installed. -/
  noSystemFonts : Bool
deriving DecidableEq, Repr

structure RenderOptions where
  settings : Option String
  output : String
  text : Option String
  face : Option String
  fontSize : Option Int64
  /-- The face that stands in for a missing one. -/
  defaultFace : Option String
  fonts : FontOptions
deriving DecidableEq, Repr

inductive Command where
  | render (options : RenderOptions)
  | defaults
  | fonts (options : FontOptions)
deriving DecidableEq, Repr

structure CommandLine where
  verbose : Bool
  command : Command
deriving DecidableEq, Repr

/-- Why a command line is not carried out. Being asked for help is one reason. -/
inductive UsageError where
  | help
  | version
  /-- Nothing was given at all. -/
  | nothingGiven
  | missingCommand
  | unknownCommand
  | unknownArgument
  /-- An option without a value, or a path that is empty. -/
  | missingValue
  /-- A value after a switch. -/
  | unneededValue
  | badNumber
  /-- An option that may be given once is given again. -/
  | repeated
deriving DecidableEq, Repr

namespace UsageError

/-- Help that was asked for is no failure. -/
def exitCode : UsageError → UInt32
  | help => 0
  | version => 0
  | _ => 2

def message : UsageError → String
  | help => "help requested"
  | version => "version requested"
  | nothingGiven => "nothing to do"
  | missingCommand => "a command is missing"
  | unknownCommand => "unknown command"
  | unknownArgument => "unknown argument"
  | missingValue => "a value is missing"
  | unneededValue => "a switch takes no value"
  | badNumber => "not a whole number"
  | repeated => "an option is given twice"

end UsageError

end Caption
