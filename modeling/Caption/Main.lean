import Caption.CommandLine.Parser
import Caption.CommandLine.Run
import Caption.Draw.Sampled
import Caption.Png.Basic

/-!
# The program

Reads the files that a command looks at, carries the command out on them, and writes what came
of it. All decisions lie in `CommandLine.parse` and `Command.run`.
-/
namespace Caption

namespace Program

/-- Texts are cut between words, pictures are drawn by samples and written without compression. -/
def libraries : Libraries := ⟨.words, .sampled, .plain⟩

/-- Folders of installed fonts. -/
def systemFolders : List String := ["/usr/share/fonts", "/usr/local/share/fonts"]

/-- How deep folders are searched. -/
def maxDepth : Nat := 64

/-! ## Files -/

/-- The names that lead from the root to a path. -/
def place (here : Place) (path : String) : Place :=
  (FileTree.names path).foldl (fun p name =>
    if name = "" ∨ name = "." then p else if name = ".." then p.dropLast else p ++ [name])
    (if path.startsWith "/" then [] else here)

/-- No files yet, in the working folder. -/
def here : IO FileTree := do
  return ⟨[], [], place [] (← IO.currentDir).toString⟩

/-- Adds a folder, if there is one, without what is in it. -/
def addFolder (t : FileTree) (path : String) : IO FileTree := do
  if ← ((← IO.currentDir) / path).isDir then
    return { t with folders := place t.here path :: t.folders }
  else return t

/-- The paths of the folders that a path leads through. -/
def leading (path : String) : List String :=
  let names := FileTree.names path
  (List.range' 1 (names.length - 1)).map fun n => "/".intercalate (names.take n) ++ "/"

/-- Adds a file, if there is one, and the folders on the way. -/
def addFile (t : FileTree) (path : String) : IO FileTree := do
  let t ← (leading path).foldlM addFolder t
  let t ← addFolder t path
  try return t.put (place t.here path) (← IO.FS.readBinFile path)
  catch _ => return t

/-- Adds the font files in a folder. -/
def addFonts : Nat → FileTree → String → IO FileTree
  | 0, t, _ => return t
  | depth + 1, t, path => do
    let folder := (← IO.currentDir) / path
    if ← folder.isDir then
      let t ← (leading path ++ [path]).foldlM addFolder t
      (← folder.readDir).foldlM (fun t entry => do
        let next := path ++ "/" ++ entry.fileName
        if ← entry.path.isDir then addFonts depth t next
        else if Catalogue.isFontPlace [entry.fileName] then addFile t next
        else return t) t
    else return t

def fontFiles (t : FileTree) (o : FontOptions) : IO FileTree :=
  (o.folders ++ if o.noSystemFonts then [] else systemFolders).foldlM (addFonts maxDepth) t

/-- The text file that a caption is to be read from. -/
def textFile? (o : RenderOptions) (t : FileTree) : Option String :=
  match o.base t with
  | .ok s =>
    let s := o.override s
    if s.readFromFile then some s.file else none
  | .error _ => none

/-- All files and folders that a command looks at. -/
def inputs : Command → IO FileTree
  | .defaults => here
  | .fonts o => do fontFiles (← here) o
  | .render o => do
    let t ← match o.settings with
      | some path => do addFile (← here) path
      | none => here
    let t ← match textFile? o t with
      | some path => addFile t path
      | none => pure t
    fontFiles (← addFile t o.output) o.fonts

/-! ## Answers -/

def severityName : Severity → String
  | .warning => "WARN"
  | .detail => "DEBUG"

def report (verbose : Bool) (log : List LogEntry) : IO Unit :=
  log.forM fun e =>
    if verbose || e.severity == .warning then
      IO.eprintln ("[" ++ severityName e.severity ++ "] " ++ e.text)
    else pure ()

def failureText (f : Failure) : String :=
  "Error: " ++ f.message ++
    match f.cause? with
    | some cause => "\n\nCaused by:\n    " ++ cause.message
    | none => ""

/-- Brings the output of a command to the disk. -/
def writeOutput (files : FileTree) : Command → IO Unit
  | .render o =>
    match files.read o.output with
    | .ok bytes => IO.FS.writeBinFile o.output bytes
    | .error _ => pure ()
  | _ => pure ()

/-- Brings what came of a command to its user; gives the exit code. -/
def answer (c : CommandLine) : Checked Outcome → IO UInt32
  | .error .overflow => do
    IO.eprintln "a number is too large for its width"
    return 101
  | .ok outcome => do
    match outcome.failure with
    | some f =>
      IO.eprintln (failureText f)
      return 1
    | none =>
      writeOutput outcome.files c.command
      outcome.printed.forM fun line => IO.println line
      return 0

/-- Carries out a command line. -/
def run (c : CommandLine) : IO UInt32 := do
  let outcome := c.command.run libraries systemFolders (← inputs c.command)
  report c.verbose outcome.log
  answer c outcome.value

/-- The exit code is that of the process. -/
def start (arguments : List String) : IO UInt32 := do
  match CommandLine.parse arguments with
  | .ok c => run c
  | .error e =>
    IO.eprintln e.message
    return e.exitCode

end Program

end Caption

def main (arguments : List String) : IO UInt32 := Caption.Program.start arguments
