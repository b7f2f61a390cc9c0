import ESharp.Config.Basic
import ESharp.Event
import ESharp.Process.Machine

/-!
# The tools of a build

A build writes the program to a temporary file, shows it in an editor and compiles it. In the
arguments of a tool, placeholders stand for the paths of the source and of the output.
-/

namespace ESharp

inductive ToolError
  | notFound (program : Text)
  | notStarted (program : Text) (cause : Machine.StartError)
  | failed (program : Text) (status : Status)
  deriving DecidableEq, Repr

def ToolError.message : ToolError → Text
  | notFound program => Process.quote program ++ " was not found: cannot find binary path".toList
  | notStarted program cause =>
    "failed to start ".toList ++ Process.quote program ++ ": ".toList ++ cause.message
  | failed program status => Process.quote program ++ " exited with ".toList ++ status.message

namespace Tools

def sourceMark : Text := "\x7bsource\x7d".toList

def outputMark : Text := "\x7boutput\x7d".toList

/-- An argument with the paths in place of the placeholders: first the source, then the output, if
there is one. -/
def expandArg (source : Text) (output : Option Text) (arg : Text) : Text :=
  let arg := Text.replace sourceMark source arg
  match output with
  | some path => Text.replace outputMark path arg
  | none => arg

def expand (args : List Text) (source : Text) (output : Option Text) : List Text :=
  args.map (expandArg source output)

/-- White space in all scripts. -/
def isSpace (c : Char) : Bool :=
  let n := c.toNat
  (9 ≤ n && n ≤ 13) || n == 0x20 || n == 0x85 || n == 0xA0 || n == 0x1680 ||
    (0x2000 ≤ n && n ≤ 0x200A) || n == 0x2028 || n == 0x2029 || n == 0x202F || n == 0x205F ||
    n == 0x3000

def hasEditor (t : Tools) : Bool := t.editor.any fun c => !isSpace c

def run (d : Directory) (program : Text) (args : List Text) : Except ToolError Outcome :=
  match Machine.find? d program with
  | none => .error (.notFound program)
  | some p =>
    match Machine.run d p args with
    | .ok o => .ok o
    | .error e => .error (.notStarted program e)

/-- Shows a source in the editor, if there is one. -/
def show? (t : Tools) (d : Directory) (source : Text) : Except ToolError (Option Outcome) :=
  if t.hasEditor then do
    let o ← run d t.editor (expand t.editorArgs source none)
    .ok (some o)
  else .ok none

def showEvents (t : Tools) : Except ToolError (Option Outcome) → List Event
  | .ok (some _) => [.openedSource t.editor]
  | _ => []

/-- Compiles a source; the outcome is there whether the compiler fails or not. -/
def compile (t : Tools) (d : Directory) (source output : Text) :
    Except ToolError (Outcome × Except ToolError Unit) := do
  let o ← run d t.compiler (expand t.compilerArgs source (some output))
  .ok (o, if o.status.isSuccess then .ok () else .error (.failed t.compiler o.status))

def compileEvents (t : Tools) (source output : Text) :
    Except ToolError (Outcome × Except ToolError Unit) → List Event
  | .ok (_, .error (.failed compiler status)) =>
    [.startedCompiler t.compiler (expand t.compilerArgs source (some output)),
      .compilerFailed compiler status.message]
  | _ => [.startedCompiler t.compiler (expand t.compilerArgs source (some output))]

end Tools

namespace Directory

def temporaryPlace : Text := "tmp".toList

/-- A working directory without files, where temporary files can be written. -/
def fresh : Directory := { entries := [([temporaryPlace], .directory)] }

/-- The path of a temporary source with a number. -/
def temporarySource (n : Nat) : Text :=
  temporaryPlace ++ "/easysharp-".toList ++ Text.ofNat n ++ ".cs".toList

/-- The first path for a temporary source, from a number on, at which there is nothing. -/
def freshSource (d : Directory) : Nat → Nat → Text
  | 0, n => temporarySource n
  | tries + 1, n =>
    match d.find (temporarySource n) with
    | .error .noEntry => temporarySource n
    | _ => freshSource d tries (n + 1)

/-- The directory with a text in a new temporary file, and the path of the file. -/
def writeTemporary (d : Directory) (t : Text) : Except FileError (Directory × Text) := do
  let path := d.freshSource d.entries.length 0
  let d ← d.write path t
  .ok (d, path)

end Directory
end ESharp
