import ESharp.Shell.Run

/-!
# Starting programs

A program is found by its name, or by a path to a file that may be executed. A file that may be
executed is a script whose first line names its interpreter.
-/

namespace ESharp.Machine

inductive Program
  /-- The shell. -/
  | shell
  /-- The program that starts another one with an environment of its own. -/
  | environment
  /-- A command of the system. -/
  | command (run : Directory → Text → List Text → Outcome)
  /-- A file of the working directory. -/
  | file (path : Text)

def systemProgram? (name : Text) : Option Program :=
  match String.ofList name with
  | "sh" | "dash" | "bash" => some .shell
  | "env" => some .environment
  | _ => (Process.command? name).map .command

inductive StartError
  /-- The program, or the interpreter of a script, is not there. -/
  | missing
  | denied
  | unknownFormat
  deriving DecidableEq, Repr

def StartError.message : StartError → Text
  | missing => "No such file or directory (os error 2)".toList
  | denied => "Permission denied (os error 13)".toList
  | unknownFormat => "Exec format error (os error 8)".toList

def programAt (d : Directory) (path : Text) : Except StartError Program :=
  match d.find path with
  | .ok (.file _ true) => .ok (.file path)
  | .ok (.program name) =>
    match systemProgram? name with
    | some p => .ok p
    | none => .error .missing
  | .ok _ => .error .denied
  | .error _ => .error .missing

/-- The program that a name or a path stands for. -/
def lookUp (d : Directory) (name : Text) : Except StartError Program :=
  if name.contains '/' then programAt d name
  else
    match systemProgram? name with
    | some p => .ok p
    | none => .error .missing

/-- The program that a name or a path stands for, if it may be executed. -/
def find? (d : Directory) (name : Text) : Option Program := (lookUp d name).toOption

/-- The interpreter in the first line of a script, and its argument. -/
def interpreter? (script : Text) : Option (Text × List Text) :=
  match script with
  | '#' :: '!' :: rest =>
    let line := Text.trim (rest.takeWhile (· != '\n'))
    let path := line.takeWhile fun c => !Text.isBlank c
    let argument := Text.trim (line.drop path.length)
    if path = [] then none else some (path, if argument = [] then [] else [argument])
  | _ => none

/-- What a process gets when it starts: files, variables, input and the signals that it
ignores. -/
structure Setting where
  directory : Directory
  environment : List (Text × Text) := []
  input : Text := []
  ignored : List Nat := []

section Shells

/-- The arguments of the shell: the letters of its options, and the others. -/
def shellOptions : List Text → Text × List Text
  | ['-'] :: rest | ['-', '-'] :: rest => ([], rest)
  | ['-', 'o'] :: name :: rest =>
    let (more, rest) := shellOptions rest
    ((Shell.optionNames.lookup name).toList ++ more, rest)
  | ('-' :: c :: letters) :: rest =>
    let (more, rest) := shellOptions rest
    (c :: letters ++ more, rest)
  | ('+' :: _ :: _) :: rest => shellOptions rest
  | args => ([], args)

/-- What the shell is asked to run: a name, arguments and a script; or why it cannot. -/
def shellScript (s : Setting) (letters : Text) (args : List Text) :
    Except Text (Text × List Text × Text) :=
  match letters.find? (!Shell.optionLetters.contains ·) with
  | some c => .error ("Illegal option -".toList ++ [c])
  | none =>
    if letters.contains 'c' then
      match args with
      | script :: name :: args => .ok (name, args, script)
      | [script] => .ok ("sh".toList, [], script)
      | [] => .error "-c requires an argument".toList
    else
      match args with
      | [] => .ok ("sh".toList, [], s.input)
      | path :: args =>
        match s.directory.read path with
        | .ok script => .ok (path, args, script)
        | .error .isDirectory => .ok (path, args, [])
        | .error _ => .error ("cannot open ".toList ++ path ++ ": No such file".toList)

def runShell (starter : Shell.Starter) (s : Setting) (args : List Text) : Outcome :=
  let (letters, args) := shellOptions args
  match shellScript s letters args with
  | .error t => Process.failed s.directory 2 ("sh: 0: ".toList ++ t ++ ['\n'])
  | .ok (name, args, script) =>
    Shell.run starter s.directory letters s.environment s.input s.ignored name args script

end Shells

section Environments

/-- The variables, the program and the arguments that a program is started with. -/
def environmentArgs (env : List (Text × Text)) : List Text → List (Text × Text) × List Text
  | [] => (env, [])
  | a :: args =>
    if a = "-i".toList ∨ a = ['-'] then environmentArgs [] args
    else if a = "--".toList then environmentArgs env args
    else
      match a.dropWhile (· != '=') with
      | _ :: value =>
        environmentArgs (Entries.set (a.takeWhile (· != '=')) value env) args
      | [] => (env, a :: args)

/-- The words of an argument that holds several. -/
def splitArgument : List Text → List Text
  | ('-' :: 'S' :: t) :: args =>
    let words := Shell.Fields.toList (Shell.Fields.addSplit " \t".toList t {})
    words.map Shell.unmark ++ args
  | args => args

end Environments

def start : Nat → Setting → Program → List Text → Except StartError Outcome
  | 0, _, _, _ => .error .missing
  | _, s, .command run, args => .ok (run s.directory s.input args)
  | fuel + 1, s, .environment, args =>
    let (env, words) := environmentArgs s.environment (splitArgument args)
    match words with
    | [] => .ok (Process.done s.directory (env.flatMap fun (k, v) => k ++ '=' :: v ++ ['\n']))
    | name :: args =>
      let refuse (code : Nat) (reason : String) := Process.failed s.directory code
        ("env: ".toList ++ Process.quote name ++ ": ".toList ++ reason.toList ++ ['\n'])
      match lookUp s.directory name with
      | .ok p =>
        match start fuel { s with environment := env } p args with
        | .ok o => .ok o
        | .error .missing => .ok (refuse 127 "No such file or directory")
        | .error _ => .ok (refuse 126 "Permission denied")
      | .error .denied => .ok (refuse 126 "Permission denied")
      | .error _ => .ok (refuse 127 "No such file or directory")
  | fuel + 1, s, .shell, args =>
    let starter : Shell.Starter := fun d env input ignored name args =>
      let s : Setting := ⟨d, env, input, ignored⟩
      match lookUp d name with
      | .ok p =>
        match start fuel s p args with
        | .ok o => .ran o
        | .error .missing => .notFound
        | .error .denied => .denied
        | .error .unknownFormat =>
          match start fuel s .shell (name :: args) with
          | .ok o => .ran o
          | .error _ => .denied
      | .error .denied => .denied
      | .error _ => .notFound
    .ok (runShell starter s args)
  | fuel + 1, s, .file path, args =>
    match s.directory.read path with
    | .error _ => .error .unknownFormat
    | .ok script =>
      match interpreter? script with
      | none => .error .unknownFormat
      | some (interpreter, argument) => do
        let p ← programAt s.directory interpreter
        start fuel s p (argument ++ path :: args)

/-- How many programs may wait for one another. -/
def maxNesting : Nat := 64

/-- The environment of the programs that are started first. -/
def firstEnvironment : List (Text × Text) :=
  [("PATH".toList, "/usr/local/sbin:/usr/local/bin:/usr/sbin:/usr/bin:/sbin:/bin".toList),
    ("HOME".toList, "/root".toList)]

def run (d : Directory) (p : Program) (args : List Text) : Except StartError Outcome :=
  start maxNesting { directory := d, environment := firstEnvironment } p args

end ESharp.Machine
