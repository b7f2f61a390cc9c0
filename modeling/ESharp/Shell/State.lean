import ESharp.Process.Commands
import ESharp.Shell.Grammar

/-!
# The state of a shell

What a script can see and change: files, parameters, variables, functions, options, traps, and
where its channels go.
-/

namespace ESharp.Shell

inductive Sink
  | output
  | errors
  /-- To the command that reads it. -/
  | captured
  | nowhere
  /-- To the end of a file. -/
  | file (place : Place)
  deriving DecidableEq, Repr

/-- A variable, which may have no value yet. -/
structure Variable where
  value : Option Text
  exported : Bool := false
  constant : Bool := false
  deriving DecidableEq, Repr

/-- How a script goes on after a command. -/
inductive Flow
  | running
  /-- Out of some loops; the last of them may go on with its next turn. -/
  | leaving (loops : Nat) (again : Bool)
  /-- Out of a function. -/
  | returning
  | exiting
  | killed (signal : Nat)
  deriving DecidableEq, Repr

structure State where
  directory : Directory
  name : Text
  args : List Text
  bindings : List (Text × Variable) := []
  functions : List (Text × Command) := []
  /-- The status of the last command. -/
  status : Nat := 0
  /-- The status of the last substitution in the words of a command. -/
  substituted : Option Nat := none
  output : Text := []
  errors : Text := []
  captured : Text := []
  input : Text := []
  sinks : List (Nat × Sink) := [(1, .output), (2, .errors)]
  /-- Whether a command that fails ends the script. -/
  exitOnFailure : Bool := false
  /-- Whether a parameter without a value ends the script. -/
  refuseUnset : Bool := false
  /-- Whether patterns stand for themselves and not for paths. -/
  keepPatterns : Bool := false
  flow : Flow := .running
  /-- What to do on a signal; signal zero is the end of the script. -/
  traps : List (Nat × Text) := []
  /-- How many loops and functions the command is in. -/
  loops : Nat := 0
  calls : Nat := 0
  /-- The variables that the function has for itself, as they were before it. -/
  hidden : List (Text × Option Variable) := []
  line : Nat := 1
  /-- The command of the shell that runs. -/
  context : Option Text := none
  /-- Whether commands are only read. -/
  onlyReads : Bool := false
  /-- Whether a file that is there is kept from being overwritten. -/
  keepFiles : Bool := false
  /-- What channels other than the first give. -/
  inputs : List (Nat × Text) := []
  /-- How many shells for parts of the script the command is in. -/
  depth : Nat := 0
  /-- The signals that a part of the script has sent to the script. -/
  pending : List Nat := []

namespace State

section Channels

def sink (s : State) (channel : Nat) : Sink := (s.sinks.lookup channel).getD .nowhere

def appendFile (d : Directory) (place : Place) (t : Text) : Directory :=
  match (d.get? place).bind Entity.stored? with
  | some (old, executable) => d.set place (.file (old.append t) executable)
  | none => d

def print (s : State) (channel : Nat) (t : Text) : State :=
  match s.sink channel with
  | .output => { s with output := s.output ++ t }
  | .errors => { s with errors := s.errors ++ t }
  | .captured => { s with captured := s.captured ++ t }
  | .nowhere => s
  | .file place => { s with directory := appendFile s.directory place t }

/-- A message of the shell about a line, and about the command of the shell that runs. -/
def complain (s : State) (t : Text) : State :=
  let context := match s.context with
    | some name => name ++ ": ".toList
    | none => []
  s.print 2 (s.name ++ ": ".toList ++ Text.ofNat s.line ++ ": ".toList ++ context ++ t ++ ['\n'])

/-- A message of the shell that ends the script. -/
def abort (s : State) (t : Text) : State := { s.complain t with status := 2, flow := .exiting }

/-- The state after a command with an outcome. -/
def afterOutcome (s : State) (o : Outcome) : State :=
  let here := s.directory.here
  let s := { s with directory := { o.directory with here }, status := o.status.number }
  (s.print 1 o.output).print 2 o.errors

/-- The state after a command of the shell itself, which puts its line before messages and
prints them first. -/
def afterBuiltin (s : State) (name : Text) (o : Outcome) : State :=
  let s := { s with directory := o.directory, status := o.status.number }
  let s := (Text.lines o.errors).foldl
    (fun s t => s.complain ((Text.after? (name ++ ": ".toList) t).getD t)) s
  s.print 1 o.output

end Channels

section Variables

/-- The number of the process, which is the same for every process. -/
def processNumber : Text := "1".toList

def named? (s : State) (name : Text) : Option Text := (s.bindings.lookup name).bind Variable.value

/-- The characters at which values are split. -/
def separators (s : State) : Text := (s.named? "IFS".toList).getD " \t\n".toList

/-- The value of a parameter or a variable, if it has one. -/
def value? (s : State) (name : Text) : Option Text :=
  match name with
  | ['0'] => some s.name
  | ['#'] => some (Text.ofNat s.args.length)
  | ['?'] => some (Text.ofNat s.status)
  | ['$'] => some processNumber
  | ['!'] => some processNumber
  | ['-'] => some ((if s.exitOnFailure then ['e'] else []) ++ if s.refuseUnset then ['u'] else [])
  | ['@'] => if s.args.isEmpty then none else some (Text.join [' '] s.args)
  | ['*'] => if s.args.isEmpty then none else some (Text.join (s.separators.take 1) s.args)
  | _ =>
    match Decimal.natOf? 10 name with
    | some n => if n = 0 then some s.name else s.args[n - 1]?
    | none => s.named? name

/-- A variable with a value. A constant keeps the value it has, and the script ends. -/
def assign (s : State) (name value : Text) : State :=
  let old := (s.bindings.lookup name).getD ⟨none, false, false⟩
  if old.constant then s.abort (name ++ ": is read only".toList)
  else { s with bindings := Entries.set name { old with value := some value } s.bindings }

/-- A variable as it was before. -/
def putBack (s : State) (name : Text) (old : Option Variable) : State :=
  { s with bindings := match old with
    | some v => Entries.set name v s.bindings
    | none => s.bindings.filter fun v => v.1 ≠ name }

/-- A variable that a function gets for itself, which has at first the value it had. -/
def hide (s : State) (name : Text) : State :=
  if (s.hidden.lookup name).isSome then s
  else { s with hidden := (name, s.bindings.lookup name) :: s.hidden }

/-- The variables that programs get. -/
def environment (s : State) : List (Text × Text) :=
  s.bindings.filterMap fun (name, v) =>
    if v.exported then v.value.map fun t => (name, t) else none

end Variables

def ignored (s : State) : List Nat :=
  s.traps.filterMap fun (n, action) => if n ≠ 0 ∧ action = [] then some n else none

/-- The state after a part of the script that ran in a shell of its own: files, output and signals
stay. -/
def afterSubshell (outer inner : State) : State :=
  { outer with
    directory := { inner.directory with here := outer.directory.here }
    output := inner.output
    errors := inner.errors
    captured := inner.captured
    input := inner.input
    status := inner.status
    pending := inner.pending }

end State
end ESharp.Shell
