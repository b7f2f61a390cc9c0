import ESharp.Shell.Expansion

/-!
# Running a script

Commands run one after the other on the state of the shell. Fuel bounds how deep commands nest and
how often loops turn.
-/

namespace ESharp.Shell

/-- What becomes of an attempt to start a program. -/
inductive Started
  | notFound
  | denied
  | ran (o : Outcome)

/-- How another program is started from a script: in a directory, with an environment and an input,
with signals that it ignores, by its name and its arguments. -/
abbrev Starter :=
  Directory → List (Text × Text) → Text → List Nat → Text → List Text → Started

section Redirections

/-- A file opened for output: emptied, unless it is written on at its end. -/
def openFile (d : Directory) (path : Text) (append : Bool) :
    Except FileError (Directory × Sink) := do
  let after ← if append && d.isFile path then .ok d else d.write path []
  if after.isFile path then do
    let place ← after.resolve path
    .ok (after, .file place)
  else .ok (after, .nowhere)

def State.give (s : State) (channel : Nat) (t : Text) : State :=
  if channel = 0 then { s with input := t }
  else { s with inputs := Entries.set channel t s.inputs }

/-- Why a file could not be opened, in the words of the shell. -/
def openReason (missing : String) : FileError → Text
  | .noEntry | .notDirectory => missing.toList
  | e => Process.cause e

/-- One channel redirected; the result says whether it could be. -/
def redirect (substitute : Substitution) (r : Redirection) : StateM State Bool := do
  let target ← expandText substitute r.target
  let s ← get
  let refuse (t : Text) : StateM State Bool := do
    set (s.complain t)
    return false
  let opened (append : Bool) : StateM State Bool :=
    if s.keepFiles && !append && s.directory.isFile target then
      refuse ("cannot create ".toList ++ target ++ ": File exists".toList)
    else
      match openFile s.directory target append with
      | .ok (d, sink) => do
        set { s with directory := d, sinks := Entries.set r.channel sink s.sinks }
        return true
      | .error e => refuse ("cannot create ".toList ++ target ++ ": ".toList ++
          openReason "Directory nonexistent" e)
  match r.kind with
  | .output => opened false
  | .append => opened true
  | .document => do
    set (s.give r.channel target)
    return true
  | .input =>
    match s.directory.read target with
    | .ok t => do
      set (s.give r.channel t)
      return true
    | .error .isDirectory | .error .notText => do
      set (s.give r.channel [])
      return true
    | .error e =>
      refuse ("cannot open ".toList ++ target ++ ": ".toList ++ openReason "No such file" e)
  | .duplicate =>
    match Decimal.natOf? 10 target with
    | some n =>
      match s.inputs.lookup n, s.sinks.lookup n with
      | some t, _ => do
        set (s.give r.channel t)
        return true
      | none, some sink => do
        set { s with sinks := Entries.set r.channel sink s.sinks }
        return true
      | none, none =>
        if n = 0 then return true
        else refuse (Text.ofNat n ++ ": Bad file descriptor".toList)
    | none =>
      if target = ['-'] then do
        set { s with sinks := s.sinks.filter fun c => c.1 ≠ r.channel }
        return true
      else refuse "Bad fd number".toList

/-- Channels redirected one after the other, up to one that cannot be. -/
def redirectAll (substitute : Substitution) : List Redirection → StateM State Bool
  | [] => return true
  | r :: rs => do
    if ← redirect substitute r then redirectAll substitute rs else return false

/-- Does something with channels redirected, and puts them back. If a channel cannot be redirected
nothing is done, and the status is two. -/
def withRedirections (substitute : Substitution) (rs : List Redirection)
    (action : StateM State Unit) : StateM State Unit := do
  let before ← get
  if ← redirectAll substitute rs then action else modify fun s => { s with status := 2 }
  unless rs.isEmpty do
    modify fun s => { s with sinks := before.sinks, input := before.input, inputs := before.inputs }

end Redirections

section Builtins

/-- The number that an argument of the shell's own commands stands for. -/
def count? (t : Text) : Option Nat := do
  let ds := match t.dropWhile (fun c => c == ' ' || c == '\t') with
    | '+' :: ds => ds
    | ds => ds
  let n ← Decimal.natOf? 10 (Text.trimEnd ds)
  if n ≤ 0x7FFFFFFF then some n else none

/-- Ends a function or the script with a status, which is the last one unless one is given. -/
def exitWith (flow : Flow) (args : List Text) (s : State) : State :=
  match args with
  | [] => { s with flow }
  | a :: _ =>
    match count? a with
    | some n => { s with status := n, flow }
    | none => s.abort ("Illegal number: ".toList ++ a)

/-- Leaves loops, or goes on with the next turn of one. -/
def leaveLoops (again : Bool) (args : List Text) (s : State) : State :=
  match args with
  | [] =>
    if s.loops = 0 then { s with status := 0 } else { s with flow := .leaving 1 again, status := 0 }
  | a :: _ =>
    match count? a with
    | some 0 | none => s.abort ("Illegal number: ".toList ++ a)
    | some n =>
      if s.loops = 0 then { s with status := 0 }
      else { s with flow := .leaving (min n s.loops) again, status := 0 }

/-- Drops some arguments from the front. -/
def dropArgs (n : Nat) (s : State) : State :=
  if n ≤ s.args.length then { s with args := s.args.drop n, status := 0 }
  else s.abort "can't shift that many".toList

/-- Drops arguments from the front, one unless a number is given. -/
def shift (args : List Text) (s : State) : State :=
  match args with
  | [] => dropArgs 1 s
  | a :: _ =>
    match count? a with
    | some n => dropArgs n s
    | none => s.abort ("Illegal number: ".toList ++ a)

def optionNames : List (Text × Char) :=
  [("errexit", 'e'), ("noglob", 'f'), ("ignoreeof", 'I'), ("interactive", 'i'), ("monitor", 'm'),
    ("noexec", 'n'), ("stdin", 's'), ("xtrace", 'x'), ("verbose", 'v'), ("vi", 'V'), ("emacs", 'E'),
    ("noclobber", 'C'), ("allexport", 'a'), ("notify", 'b'), ("nounset", 'u')].map
    fun (name, c) => (name.toList, c)

/-- The letters of the options of a shell, and those that only count when it starts. -/
def optionLetters : Text := optionNames.map Prod.snd ++ "cloqp".toList

def setOption (on : Bool) (s : State) (letter : Char) : State :=
  match letter with
  | 'e' => { s with exitOnFailure := on }
  | 'u' => { s with refuseUnset := on }
  | 'f' => { s with keepPatterns := on }
  | 'n' => { s with onlyReads := on }
  | 'C' => { s with keepFiles := on }
  | _ => s

/-- Options turned on or off, up to one that there is not. -/
def setOptions (on : Bool) (s : State) (letters : Text) : State :=
  match letters.find? (!optionLetters.contains ·) with
  | some c => s.abort ("Illegal option ".toList ++ [if on then '-' else '+', c])
  | none => letters.foldl (setOption on) s

/-- An option with a name turned on or off. -/
def setNamed (on : Bool) (s : State) (name : Text) : State :=
  match optionNames.lookup name with
  | some c => setOption on s c
  | none => s.abort ((if on then "Illegal option -o " else "Illegal option +o ").toList ++ name)

/-- Options and arguments of the script. -/
def setArgs : List Text → State → State
  | [], s => s
  | ['-', '-'] :: args, s => { s with args }
  | ['-'] :: args, s => if args.isEmpty then s else { s with args }
  | ['-', 'o'] :: name :: rest, s => setArgs rest (setNamed true s name)
  | ['+', 'o'] :: name :: rest, s => setArgs rest (setNamed false s name)
  | ('-' :: c :: letters) :: rest, s => setArgs rest (setOptions true s (c :: letters))
  | ('+' :: c :: letters) :: rest, s => setArgs rest (setOptions false s (c :: letters))
  | args, s => { s with args }

/-- A variable that is exported or made constant, perhaps with a value. -/
def declare (change : Variable → Variable) (s : State) (arg : Text) : State :=
  let name := arg.takeWhile (· != '=')
  if !isName name then s.abort (name ++ ": bad variable name".toList)
  else
    let s := match arg.dropWhile (· != '=') with
      | _ :: value => s.assign name value
      | [] => s
    let old := (s.bindings.lookup name).getD ⟨none, false, false⟩
    { s with bindings := Entries.set name (change old) s.bindings }

/-- Removes a variable; a constant stays, and the script ends. -/
def unsetVariable (s : State) (name : Text) : State :=
  match s.bindings.lookup name with
  | some v =>
    if v.constant then s.abort (name ++ ": is read only".toList) else s.putBack name none
  | none => s

/-- The signal or the end of the script that an argument names. -/
def condition? (t : Text) : Option Nat :=
  match Decimal.natOf? 10 t with
  | some n => if n ≤ Signal.greatest then some n else none
  | none => if t.map Char.toUpper = "EXIT".toList then some 0 else Signal.ofName? t

def setTrap (args : List Text) (s : State) : State :=
  let change (action : Option Text) (names : List Text) : State :=
    names.foldl (fun s name =>
      match condition? name with
      | none => { s.print 2 ("trap: ".toList ++ name ++ ": bad trap\n".toList) with status := 1 }
      | some n =>
        let others := s.traps.filter fun p => p.1 ≠ n
        { s with traps := match action with
          | some t => others ++ [(n, t)]
          | none => others }) { s with status := 0 }
  match (match args with
    | ['-', '-'] :: rest => rest
    | args => args) with
  | [] =>
    let shown := s.traps.flatMap fun (n, t) =>
      "trap -- '".toList ++ t ++ "' ".toList ++ (Signal.name? n).getD "EXIT".toList ++ ['\n']
    { s.print 1 shown with status := 0 }
  | [name] => change none [name]
  | action :: names =>
    if action = ['-'] ∨ (Decimal.natOf? 10 action).isSome then
      change none (if action = ['-'] then names else action :: names)
    else change (some action) names

def killUsage : Text :=
  ("Usage: kill [-s sigspec | -signum | -sigspec] [pid | job]... or\n" ++
    "kill -l [exitstatus]").toList

/-- The signal and the targets of a command that sends one, or what is wrong with it. -/
def killTargets : List Text → Except Text (Nat × List Text)
  | [] => .error killUsage
  | ['-', 's'] :: name :: targets =>
    match condition? name with
    | some n => .ok (n, targets)
    | none => .error ("invalid signal number or name: ".toList ++ name)
  | ['-', '-'] :: targets => .ok (15, targets)
  | ('-' :: c :: name) :: targets =>
    match condition? (c :: name) with
    | some n => .ok (n, targets)
    | none => .error ("Illegal option -".toList ++ [c])
  | targets => .ok (15, targets)

/-- The first line of the input as words in variables; the last one gets all that is left. -/
def readWords (separators : Text) : List Text → Text → List (Text × Text)
  | [], _ => []
  | [name], t =>
    let isBlank := fun c => separators.contains c
    [(name, ((t.dropWhile isBlank).reverse.dropWhile isBlank).reverse)]
  | name :: names, t =>
    let isBlank := fun c => separators.contains c
    let t := t.dropWhile isBlank
    let w := t.takeWhile fun c => !isBlank c
    (name, w) :: readWords separators names ((t.drop w.length).drop 1)

/-- A line in which a backslash hides the next character, also a line end; and the rest, with its
line end. -/
def hiddenLine : Text → Text × Text
  | '\\' :: '\n' :: t => hiddenLine t
  | '\\' :: c :: t =>
    let (line, rest) := hiddenLine t
    (c :: line, rest)
  | '\n' :: t => ([], '\n' :: t)
  | c :: t =>
    let (line, rest) := hiddenLine t
    (c :: line, rest)
  | [] => ([], [])

def readLine (args : List Text) (s : State) : State :=
  let (letters, names) := Process.flags args
  let (line, rest) :=
    if letters.contains 'r' then (s.input.takeWhile (· != '\n'), s.input.dropWhile (· != '\n'))
    else hiddenLine s.input
  if names.isEmpty then s.abort "arg count".toList
  else
    let s := (readWords s.separators names line).foldl (fun s (name, t) => s.assign name t) s
    { s with input := rest.drop 1, status := if rest.isEmpty then 1 else 0 }

/-- The commands of the shell that only change its state. -/
def builtin? (name : Text) : Option (List Text → State → State) :=
  match String.ofList name with
  | ":" | "true" | "umask" | "times" | "hash" | "alias" => some fun _ s => { s with status := 0 }
  | "false" => some fun _ s => { s with status := 1 }
  | "exit" => some (exitWith .exiting)
  | "return" => some (exitWith .returning)
  | "break" => some (leaveLoops false)
  | "continue" => some (leaveLoops true)
  | "shift" => some shift
  | "set" => some fun args s => setArgs args { s with status := 0 }
  | "export" => some fun args s =>
    (args.filter (· ≠ "-p".toList)).foldl (declare fun v => { v with exported := true })
      { s with status := 0 }
  | "readonly" => some fun args s =>
    (args.filter (· ≠ "-p".toList)).foldl (declare fun v => { v with constant := true })
      { s with status := 0 }
  | "local" => some fun args s =>
    if s.calls = 0 then s.abort "not in a function".toList
    else
      args.foldl (fun s a => declare id (s.hide (a.takeWhile (· != '='))) a) { s with status := 0 }
  | "unset" => some fun args s =>
    let (letters, names) := Process.flags args
    if letters.contains 'f' then
      { s with functions := s.functions.filter fun f => !names.contains f.1, status := 0 }
    else names.foldl unsetVariable { s with status := 0 }
  | "trap" => some setTrap
  | "wait" => some fun _ s => { s with status := 0 }
  | "cd" => some fun args s =>
    let path := ((Process.flags args).2.head?.orElse fun _ => s.named? "HOME".toList).getD []
    match s.directory.enter path with
    | .ok d => { s with directory := d, status := 0 }
    | .error _ => { s.complain ("can't cd to ".toList ++ path) with status := 2 }
  | "pwd" => some fun _ s => { s.print 1 (Place.path s.directory.here ++ ['\n']) with status := 0 }
  | "read" => some readLine
  | "echo" => some fun args s => s.afterBuiltin name (Process.echo s.directory args)
  | "printf" => some fun args s => s.afterBuiltin name (Process.printf s.directory args)
  | "test" => some fun args s => s.afterBuiltin name (Process.test name s.directory args)
  | "[" => some fun args s => s.afterBuiltin name (Process.bracketTest s.directory args)
  | _ => none

end Builtins

section Programs

/-- The state after a program was started, or was not. -/
def afterStart (name : Text) (s : State) : Started → State
  | .notFound => { s.complain (name ++ ": not found".toList) with status := 127 }
  | .denied => { s.complain (name ++ ": Permission denied".toList) with status := 126 }
  | .ran o =>
    let s := s.afterOutcome o
    match o.status with
    | .killed n =>
      if n = 2 ∨ n = 13 then s
      else
        match Signal.descriptions[n - 1]? with
        | some t => s.print 2 (t ++ ['\n'])
        | none => s
    | .exited _ => s

/-- The state of a shell that a program takes the place of. -/
def replaceBy (name : Text) (s : State) : Started → State
  | .ran o =>
    match o.status with
    | .killed n => { s.afterOutcome o with flow := .killed n }
    | .exited _ => { s.afterOutcome o with flow := .exiting, traps := [] }
  | .notFound =>
    { s.complain ("exec: ".toList ++ name ++ ": not found".toList) with
      status := 127, flow := .exiting }
  | .denied =>
    { s.complain ("exec: ".toList ++ name ++ ": Permission denied".toList) with
      status := 126, flow := .exiting }

/-- The environment of a program that is started with assignments of its own. -/
def environmentWith (s : State) (assigned : List (Text × Text)) : List (Text × Text) :=
  assigned.foldl (fun env (name, t) => Entries.set name t env) s.environment

end Programs

section Run

/-- How many functions may wait for one another. -/
def maxCalls : Nat := 1000

/-- The state in which a part of a script runs in a shell of its own. -/
def State.forSubshell (s : State) : State :=
  { s with traps := s.traps.filter (·.2.isEmpty), loops := 0, depth := s.depth + 1 }

/-- A shell that ends if a command failed that nobody looked at. -/
def checkFailure (looked : Bool) : StateM State Unit :=
  modify fun s =>
    if s.status ≠ 0 ∧ s.exitOnFailure ∧ !looked ∧ s.flow = .running then { s with flow := .exiting }
    else s

/-- Puts a signal that nothing is set for into effect. -/
def State.endBy (n : Nat) (s : State) : State :=
  if n = 0 ∨ Signal.isIgnored n ∨ Signal.isStop n then s else { s with flow := .killed n }

mutual

/-- Runs a command. The flag says that somebody looks at its status, so that a failure does not end
the script. -/
def exec (start : Starter) : Nat → Bool → Command → StateM State Unit
  | 0, _, _ => modify fun s => { s with flow := .exiting }
  | fuel + 1, looked, c => do
    let s ← get
    if s.flow ≠ .running || s.onlyReads then return
    match c with
    | .skip => pure ()
    | .simple line as ws rs => do
      modify fun s => { s with line, substituted := none }
      simple start fuel looked as ws rs
      checkFailure looked
    | .pipeline stages => do
      pipe start fuel looked s.input stages
      modify fun s' => { s' with input := s.input }
      checkFailure looked
    | .negated c => do
      exec start fuel true c
      modify fun s =>
        if s.flow = .running then { s with status := if s.status = 0 then 1 else 0 } else s
    | .both a b => do
      exec start fuel true a
      let s ← get
      if s.status = 0 then exec start fuel looked b
    | .either a b => do
      exec start fuel true a
      let s ← get
      if s.status ≠ 0 then exec start fuel looked b
    | .sequence a b => do
      exec start fuel looked a
      exec start fuel looked b
    | .background c => do
      inSubshell start fuel (exec start fuel false c)
      modify fun s => { s with status := 0 }
    | .subshell c => do
      inSubshell start fuel (exec start fuel looked c)
      checkFailure looked
    | .branch condition yes no => do
      exec start fuel true condition
      let s ← get
      if s.flow = .running then
        if s.status = 0 then exec start fuel looked yes
        else
          match no with
          | .skip => set { s with status := 0 }
          | no => exec start fuel looked no
    | .loop whileTrue condition body => do
      modify fun s => { s with loops := s.loops + 1 }
      turn start fuel looked whileTrue condition body 0
      modify fun s => { s with loops := s.loops - 1 }
    | .each line name words body => do
      modify fun s => { s with line }
      let fields ← match words with
        | some ws => do
          let parts ← ws.mapM (expand (capture start fuel))
          pure parts.flatten
        | none => pure s.args
      modify fun s => if s.flow = .running && fields.isEmpty then { s with status := 0 } else s
      modify fun s => { s with loops := s.loops + 1 }
      forEach start fuel looked name body fields
      modify fun s => { s with loops := s.loops - 1 }
    | .choice line w cs => do
      modify fun s => { s with line }
      let t ← expandText (capture start fuel) w
      choose start fuel looked t cs
    | .define name body =>
      modify fun s => { s with functions := Entries.set name body s.functions, status := 0 }
    | .redirected line c rs => do
      modify fun s => { s with line }
      withRedirections (capture start fuel) rs (exec start fuel looked c)

def inSubshell (start : Starter) : Nat → StateM State Unit → StateM State Unit
  | 0, _ => pure ()
  | fuel + 1, action => do
    let outer ← get
    set outer.forSubshell
    action
    finish start fuel
    modify fun inner => outer.afterSubshell inner
    deliver start fuel

/-- Puts the signals that parts of a script have sent to it into effect, unless this is a part
itself. -/
def deliver (start : Starter) : Nat → StateM State Unit
  | 0 => pure ()
  | fuel + 1 => do
    let s ← get
    match s.depth, s.pending with
    | 0, n :: rest => do
      set { s with pending := rest }
      receive start fuel n
      deliver start fuel
    | _, _ => pure ()

/-- Does what is set for a signal; the last status stays. -/
def receive (start : Starter) : Nat → Nat → StateM State Unit
  | 0, _ => pure ()
  | fuel + 1, n => do
    let s ← get
    match s.traps.lookup n with
    | some [] => pure ()
    | some action => do
      script start fuel false action
      modify fun s' => if s'.flow = .running then { s' with status := s.status } else s'
    | none => set (s.endBy n)

/-- What is to be done at the end of a shell. -/
def finish (start : Starter) : Nat → StateM State Unit
  | 0 => pure ()
  | fuel + 1 => do
    let s ← get
    match s.flow, s.traps.lookup 0 with
    | .killed _, _ | _, none => pure ()
    | _, some action => do
      set { s with flow := .running, traps := s.traps.filter fun p => p.1 ≠ 0 }
      script start fuel false action
      modify fun s' => if s'.flow = .running then { s' with status := s.status } else s'

/-- The output of a script that runs in a shell of its own. -/
def capture (start : Starter) : Nat → Nat → Text → StateM State Text
  | 0, _, _ => pure []
  | fuel + 1, first, t => do
    let outer ← get
    set { outer.forSubshell with captured := [], sinks := Entries.set 1 .captured outer.sinks }
    lines start fuel false (first + t.count '\n') (Token.ofScript first t)
    finish start fuel
    let inner ← get
    set { outer.afterSubshell inner with
      captured := outer.captured, substituted := some inner.status, status := outer.status }
    deliver start fuel
    return inner.captured

/-- Runs the stages of a pipeline, each in a shell of its own, on an input. -/
def pipe (start : Starter) : Nat → Bool → Text → List Command → StateM State Unit
  | 0, _, _, _ | _, _, _, [] => pure ()
  | fuel + 1, looked, input, [c] => do
    modify fun s => { s with input }
    inSubshell start fuel (exec start fuel looked c)
  | fuel + 1, looked, input, c :: cs => do
    let outer ← get
    set { outer.forSubshell with
      input, captured := [], sinks := Entries.set 1 .captured outer.sinks }
    exec start fuel looked c
    finish start fuel
    let inner ← get
    set { outer.afterSubshell inner with captured := outer.captured }
    pipe start fuel looked inner.captured cs

/-- The turns of a loop; its status is that of the last turn. -/
def turn (start : Starter) :
    Nat → Bool → Bool → Command → Command → Nat → StateM State Unit
  | 0, _, _, _, _, _ => modify fun s => { s with flow := .exiting }
  | fuel + 1, looked, whileTrue, condition, body, status => do
    exec start fuel true condition
    let s ← get
    if s.flow = .running && (s.status = 0) = whileTrue then
      exec start fuel looked body
    else if s.flow = .running then set { s with status }
    let s' ← get
    let went := s.flow = .running && (s.status = 0) = whileTrue
    match s'.flow with
    | .running =>
      if went then turn start fuel looked whileTrue condition body s'.status else pure ()
    | .leaving 1 true => do
      set { s' with flow := .running }
      turn start fuel looked whileTrue condition body s'.status
    | .leaving 1 false => set { s' with flow := .running }
    | .leaving n again => set { s' with flow := .leaving (n - 1) again }
    | _ => pure ()

/-- The turns of a loop over texts. -/
def forEach (start : Starter) : Nat → Bool → Text → Command → List Text → StateM State Unit
  | 0, _, _, _, _ | _, _, _, _, [] => pure ()
  | fuel + 1, looked, name, body, t :: ts => do
    modify fun s => if s.flow = .running then s.assign name t else s
    exec start fuel looked body
    let s ← get
    match s.flow with
    | .running => forEach start fuel looked name body ts
    | .leaving 1 true => do
      set { s with flow := .running }
      forEach start fuel looked name body ts
    | .leaving 1 false => set { s with flow := .running }
    | .leaving n again => set { s with flow := .leaving (n - 1) again }
    | _ => pure ()

/-- The first case with a pattern that matches a text. -/
def choose (start : Starter) :
    Nat → Bool → Text → List (List Word × Command) → StateM State Unit
  | 0, _, _, _ => pure ()
  | _, _, _, [] => modify fun s => { s with status := 0 }
  | fuel + 1, looked, t, (ws, body) :: rest => do
    let patterns ← ws.mapM (expandMarked (capture start fuel))
    let s ← get
    if s.flow ≠ .running then return
    if patterns.any fun m => Pattern.accepts (Pattern.ofMarked m) t then
      match body with
      | .skip => set { s with status := 0 }
      | body => exec start fuel looked body
    else choose start fuel looked t rest

def assignAll (start : Starter) : Nat → List (Text × Word) → StateM State (List (Text × Text))
  | 0, _ | _, [] => return []
  | fuel + 1, (name, w) :: rest => do
    let t ← expandText (capture start fuel) w
    modify fun s => s.assign name t
    let more ← assignAll start fuel rest
    return (name, t) :: more

/-- A simple command: assignments alone, or a command of the shell, a function or a program. -/
def simple (start : Starter) :
    Nat → Bool → List (Text × Word) → List Word → List Redirection → StateM State Unit
  | 0, _, _, _, _ => pure ()
  | fuel + 1, looked, as, ws, rs => do
    let substitute := capture start fuel
    let parts ← ws.mapM (expand substitute)
    let s ← get
    if s.flow ≠ .running then return
    match parts.flatten with
    | [] =>
      withRedirections substitute rs do
        let _ ← assignAll start fuel as
        modify fun s => if s.flow = .running then { s with status := s.substituted.getD 0 } else s
    | name :: args =>
      if name = "exec".toList && args.isEmpty then do
        if ← redirectAll substitute rs then modify fun s => { s with status := 0 }
        else modify fun s => { s with status := 2, flow := .exiting }
      else do
        let special := Grammar.specialNames.contains name
        withRedirections substitute rs do
          let before ← get
          let assigned ← assignAll start fuel as
          let s ← get
          if s.flow ≠ .running then return
          call start fuel looked assigned name args
          unless special do
            modify fun s => assigned.foldl (fun s (name, _) =>
              s.putBack name (before.bindings.lookup name)) s
        let s' ← get
        if special && s'.status = 2 && s.flow = .running && s'.flow = .running && !rs.isEmpty then
          set { s' with flow := .exiting }

/-- Calls a function, a command of the shell or a program. -/
def call (start : Starter) :
    Nat → Bool → List (Text × Text) → Text → List Text → StateM State Unit
  | 0, _, _, _, _ => pure ()
  | fuel + 1, looked, assigned, name, args => do
    let s ← get
    let program (name : Text) (args : List Text) : State :=
      afterStart name s
        (start s.directory (environmentWith s assigned) s.input s.ignored name args)
    match s.functions.lookup name with
    | some body =>
      if s.calls = maxCalls then
        set (s.abort ("Maximum function recursion depth (".toList ++ Text.ofNat maxCalls ++
          ") reached".toList))
      else do
        set { s with args, calls := s.calls + 1, loops := 0, hidden := [] }
        exec start fuel looked body
        modify fun s' =>
          let s' := s'.hidden.foldl (fun s (name, old) => s.putBack name old) s'
          { s' with
            args := s.args, calls := s.calls, loops := s.loops, hidden := s.hidden
            flow := if s'.flow = .returning then .running else s'.flow }
    | none =>
      match String.ofList name, args with
      | "eval", _ | ".", _ | "kill", _ => builtin start fuel looked name args
      | "exec", command :: rest =>
        set (replaceBy command s
          (start s.directory (environmentWith s assigned) s.input s.ignored command rest))
      | "command", ['-', 'v'] :: what :: _ =>
        if (builtin? what).isSome || (s.functions.lookup what).isSome then
          set { s.print 1 (what ++ ['\n']) with status := 0 }
        else if SystemFiles.programNames.contains what then
          set { s.print 1 ("/usr/bin/".toList ++ what ++ ['\n']) with status := 0 }
        else set { s with status := 127 }
      | "command", what :: rest => do
        set { s with functions := s.functions.filter fun f => f.1 ≠ what }
        call start fuel looked assigned what rest
        modify fun s' => { s' with functions := s.functions }
      | _, _ =>
        match builtin? name with
        | some f => set { f args { s with context := some name } with context := s.context }
        | none => set (program name args)

/-- Runs a command of the shell that runs others, or sends a signal. -/
def builtin (start : Starter) : Nat → Bool → Text → List Text → StateM State Unit
  | 0, _, _, _ => pure ()
  | fuel + 1, looked, name, args => do
    let s ← get
    match String.ofList name with
    | "eval" => do
      set { s with status := 0, context := some name }
      script start fuel looked (Text.join [' '] args)
      modify fun s' => { s' with context := s.context, line := s.line }
    | "." =>
      match args with
      | path :: _ =>
        match s.directory.read path with
        | .ok t => do
          set { s with context := some path }
          script start fuel looked t
          modify fun s' =>
            { s' with
              context := s.context, line := s.line
              flow := if s'.flow = .returning then .running else s'.flow }
        | .error _ =>
          set ({ s with context := some name }.abort
            ("cannot open ".toList ++ path ++ ": No such file".toList))
      | [] => pure ()
    | "kill" =>
      let refuse (status : Nat) (t : Text) : State :=
        { { s with context := some name }.complain t with status, context := s.context }
      match killTargets args with
      | .error t => set (refuse 2 t)
      | .ok (n, targets) =>
        if targets.isEmpty then set (refuse 2 killUsage)
        else if targets.contains State.processNumber then
          if s.depth = 0 then do
            set { s with status := 0 }
            receive start fuel n
          else set { s with status := 0, pending := s.pending ++ [n] }
        else set (refuse 1 "No such process\n".toList)
    | _ =>
      match builtin? name with
      | some f => set { f args { s with context := some name } with context := s.context }
      | none => pure ()

/-- Runs a script line by line. -/
def script (start : Starter) : Nat → Bool → Text → StateM State Unit
  | 0, _, _ => modify fun s => { s with flow := .exiting }
  | fuel + 1, looked, t => lines start fuel looked (t.count '\n' + 1) (Token.ofScript 1 t)

/-- Runs the complete commands of some tokens, up to a fault. -/
def lines (start : Starter) : Nat → Bool → Nat → Grammar.Tokens → StateM State Unit
  | 0, _, _, _ => modify fun s => { s with flow := .exiting }
  | fuel + 1, looked, last, ts => do
    match Grammar.next? last ts with
    | none => pure ()
    | some (.error (line, t)) => modify fun s => { s with line }.abort t
    | some (.ok (c, rest)) => do
      exec start fuel looked c
      let s ← get
      if s.flow = .running then lines start fuel looked last rest

end

/-- How deep commands may nest and how often loops may turn. -/
def maxSteps : Nat := 100000

/-- The status of a shell that has ended. -/
def State.ending (s : State) : Status :=
  match s.flow with
  | .killed n => .killed n
  | _ => .exited (s.status % 256)

/-- A script with the options of its shell, an environment, an input, signals that are ignored, a
name and arguments. -/
def run (start : Starter) (d : Directory) (options : Text) (environment : List (Text × Text))
    (input : Text) (ignored : List Nat) (name : Text) (args : List Text) (t : Text) : Outcome :=
  let s : State :=
    { directory := d
      name
      args
      input
      traps := ignored.map fun n => (n, [])
      bindings := environment.map fun (k, v) => (k, ⟨some v, true, false⟩) }
  let s := options.foldl (setOption true) s
  let action : StateM State Unit := do
    script start maxSteps false t
    finish start maxSteps
  let (_, s) := action.run s
  { directory := { s.directory with here := d.here }
    status := s.ending
    output := s.output
    errors := s.errors }

end Run

end ESharp.Shell
