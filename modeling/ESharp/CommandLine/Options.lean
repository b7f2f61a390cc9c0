import ESharp.Text.Basic

/-!
# Reading a command line

Arguments are read from the left, and the first thing that ends the reading wins: a fault, a
request for help or a request for the version. An option stands before or after the command if all
commands have it; given in both places, the later one counts.
-/

namespace ESharp.CommandLine

inductive Opt
  | config
  | className
  | verbose
  | output
  | format
  | showSource
  | help
  | version
  deriving DecidableEq, Repr

namespace Opt

def long : Opt → Text
  | config => "config".toList
  | className => "class-name".toList
  | verbose => "verbose".toList
  | output => "output".toList
  | format => "format".toList
  | showSource => "show".toList
  | help => "help".toList
  | version => "version".toList

def short? : Opt → Option Char
  | config => some 'c'
  | verbose => some 'v'
  | output => some 'o'
  | format => some 'f'
  | help => some 'h'
  | version => some 'V'
  | className | showSource => none

def takesValue : Opt → Bool
  | config | className | output | format => true
  | verbose | showSource | help | version => false

end Opt

inductive Verb
  | translate
  | build
  | view
  | listFormats
  deriving DecidableEq, Repr

namespace Verb

def name : Verb → Text
  | translate => "translate".toList
  | build => "build".toList
  | view => "view".toList
  | listFormats => "list-formats".toList

def all : List Verb := [translate, build, view, listFormats]

def ofName? (t : Text) : Option Verb := all.find? (·.name = t)

def takesPath : Verb → Bool
  | listFormats => false
  | _ => true

/-- The options after a command, in the order in which they are shown. -/
def options : Verb → List Opt
  | translate => [.config, .output, .className, .format, .verbose, .help]
  | build => [.config, .output, .className, .showSource, .verbose, .help]
  | view | listFormats => [.config, .className, .verbose, .help]

end Verb

/-- The options before a command. -/
def commonOptions : List Opt := [.config, .className, .verbose, .help, .version]

/-- What there is help on. -/
inductive Topic
  | program
  | verb (v : Verb)
  | help
  deriving DecidableEq, Repr

/-- What ends the reading of a command line. -/
inductive Stop
  | usage
  | help (topic : Topic)
  | version
  deriving DecidableEq, Repr

/-- The options and paths before or after a command. -/
structure Given where
  options : List (Opt × Text) := []
  paths : List Text := []
  deriving DecidableEq, Repr

namespace Given

def value? (l : Given) (o : Opt) : Option Text := l.options.lookup o

def has (l : Given) (o : Opt) : Bool := (l.value? o).isSome

end Given

/-- A part of a command line: before the command, or after one of them. -/
structure Scope where
  verb : Option Verb

namespace Scope

def options (p : Scope) : List Opt :=
  match p.verb with
  | some v => v.options
  | none => commonOptions

/-- What the option for help is about. -/
def topic (p : Scope) : Topic :=
  match p.verb with
  | some v => .verb v
  | none => .program

/-- Whether a path may follow some others. -/
def allowsPath (p : Scope) (l : Given) : Bool :=
  match p.verb with
  | some v => v.takesPath && l.paths.isEmpty
  | none => false

end Scope

/-- The arguments with one more option. An option that stops the reading does so here, and no option
can be given twice. -/
def addOption (p : Scope) (l : Given) (o : Opt) (value : Text) : Except Stop Given :=
  match o with
  | .help => .error (.help p.topic)
  | .version => .error .version
  | _ => if l.has o then .error .usage else .ok { l with options := l.options ++ [(o, value)] }

def addPath (p : Scope) (l : Given) (path : Text) : Except Stop Given :=
  if p.allowsPath l then .ok { l with paths := l.paths ++ [path] } else .error .usage

/-- An option with its name written out; the option is still waiting for its value if it has
none. -/
def addLong (p : Scope) (l : Given) (t : Text) : Except Stop (Given × Option Opt) :=
  let name := t.takeWhile (· != '=')
  match p.options.find? (·.long = name), t.dropWhile (· != '=') with
  | none, _ => .error .usage
  | some o, [] =>
    if o.takesValue then .ok (l, some o) else do
      let l ← addOption p l o []
      .ok (l, none)
  | some o, _ :: value =>
    if o.takesValue then do
      let l ← addOption p l o value
      .ok (l, none)
    else .error .usage

/-- Options by their letters. The first one with a value takes the rest as its value. -/
def addShorts (p : Scope) : Given → Text → Except Stop (Given × Option Opt)
  | l, [] => .ok (l, none)
  | l, c :: t =>
    match p.options.find? (·.short? = some c) with
    | none => .error .usage
    | some o =>
      if o.takesValue then
        match t with
        | [] => .ok (l, some o)
        | '=' :: value | value => do
          let l ← addOption p l o value
          .ok (l, none)
      else do
        let l ← addOption p l o []
        addShorts p l t

/-- Whether an argument is made of letters of options. -/
def isShort : Text → Bool
  | '-' :: c :: _ => c != '-'
  | _ => false

/-- Whether an argument is an option with its name written out. -/
def isLong : Text → Bool
  | '-' :: '-' :: _ :: _ => true
  | _ => false

/-- The argument after which all others are paths. -/
def isEscape (t : Text) : Bool := t = "--".toList

/-- How far the arguments of a scope reach. -/
structure Reading where
  given : Given
  /-- The command that was met, and the arguments after it. -/
  rest : Option (Text × List Text) := none

/-- The arguments of a scope. An option may be waiting for its value, and after the escape all
arguments are paths. -/
def readScope (p : Scope) (isCommand : Text → Bool) :
    (waiting : Option Opt) → (escaped : Bool) → Given → List Text → Except Stop Reading
  | some _, _, _, [] => .error .usage
  | none, _, l, [] => .ok { given := l }
  | some o, escaped, l, a :: rest =>
    if isEscape a || isLong a || isShort a then .error .usage
    else do
      let l ← addOption p l o a
      readScope p isCommand none escaped l rest
  | none, true, l, a :: rest => do
    let l ← addPath p l a
    readScope p isCommand none true l rest
  | none, false, l, a :: rest =>
    if isCommand a then .ok { given := l, rest := some (a, rest) }
    else if isEscape a then readScope p isCommand none true l rest
    else if isLong a then do
      let (l, waiting) ← addLong p l (a.drop 2)
      readScope p isCommand waiting false l rest
    else if isShort a then do
      let (l, waiting) ← addShorts p l (a.drop 1)
      readScope p isCommand waiting false l rest
    else do
      let l ← addPath p l a
      readScope p isCommand none false l rest

inductive Command
  | translate (path : Text) (output : Option Text) (format : Text)
  | build (path : Text) (output : Option Text) (showSource : Bool)
  | view (path : Text)
  | listFormats
  deriving DecidableEq, Repr

structure Invocation where
  config : Option Text := none
  className : Option Text := none
  verbose : Bool := false
  command : Command
  deriving DecidableEq, Repr

/-- The word that asks for help on a command. -/
def helpWord : Text := "help".toList

/-- What the arguments after the word for help ask for. -/
def helpTopic : List Text → Stop
  | [] => .help .program
  | [name] =>
    match Verb.ofName? name with
    | some v => .help (.verb v)
    | none => if name = helpWord then .help .help else .usage
  | _ => .usage

def defaultFormat : Text := "csharp".toList

/-- The command of a verb and what stands after it. -/
def command (v : Verb) (l : Given) : Except Stop Command :=
  match v, l.paths with
  | .listFormats, _ => .ok .listFormats
  | _, [] => .error .usage
  | .translate, path :: _ =>
    .ok (.translate path (l.value? .output) ((l.value? .format).getD defaultFormat))
  | .build, path :: _ => .ok (.build path (l.value? .output) (l.has .showSource))
  | .view, path :: _ => .ok (.view path)

def readVerb (before : Given) (v : Verb) (args : List Text) : Except Stop Invocation := do
  let r ← readScope ⟨some v⟩ (fun _ => false) none false {} args
  let c ← command v r.given
  .ok
    { config := (r.given.value? .config).or (before.value? .config)
      className := (r.given.value? .className).or (before.value? .className)
      verbose := before.has .verbose || r.given.has .verbose
      command := c }

def parse (args : List Text) : Except Stop Invocation := do
  let r ← readScope ⟨none⟩ (fun t => t = helpWord ∨ (Verb.ofName? t).isSome) none false {} args
  match r.rest with
  | none => .error .usage
  | some (name, rest) =>
    match Verb.ofName? name with
    | some v => readVerb r.given v rest
    | none => .error (helpTopic rest)

example : parse ["translate".toList, "-fx".toList, "a".toList] =
    .ok { command := .translate ['a'] none ['x'] } := by rfl

example : parse ["-v".toList, "-v".toList, "list-formats".toList] = .error .usage := by rfl

end ESharp.CommandLine
