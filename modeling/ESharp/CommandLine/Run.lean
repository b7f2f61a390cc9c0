import ESharp.CommandLine.Help
import ESharp.Config.Loader
import ESharp.Source
import ESharp.Toolchain

/-!
# Running a command line

A run starts from a working directory and ends with an exit code, with what it printed and with
the directory it leaves behind. A run that fails says why in one line. Only runs without a terminal
are covered: a viewer that is asked for reads its script and then has nowhere to show it.
-/

namespace ESharp.CommandLine

/-- What a run leaves behind. -/
structure Report where
  directory : Directory
  code : Nat := 0
  output : Text := []
  errors : Text := []
  events : List Event := []
  deriving DecidableEq, Repr

def errorLine (message : Text) : Text := "Error: ".toList ++ message ++ ['\n']

def fail (d : Directory) (message : Text) (events : List Event) : Report :=
  { directory := d, code := 1, errors := errorLine message, events }

/-- The configuration file of a directory. -/
def localConfig : Text := "easysharp.toml".toList

def layers (i : Invocation) : List Config.Layer :=
  [.optional localConfig] ++ (i.config.map .file).toList ++
    (i.className.map fun name => .override "program.class_name".toList (Config.plain name)).toList

/-- Writes a script in a format, to a file or to the output. -/
def translate (c : Config) (d : Directory) (path : Text) (output : Option Text) (format : Text) :
    Report :=
  match Source.process .standard c.program d path format, output with
  | ⟨.error e, events⟩, _ => fail d e.message events
  | ⟨.ok t, events⟩, none => { directory := d, output := t, events }
  | ⟨.ok t, events⟩, some goal =>
    match Source.write d goal t with
    | ⟨.ok d, more⟩ => { directory := d, events := events ++ more }
    | ⟨.error e, more⟩ => fail d e.message (events ++ more)

/-- The report of a run that goes on after another. -/
def Report.followedBy (before after : Report) : Report :=
  { after with
    output := before.output ++ after.output
    errors := before.errors ++ after.errors
    events := before.events ++ after.events }

def compile (t : Tools) (d : Directory) (source output : Text) : Report :=
  let r := t.compile d source output
  let events := t.compileEvents source output r
  match r with
  | .error e => fail d e.message events
  | .ok (o, .ok ()) =>
    { directory := o.directory
      output := o.output ++ output ++ ['\n']
      errors := o.errors
      events }
  | .ok (o, .error e) =>
    { directory := o.directory
      code := o.status.code?.getD 1
      output := o.output
      errors := o.errors ++ errorLine e.message
      events }

/-- Shows a source in the editor, if there is one, and compiles it. -/
def showAndCompile (t : Tools) (d : Directory) (source output : Text) : Report :=
  match t.show? d source with
  | .error e => fail d e.message []
  | .ok none => ({ directory := d, events := [.noEditor] } : Report).followedBy
      (compile t d source output)
  | .ok (some o) =>
    let shown : Report :=
      { directory := d
        output := o.output
        errors := o.errors
        events := t.showEvents (.ok (some o)) }
    shown.followedBy (compile t o.directory source output)

/-- Writes a script to a temporary file, shows it if asked to, and compiles it. -/
def build (c : Config) (d : Directory) (path : Text) (output : Option Text) (showSource : Bool) :
    Report :=
  match Source.process .standard c.program d path defaultFormat with
  | ⟨.error e, events⟩ => fail d e.message events
  | ⟨.ok t, events⟩ =>
    match d.writeTemporary t with
    | .error e => fail d ("failed to write temporary source: ".toList ++ e.message) events
    | .ok (d, source) =>
      let goal := output.getD (Path.withExtension "exe".toList path)
      let written : Report :=
        { directory := d
          output := source ++ ['\n']
          events := events ++ [.wroteTemporary source] }
      written.followedBy
        (if showSource then showAndCompile c.tools d source goal else compile c.tools d source goal)

/-- The viewer of a script, in a run without a terminal. -/
def view (d : Directory) (path : Text) : Report :=
  match d.read path with
  | .error e => fail d e.message []
  | .ok _ => fail d "No such device or address (os error 6)".toList []

def formatLines (r : Registry) : List Text :=
  ["Available output formats:".toList, []] ++
    r.describe.flatMap fun (name, description) =>
      ["  ".toList ++ name, "    ".toList ++ description]

def execute (d : Directory) (i : Invocation) : Report :=
  match Config.load d (layers i) with
  | .error e => fail d e.message []
  | .ok c =>
    match i.command with
    | .translate path output format => translate c d path output format
    | .build path output showSource => build c d path output showSource
    | .view path => view d path
    | .listFormats => { directory := d, output := Text.unlines (formatLines .standard) }

/-- The paths at which a run looks, besides those of its tools. -/
def Command.paths : Command → List Text
  | .translate path output _ => path :: output.toList
  | .build path output _ => path :: output.toList
  | .view path => [path]
  | .listFormats => []

def lookedAt (args : List Text) : List Text :=
  match parse args with
  | .error _ => []
  | .ok i =>
    let configs := localConfig :: i.config.toList
    configs ++ configs.map (Path.addExtension "toml".toList) ++ i.command.paths

def eventLine (e : Event) : Text := e.level.name ++ ' ' :: e.message ++ ['\n']

/-- The report without the events that nobody asked for. -/
def Report.filterEvents (r : Report) (verbose : Bool) : Report :=
  { r with events := r.events.filter fun e => verbose || e.level = .warn }

def usageLine : Text := "For more information, try '--help'.\n".toList

def run (d : Directory) (args : List Text) : Report :=
  match parse args with
  | .ok i => (execute d i).filterEvents i.verbose
  | .error .usage => { directory := d, code := 2, errors := usageLine }
  | .error (.help v) => { directory := d, output := helpPage v }
  | .error .version => { directory := d, output := versionLine }

end ESharp.CommandLine
