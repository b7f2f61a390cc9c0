import ESharp.Config.Basic
import ESharp.Files.Directory

/-!
# Loading a configuration

Settings come in layers: the defaults, then the files in their order, then the overrides, wherever
they stand between the files.
-/

namespace ESharp.Config

/-- A layer over the defaults. -/
inductive Layer
  /-- A file that has to be there. -/
  | file (name : Text)
  /-- A file that may be missing. -/
  | optional (name : Text)
  /-- A value under a key. -/
  | override (key : Text) (value : Setting)

/-- A text without an origin. -/
def plain (t : Text) : Setting := .scalar none (.text t)

def defaults : Setting :=
  let layout : Layout := {}
  .table none
    [("program".toList, .table none
        [("class_name".toList, plain layout.className),
          ("entry_point".toList, plain layout.entryPoint),
          ("assert_helper".toList, plain layout.assertHelper),
          ("indent".toList, plain layout.indent)]),
      ("toolchain".toList, .table none
        [("compiler".toList, plain "csc".toList),
          ("compiler_args".toList, .list none
            [plain "\x7bsource\x7d".toList, plain "/out:\x7boutput\x7d".toList]),
          ("editor".toList, plain []),
          ("editor_args".toList, .list none [plain "\x7bsource\x7d".toList])])]

/-- The path under which a file with a name is found: the name itself, or with its extension. -/
def locate? (d : Directory) (name : Text) : Option Text :=
  if d.isFile name then some name
  else
    let full := Path.addExtension "toml".toList name
    if d.isFile full then some full else none

def readFile (d : Directory) (name : Text) : Except LoadError (List (Text × Setting)) :=
  match locate? d name with
  | none => .error (.missingFile name)
  | some path =>
    match d.read path with
    | .error _ => .error .notText
    | .ok t =>
      match Toml.read? t with
      | some fields => .ok (Setting.ofFields (some (Path.normal path)) fields)
      | none => .error .badSyntax

/-- The settings with those of a file. A key at the top of a file may be written like the key of an
override. -/
def addFields (s : Setting) (fields : List (Text × Setting)) : Setting :=
  fields.foldl (fun s (key, value) =>
    match Setting.key? key with
    | some steps => Setting.assign value steps s
    | none => Setting.put key value s) s

/-- The settings with those of the files among the layers. -/
def addFiles (d : Directory) : List Layer → Setting → Except LoadError Setting
  | [], s => .ok s
  | .file name :: rest, s => do
    let fields ← readFile d name
    addFiles d rest (addFields s fields)
  | .optional name :: rest, s =>
    match readFile d name with
    | .ok fields => addFiles d rest (addFields s fields)
    | .error .badSyntax => .error .badSyntax
    | .error _ => addFiles d rest s
  | .override .. :: rest, s => addFiles d rest s

/-- The overrides among the layers with the steps of their keys. -/
def overrides : List Layer → Except LoadError (List (List Setting.KeyStep × Setting))
  | [] => .ok []
  | .override key value :: rest => do
    match Setting.key? key with
    | none => .error .badKey
    | some steps =>
      let more ← overrides rest
      .ok ((steps, value) :: more)
  | _ :: rest => overrides rest

/-- The overrides that no later one replaces. -/
def lastOverrides (l : List (List Setting.KeyStep × Setting)) :
    List (List Setting.KeyStep × Setting) :=
  match l with
  | [] => []
  | o :: rest => if rest.any (·.1 = o.1) then lastOverrides rest else o :: lastOverrides rest

def settings (d : Directory) (layers : List Layer) : Except LoadError Setting := do
  let pairs ← overrides layers
  let s ← addFiles d layers defaults
  .ok ((lastOverrides pairs).foldl (fun s o => Setting.assign o.2 o.1 s) s)

def load (d : Directory) (layers : List Layer) : Except ConfigError Config :=
  match settings d layers with
  | .error e => .error (.load e)
  | .ok s =>
    match ofSetting s with
    | .error e => .error (.load e)
    | .ok c => check c

end ESharp.Config
