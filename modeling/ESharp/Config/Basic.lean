import ESharp.Config.Error
import ESharp.Identifier
import ESharp.Program
import ESharp.Text.Quoted

/-!
# Configurations

A configuration is two records, of the program and of its tools. Each record is read from a table
with a field for each part, or from a list with the parts in their order. A text may be written as
a text, a number or a truth value; a list has to be a list.
-/

namespace ESharp

/-- The programs that `build` starts, and their arguments. -/
structure Tools where
  compiler : Text
  compilerArgs : List Text
  editor : Text
  editorArgs : List Text
  deriving DecidableEq, Repr

structure Config where
  program : Layout
  tools : Tools
  deriving DecidableEq, Repr

namespace Config

section Decode

/-- What a setting is, for a place that asks for a list or a record. -/
def found : Setting → Text
  | .scalar _ .nil => "unit value".toList
  | .scalar _ (.boolean b) =>
    "boolean `".toList ++ (if b then "true".toList else "false".toList) ++ "`".toList
  | .scalar _ (.integer n) => "integer `".toList ++ Text.ofInt n ++ "`".toList
  | .scalar _ (.float x) => "floating point `".toList ++ x.pointText ++ "`".toList
  | .scalar _ (.text t) => "string ".toList ++ Text.quoted t
  | .list .. => "sequence".toList
  | .table .. => "map".toList

def toText (s : Setting) : Except LoadError Text :=
  match s with
  | .scalar _ (.text t) => .ok t
  | .scalar _ (.boolean b) => .ok (if b then "true".toList else "false".toList)
  | .scalar _ (.integer n) => .ok (Text.ofInt n)
  | .scalar _ (.float x) => .ok x.text
  | .scalar origin .nil => .error (.notString (found s) [] origin)
  | .list origin _ => .error (.notString (found s) [] origin)
  | .table origin _ => .error (.notString (found s) [] origin)

/-- A result below a key, seen from above it. -/
def under (step : Text) : Except LoadError α → Except LoadError α
  | .ok a => .ok a
  | .error e => .error (e.under step)

def itemStep (n : Nat) : Text := '[' :: Text.ofNat n ++ [']']

/-- The items of a list as texts, the first one being item `n`. -/
def toTextsFrom (n : Nat) : List Setting → Except LoadError (List Text)
  | [] => .ok []
  | s :: rest => do
    let t ← under (itemStep n) (toText s)
    let ts ← toTextsFrom (n + 1) rest
    .ok (t :: ts)

def toTexts : Setting → Except LoadError (List Text)
  | .list _ items => toTextsFrom 0 items
  | s => .error (.wrongKind (found s) "a sequence".toList)

/-- A record that is being read: where its parts come from. -/
inductive Parts
  | fields (fields : List (Text × Setting))
  | items (items : List Setting)

/-- The parts of the record called `name`. -/
def parts (name : Text) : Setting → Except LoadError Parts
  | .table _ fields => .ok (.fields fields)
  | .list _ items => .ok (.items items)
  | s => .error (.wrongKind (found s) ("struct ".toList ++ name))

/-- A part of a record, by its name or its place. A list has to have every part; that a table lacks
one is told only when all the others are read. -/
def part (record : Text) (p : Parts) (place : Nat) (name : Text)
    (decode : Setting → Except LoadError α) : Except LoadError (Option α) :=
  match p with
  | .fields fields =>
    match fields.lookup name with
    | some s => (under name (decode s)).map some
    | none => .ok none
  | .items items =>
    match items[place]? with
    | some s => (under (itemStep place) (decode s)).map some
    | none => .error (.tooShort place ("struct ".toList ++ record ++ " with 4 elements".toList))

def required (name : Text) : Option α → Except LoadError α
  | some a => .ok a
  | none => .error (.missingField name)

def toLayout (s : Setting) : Except LoadError Layout := do
  let record := "ProgramLayout".toList
  let p ← parts record s
  let className ← part record p 0 "class_name".toList toText
  let entryPoint ← part record p 1 "entry_point".toList toText
  let assertHelper ← part record p 2 "assert_helper".toList toText
  let indent ← part record p 3 "indent".toList toText
  .ok
    { className := ← required "class_name".toList className
      entryPoint := ← required "entry_point".toList entryPoint
      assertHelper := ← required "assert_helper".toList assertHelper
      indent := ← required "indent".toList indent }

def toTools (s : Setting) : Except LoadError Tools := do
  let record := "ToolchainConfig".toList
  let p ← parts record s
  let compiler ← part record p 0 "compiler".toList toText
  let compilerArgs ← part record p 1 "compiler_args".toList toTexts
  let editor ← part record p 2 "editor".toList toText
  let editorArgs ← part record p 3 "editor_args".toList toTexts
  .ok
    { compiler := ← required "compiler".toList compiler
      compilerArgs := ← required "compiler_args".toList compilerArgs
      editor := ← required "editor".toList editor
      editorArgs := ← required "editor_args".toList editorArgs }

def ofSetting (s : Setting) : Except LoadError Config := do
  let p := Parts.fields s.fields
  let program ← part [] p 0 "program".toList toLayout
  let tools ← part [] p 1 "toolchain".toList toTools
  .ok
    { program := ← required "program".toList program
      tools := ← required "toolchain".toList tools }

end Decode

section Check

/-- The first name of a layout that is no identifier. -/
def badName? (l : Layout) : Option (NameKey × Text) :=
  [(NameKey.className, l.className), (.entryPoint, l.entryPoint),
    (.assertHelper, l.assertHelper)].find? fun n => !Identifier.isValid n.2

/-- The first method of a layout that declares the name of its class. -/
def clash? (l : Layout) : Option (NameKey × Text) :=
  [(NameKey.entryPoint, l.entryPoint), (.assertHelper, l.assertHelper)].find? fun n =>
    Identifier.declared n.2 = Identifier.declared l.className

/-- A configuration whose names can be written. -/
def check (c : Config) : Except ConfigError Config :=
  match badName? c.program with
  | some (key, value) => .error (.invalidIdentifier key value)
  | none =>
    match clash? c.program with
    | some (key, value) => .error (.invalidLayout key value)
    | none => .ok c

end Check

end Config
end ESharp
