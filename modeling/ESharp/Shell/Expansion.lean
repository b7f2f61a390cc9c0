import ESharp.Shell.Arithmetic
import ESharp.Shell.Pattern
import ESharp.Shell.State

/-!
# Expansion of words

A word becomes fields: its parameters, commands and arithmetic are replaced by their values, and
values that are not quoted are split. Fields that are patterns become the paths they match.
-/

namespace ESharp.Shell

/-- How the output of a script in the words of a command is found, from the number of its first
line. -/
abbrev Substitution := Nat → Text → StateM State Text

/-- The fields of a word that is being expanded: those that are complete, the last one first, and
the one that is being collected. -/
structure Fields where
  done : List Marked := []
  current : Option Marked := none

namespace Fields

def add (f : Fields) (m : Marked) : Fields := { f with current := some (f.current.getD [] ++ m) }

/-- The end of the current field. -/
def close (f : Fields) : Fields := { done := f.current.toList ++ f.done }

def toList (f : Fields) : List Marked := f.close.done.reverse

/-- A value that is split: each blank separator ends a field, and each other separator too, even an
empty one. -/
def addSplit (separators : Text) : Text → Fields → Fields
  | [], f => f
  | c :: t, f =>
    if separators.contains c then
      let isBlank := c == ' ' || c == '\t' || c == '\n'
      addSplit separators t (if isBlank then f.close else (f.add []).close)
    else addSplit separators t (f.add [(c, false)])

/-- The arguments, each in a field of its own. -/
def addArgs : List Text → Fields → Fields
  | [], f => f
  | [a], f => f.add (mark true a)
  | a :: as, f => addArgs as ((f.add (mark true a)).close)

end Fields

/-- A text without the line feeds at its end. -/
def dropLineEnds (t : Text) : Text := (t.reverse.dropWhile (· == '\n')).reverse

/-- A value into fields: split unless it is quoted or the word is to stay whole. -/
def addValue (split quoted : Bool) (t : Text) (f : Fields) : StateM State Fields := do
  let s ← get
  if quoted then return f.add (mark true t)
  else if split then return f.addSplit s.separators t
  else return f.add (mark false t)

/-- The value of an arithmetic expression; a fault ends the script. -/
def arithmetic (t : Text) : StateM State Text := do
  let s ← get
  let fail (reason : Text) : StateM State Text := do
    set (s.abort ("arithmetic expression: ".toList ++ reason ++ ": \"".toList ++ t ++ "\"".toList))
    return []
  match Arithmetic.parse? t with
  | none => fail "expecting primary".toList
  | some e =>
    let values := s.bindings.filterMap fun (name, v) => v.value.map fun t => (name, t)
    match Arithmetic.eval e values with
    | .error .divisionByZero => fail "division by zero".toList
    | .error (.badNumber u) =>
      set (s.abort ("Illegal number: ".toList ++ u))
      return []
    | .ok (n, after) =>
      let changed := after.take (after.length - values.length)
      set (changed.reverse.foldl (fun s (name, t) => s.assign name t) s)
      return Text.ofInt n

/-- The pieces of a word into fields, up to a fault that ends the script. Inside of a parameter,
plain text that is not quoted is split like a value. -/
def expandPieces (substitute : Substitution) (split inner : Bool) :
    Nat → Word → Fields → StateM State Fields
  | 0, _, f => return f
  | _, [], f => return f
  | fuel + 1, p :: w, f => do
    let before ← get
    if before.flow ≠ .running then return f
    let f ← match p with
      | .text quoted t =>
        if inner && !quoted then addValue split false t f else pure (f.add (mark quoted t))
      | .command quoted counted script => do
        let s ← get
        let t ← substitute (if counted then s.line else 1) script
        addValue split quoted (dropLineEnds t) f
      | .arithmetic quoted e => do
        let fields ← expandPieces substitute false false fuel e {}
        let t ← arithmetic (fields.toList.flatMap unmark)
        addValue split quoted t f
      | .parameter quoted name change word => do
        let s ← get
        let value := s.value? name
        let use (t : Text) : StateM State Fields :=
          if name = ['@'] && quoted && split then pure (f.addArgs s.args)
          else if name = ['@'] && split then
            pure (s.args.foldl (fun f a => (Fields.addSplit s.separators a f).close) f)
          else addValue split quoted t f
        let required (m : StateM State Fields) : StateM State Fields :=
          if value.isNone && s.refuseUnset && name ≠ ['@'] && name ≠ ['*'] then do
            set (s.abort (name ++ ": parameter not set".toList))
            pure f
          else m
        let lacks (orEmpty : Bool) : Bool := value.isNone || (orEmpty && value == some [])
        let text (w : Word) : StateM State Text := do
          let fields ← expandPieces substitute false false fuel w {}
          pure (fields.toList.flatMap unmark)
        match change with
        | .keep =>
          match value with
          | some t => use t
          | none => required (pure (if quoted && name ≠ ['@'] then f.add [] else f))
        | .length => required (addValue split quoted (Text.ofNat (value.getD []).length) f)
        | .substitute orEmpty =>
          if lacks orEmpty then expandPieces substitute split true fuel word f
          else use (value.getD [])
        | .alternative orEmpty =>
          if lacks orEmpty then
            pure (if quoted then f.add [] else f)
          else expandPieces substitute split true fuel word f
        | .assign orEmpty =>
          if lacks orEmpty then do
            let t ← text word
            modify fun s => s.assign name t
            addValue split quoted t f
          else use (value.getD [])
        | .require orEmpty =>
          if lacks orEmpty then do
            let t ← text word
            let reason := if t.isEmpty then "parameter not set".toList else t
            modify fun s => s.abort (name ++ ": ".toList ++ reason)
            pure f
          else use (value.getD [])
        | .dropStart longest => required do
          let fields ← expandPieces substitute false false fuel word {}
          let pattern := Pattern.ofMarked fields.toList.flatten
          addValue split quoted (Pattern.dropStart longest pattern (value.getD [])) f
        | .dropEnd longest => required do
          let fields ← expandPieces substitute false false fuel word {}
          let pattern := Pattern.ofMarked fields.toList.flatten
          addValue split quoted (Pattern.dropEnd longest pattern (value.getD [])) f
    expandPieces substitute split inner fuel w f

/-- How many pieces of pieces a word may have. -/
def maxPieces : Nat := 100000

/-- The fields of a word, with paths for patterns. -/
def expand (substitute : Substitution) (w : Word) : StateM State (List Text) := do
  let fields ← expandPieces substitute true false maxPieces w {}
  let s ← get
  if s.keepPatterns then return fields.toList.map unmark
  else return fields.toList.flatMap (Pattern.expandPaths s.directory)

/-- A word as a single field. -/
def expandMarked (substitute : Substitution) (w : Word) : StateM State Marked := do
  let fields ← expandPieces substitute false false maxPieces w {}
  return fields.toList.flatten

/-- A word as a single text. -/
def expandText (substitute : Substitution) (w : Word) : StateM State Text := do
  let m ← expandMarked substitute w
  return unmark m

end ESharp.Shell
