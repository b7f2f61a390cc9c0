import ESharp.Listing

/-!
# What the viewer shows

A script beside the program written for it, with the kind of each line of the script.
-/

namespace ESharp.Viewer

/-- A script and its program. -/
structure Model where
  sourceLines : List Text
  generatedLines : List Text
  entries : List Entry
  /-- The kind of each line of the script, where it has one. -/
  kinds : Array (Option Directive.Kind)
  deriving DecidableEq, Repr

namespace Model

/-- The kinds with that of an entry put at the place of its line, if there is such a place. -/
def placeKind (kinds : Array (Option Directive.Kind)) (e : Entry) : Array (Option Directive.Kind) :=
  kinds.setIfInBounds (e.number - 1) (some e.directive.kind)

/-- The kinds of `count` lines of which some have an entry. -/
def kindsOf (count : Nat) (entries : List Entry) : Array (Option Directive.Kind) :=
  entries.foldl placeKind (Array.replicate count none)

def ofSource (layout : Layout) (source : Text) : Model :=
  let ls := Text.lines source
  let entries := Listing.ofLines ls
  { sourceLines := ls
    generatedLines := Text.lines (Program.translate layout ls)
    entries := entries
    kinds := kindsOf ls.length entries }

/-- What making the model of a script reports: its lines are read once for the program and once for
their kinds. -/
def events (source : Text) : List Event :=
  let es := Listing.events (Text.lines source)
  es ++ es

/-- The kind of a line of the script, counted from one. A blank line has none. -/
def kindAt? (m : Model) : Nat → Option Directive.Kind
  | 0 => none
  | n + 1 => m.kinds[n]?.join

def count (m : Model) (k : Directive.Kind) : Nat := m.entries.countP (·.directive.kind = k)

def summary (m : Model) : List (Directive.Kind × Nat) :=
  Directive.Kind.all.map fun k => (k, m.count k)

example : (ofSource {} "import A\n\nprint 1".toList).kindAt? 3 = some .print := by decide

end Model
end ESharp.Viewer
