import ESharp.Program

/-!
# Listings

The nonblank lines of a script, each with its place and with what it says. Lines are counted from
one and blank lines count, so a number points back into the script.
-/

namespace ESharp

/-- A nonblank line of a script. -/
structure Entry where
  /-- The place of the line in the script. -/
  number : Nat
  /-- The line without the blanks at its ends. -/
  source : Text
  /-- What the line says. -/
  directive : Directive
  deriving DecidableEq, Repr

namespace Listing

/-- The nonblank lines with their numbers, the first line being line `n`. -/
def numberedFrom (n : Nat) : List Text → List (Nat × Text)
  | [] => []
  | l :: ls =>
    match Text.trim l with
    | [] => numberedFrom (n + 1) ls
    | c :: t => (n, c :: t) :: numberedFrom (n + 1) ls

def numbered (ls : List Text) : List (Nat × Text) := numberedFrom 1 ls

def entry (l : Nat × Text) : Entry := ⟨l.1, l.2, Directive.classify l.2⟩

def ofLines (ls : List Text) : List Entry := (numbered ls).map entry

def ofSource (source : Text) : List Entry := ofLines (Text.lines source)

def events (ls : List Text) : List Event := (numbered ls).flatMap fun l => Directive.events l.2

def program (layout : Layout) (entries : List Entry) : Program :=
  Program.ofDirectives layout (entries.map Entry.directive)

example : numbered ["a".toList, "\t".toList, " b".toList] = [(1, "a".toList), (3, "b".toList)] := by
  decide

end Listing
end ESharp
