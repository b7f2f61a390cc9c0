import ESharp.Files.Directory

/-!
# Patterns

A pattern matches a text character by character; a star matches any characters, a question mark
one, and brackets one out of a set. Quoted characters match only themselves.
-/

namespace ESharp.Shell

/-- Characters, each with a flag that says whether it is quoted. -/
abbrev Marked := List (Char × Bool)

/-- A text whose characters are all quoted, or all not. -/
def mark (quoted : Bool) (t : Text) : Marked := t.map fun c => (c, quoted)

def unmark (m : Marked) : Text := m.map Prod.fst

@[simp] theorem unmark_mark (quoted : Bool) (t : Text) : unmark (mark quoted t) = t := by
  simp [unmark, mark, Function.comp_def]

/-- One step of a pattern. -/
inductive Atom
  | char (c : Char)
  /-- Any character. -/
  | any
  /-- Any characters. -/
  | many
  /-- A character in one of some ranges, or in none of them. -/
  | range (negated : Bool) (ranges : List (Char × Char))
  deriving DecidableEq, Repr

namespace Pattern

/-- The ranges up to a closing bracket, and the rest after it. A bracket at the start is a member of
the set. -/
def ranges? : Nat → Bool → Marked → Option (List (Char × Char) × Marked)
  | 0, _, _ | _, _, [] => none
  | fuel + 1, atStart, (c, quoted) :: m =>
    if c = ']' ∧ !quoted ∧ !atStart then some ([], m)
    else
      match m with
      | ('-', false) :: (d, q) :: rest =>
        if d = ']' ∧ !q then
          (ranges? fuel false m).map fun (rs, rest) => ((c, c) :: rs, rest)
        else (ranges? fuel false rest).map fun (rs, rest) => ((c, d) :: rs, rest)
      | _ => (ranges? fuel false m).map fun (rs, rest) => ((c, c) :: rs, rest)

/-- A set of characters after its opening bracket, and the rest. -/
def set? (m : Marked) : Option (Atom × Marked) :=
  let (negated, m) := match m with
    | ('!', false) :: m => (true, m)
    | m => (false, m)
  (ranges? (m.length + 1) true m).map fun (rs, rest) => (.range negated rs, rest)

def atoms : Nat → Marked → List Atom
  | 0, _ | _, [] => []
  | fuel + 1, (c, quoted) :: m =>
    if quoted then .char c :: atoms fuel m
    else
      match c with
      | '*' => .many :: atoms fuel m
      | '?' => .any :: atoms fuel m
      | '[' =>
        match set? m with
        | some (a, rest) => a :: atoms fuel rest
        | none => .char c :: atoms fuel m
      | c => .char c :: atoms fuel m

def ofMarked (m : Marked) : List Atom := atoms (m.length + 1) m

/-- The ends of a text, the longest first. -/
def suffixes : Text → List Text
  | [] => [[]]
  | c :: t => (c :: t) :: suffixes t

/-- Whether a pattern matches a whole text. -/
def accepts : List Atom → Text → Bool
  | [], t => t.isEmpty
  | .many :: p, t => (suffixes t).any fun u => accepts p u
  | .char c :: p, d :: t => c == d && accepts p t
  | .any :: p, _ :: t => accepts p t
  | .range negated rs :: p, d :: t =>
    rs.any (fun r => r.1 ≤ d && d ≤ r.2) != negated && accepts p t
  | _ :: _, [] => false

/-- A text without its longest or shortest end that a pattern matches. -/
def dropEnd (longest : Bool) (p : List Atom) (t : Text) : Text :=
  let ends := suffixes t
  match (if longest then ends else ends.reverse).find? (accepts p) with
  | some e => t.take (t.length - e.length)
  | none => t

/-- A text without its longest or shortest start that a pattern matches. -/
def dropStart (longest : Bool) (p : List Atom) (t : Text) : Text :=
  let rests := suffixes t
  let matched (rest : Text) : Bool := accepts p (t.take (t.length - rest.length))
  match (if longest then rests.reverse else rests).find? matched with
  | some rest => rest
  | none => t

/-- Whether marked characters make a pattern that can match more than one text. -/
def isOpen (m : Marked) : Bool :=
  m.any fun c => !c.2 && (c.1 == '*' || c.1 == '?' || c.1 == '[')

/-- The names in a directory that a pattern matches. A dot at the start of a name is matched only by
a dot. -/
def names (d : Directory) (place : Place) (p : List Atom) : List Text :=
  let all := d.entries.filterMap fun (q, _) =>
    if q.dropLast = place then q.getLast? else none
  let fitting := all.filter fun name =>
    accepts p name && (name.head? != some '.' || p.head? == some (.char '.'))
  fitting.mergeSort fun a b => !decide (b < a)

/-- The paths that the parts of a path lead to, if each part is a pattern. -/
def paths (d : Directory) : (done : Text) → (place : Place) → List Marked → List Text
  | _, _, [] => []
  | done, place, [m] =>
    if isOpen m then (names d place (ofMarked m)).map (done ++ ·)
    else if (d.get? (place ++ [unmark m])).isSome then [done ++ unmark m]
    else []
  | done, place, m :: ms =>
    let here := if isOpen m then names d place (ofMarked m) else [unmark m]
    here.flatMap fun name => paths d (done ++ name ++ ['/']) (place ++ [name]) ms

/-- Marked characters between slashes. -/
def cutMarked : Marked → Marked × List Marked
  | [] => ([], [])
  | (c, q) :: m =>
    let (first, rest) := cutMarked m
    if c = '/' then ([], first :: rest) else ((c, q) :: first, rest)

/-- The paths of files that marked characters match; the characters themselves if there are none. -/
def expandPaths (d : Directory) (m : Marked) : List Text :=
  if isOpen m then
    let (first, rest) := cutMarked m
    match paths d [] d.here (first :: rest) with
    | [] => [unmark m]
    | found => found
  else [unmark m]

example : accepts (ofMarked (mark false "a*[x-z]".toList)) "abcy".toList := by decide

example : ¬ accepts (ofMarked (mark true "a*".toList)) "abc".toList := by decide

example : dropEnd false (ofMarked (mark false ".*".toList)) "a.b.c".toList = "a.b".toList := by
  decide

end Pattern
end ESharp.Shell
