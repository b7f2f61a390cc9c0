import ESharp.Event

/-!
# Value lists

The argument of a directive is a list of values such as `"a, b", f(x, y), z`. A delimiter
separates two values only outside string literals and outside every bracket. A quote right after
a backslash does not end a literal; only that one character is looked at. A split never fails:
an unbalanced text leaves the scan in whatever state it reached.
-/

namespace ESharp.Values

/-- What a scan knows of the text behind it. -/
structure Scan where
  /-- Whether an odd number of quotes has been met. -/
  inLiteral : Bool := false
  /-- Brackets opened minus brackets closed, outside literals. -/
  depth : Int := 0
  /-- The character just passed. -/
  last : Option Char := none
  deriving DecidableEq, Repr

/-- By how much a character changes the bracket depth. -/
def nesting (c : Char) : Int :=
  match c with
  | '(' | '[' | '{' => 1
  | ')' | ']' | '}' => -1
  | _ => 0

namespace Scan

/-- Whether `c` starts or ends a literal here. -/
def toggles (s : Scan) (c : Char) : Bool := c == '"' && s.last != some '\\'

/-- Whether the scan is outside every literal and every bracket. -/
def atTop (s : Scan) : Bool := !s.inLiteral && s.depth == 0

/-- Whether `c` separates two values here. -/
def separates (s : Scan) (d c : Char) : Bool :=
  c == d && !s.toggles c && nesting c == 0 && s.atTop

def next (s : Scan) (c : Char) : Scan :=
  if s.toggles c then { s with inLiteral := !s.inLiteral, last := some c }
  else if s.inLiteral then { s with last := some c }
  else { s with depth := s.depth + nesting c, last := some c }

def run (s : Scan) (t : Text) : Scan := t.foldl next s

@[simp] theorem run_nil (s : Scan) : s.run [] = s := rfl

@[simp] theorem run_cons (s : Scan) (c : Char) (t : Text) :
    s.run (c :: t) = (s.next c).run t := rfl

end Scan

/-- The texts between the first `limit` separators (between all of them without a limit), as the
first one and the others. -/
def cut (d : Char) : Option Nat → Scan → Text → Text × List Text
  | _, _, [] => ([], [])
  | some 0, _, t => (t, [])
  | limit, s, c :: t =>
    if s.separates d c then
      let rest := cut d (limit.map (· - 1)) (s.next c) t
      ([], rest.1 :: rest.2)
    else
      let rest := cut d limit (s.next c) t
      (c :: rest.1, rest.2)

/-- The number of separators of a text. -/
def separators (d : Char) : Scan → Text → Nat
  | _, [] => 0
  | s, c :: t => (if s.separates d c then 1 else 0) + separators d (s.next c) t

/-- How many separators a split into at most `max` values may use; zero stands for no limit. -/
def limitOf (max : Nat) : Option Nat := if max = 0 then none else some (max - 1)

/-- The values of a text before they are trimmed, at most `max` of them unless it is zero. -/
def pieces (d : Char) (max : Nat) (t : Text) : List Text :=
  let p := cut d (limitOf max) {} t
  p.1 :: p.2

/-- The values of a text, at most `max` of them unless it is zero: the last value then keeps the
separators that are left. -/
def split (d : Char) (max : Nat) (t : Text) : List Text := (pieces d max t).map Text.trim

/-- The values of a text with commas between them. -/
def commaSplit (t : Text) : List Text := split ',' 0 t

/-- The report on a split that read to the end of its text and did not end at the top. A split
that stops at one separator too many stops at the top. -/
def events (d : Char) (max : Nat) (t : Text) : List Event :=
  if max ≠ 0 ∧ max ≤ separators d {} t then []
  else
    let s := Scan.run {} t
    if s.atTop then [] else [.unclosedSplit t s.inLiteral s.depth]

theorem length_split_pos (d : Char) (max : Nat) (t : Text) : 0 < (split d max t).length := by
  simp [split, pieces]

example : commaSplit "a,\"b,c\",(d,e) ".toList = ["a".toList, "\"b,c\"".toList, "(d,e)".toList] := by
  decide

example : split ' ' 3 "i in f(x) y".toList = ["i".toList, "in".toList, "f(x) y".toList] := by decide

end ESharp.Values
