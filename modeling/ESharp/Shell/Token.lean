import ESharp.Number.Decimal
import ESharp.Shell.Word

/-!
# Tokens of a script

A script is cut into words, operators, redirections and line ends. The lines of a document that is
written into the script belong to its redirection.
-/

namespace ESharp.Shell

/-- What a redirection does with a channel. -/
inductive Redirect
  | input
  | output
  | append
  | duplicate
  | document
  deriving DecidableEq, Repr

/-- A channel that goes somewhere else for one command. -/
structure Redirection where
  channel : Nat
  kind : Redirect
  target : Word

inductive Token
  | word (w : Word)
  | operator (t : Text)
  | redirection (r : Redirection)
  | newline
  /-- A quote or a brace that is not closed, or a redirection to nowhere. -/
  | invalid
  deriving Inhabited

namespace Token

/-- The operators, a longer one before its start. -/
def operators : List Text := ["&&", "||", ";;", ";", "&", "|", "(", ")"].map String.toList

/-- The operator at the start of a text, and the rest. -/
def operator? (t : Text) : Option (Text × Text) :=
  (operators.find? (·.isPrefixOf t)).map fun op => (op, t.drop op.length)

/-- The start of a redirection: what it does, the channel it has unless one is written, whether
tabs are dropped from its document, and the rest. -/
def redirect? : Text → Option (Redirect × Nat × Bool × Text)
  | '<' :: '<' :: '-' :: t => some (.document, 0, true, t)
  | '<' :: '<' :: t => some (.document, 0, false, t)
  | '<' :: '&' :: t => some (.duplicate, 0, false, t)
  | '<' :: '>' :: t => some (.input, 0, false, t)
  | '<' :: t => some (.input, 0, false, t)
  | '>' :: '>' :: t => some (.append, 1, false, t)
  | '>' :: '&' :: t => some (.duplicate, 1, false, t)
  | '>' :: '|' :: t => some (.output, 1, false, t)
  | '>' :: t => some (.output, 1, false, t)
  | _ => none

/-- The channel that is written before a redirection, and the redirection. -/
def channel (t : Text) : Option Nat × Text :=
  let ds := t.takeWhile Char.isDigit
  let rest := t.dropWhile Char.isDigit
  match ds, rest with
  | _ :: _, '<' :: _ | _ :: _, '>' :: _ => (Decimal.natOf? 10 ds, rest)
  | _, _ => (none, t)

/-- The text of a word whose quotes only say that nothing in a document is expanded, and whether
there are quotes. -/
def delimiter : Word → Text × Bool
  | [] => ([], false)
  | .text q t :: w =>
    let (u, quoted) := delimiter w
    (t ++ u, q || quoted)
  | _ :: w => delimiter w

/-- The lines of a document up to its delimiter, and the lines after it. -/
def documentLines (stripTabs : Bool) (close : Text) : List Text → List Text × List Text
  | [] => ([], [])
  | l :: ls =>
    let l := if stripTabs then l.dropWhile (· == '\t') else l
    if l = close then ([], ls)
    else
      let (body, rest) := documentLines stripTabs close ls
      (l :: body, rest)

/-- The document after the line in which it is asked for, and the text without the document. -/
def document (stripTabs : Bool) (close : Word) (t : Text) : Word × Text :=
  let (close, quoted) := delimiter close
  let line := t.takeWhile (· != '\n')
  let (body, rest) := documentLines stripTabs close (Text.lines (t.drop (line.length + 1)))
  let text := Text.unlines body
  let w : Word := if quoted then [.text true text] else (document? text).getD [.text true text]
  (w, line ++ '\n' :: Text.unlines rest)

/-- The redirection at the start of a text, and the rest. -/
def redirection? (t : Text) : Option (Token × Text) := do
  let (written, u) := channel t
  let (kind, usual, stripTabs, u) ← redirect? u
  match word? (Text.trimStart u) with
  | some ([], rest) => some (.invalid, rest)
  | some (w, rest) =>
    let (w, rest) := if kind = .document then document stripTabs w rest else (w, rest)
    some (.redirection ⟨written.getD usual, kind, w⟩, rest)
  | none => some (.invalid, [])

/-- The tokens of a script, each with its line, from a line on. -/
def scan : Nat → Nat → Text → List (Nat × Token)
  | 0, _, _ | _, _, [] => []
  | fuel + 1, line, c :: t =>
    if c = '\n' then (line, .newline) :: scan fuel (line + 1) t
    else if Text.isBlank c then scan fuel line t
    else if c = '\\' ∧ t.head? = some '\n' then scan fuel (line + 1) t.tail
    else if c = '#' then scan fuel line (t.dropWhile (· != '\n'))
    else
      match redirection? (c :: t) with
      | some (token, rest) => (line, token) :: scan fuel line rest
      | none =>
        match operator? (c :: t) with
        | some (op, rest) => (line, .operator op) :: scan fuel line rest
        | none =>
          match word? (c :: t) with
          | some (w, rest) =>
            let read := (c :: t).take (t.length + 1 - rest.length)
            (line, .word w) :: scan fuel (line + read.count '\n') rest
          | none => [(line, .invalid)]

/-- The tokens of a script, each with its line, from a line on. -/
def ofScript (line : Nat) (script : Text) : List (Nat × Token) :=
  scan (script.length + 1) line script

end Token
end ESharp.Shell
