import ESharp.Directive

/-!
# Statements

The C# statement that a directive becomes. A regular line gets a semicolon unless it has one or
starts a block; the test looks at the line alone, and no bracket is balanced.
-/

namespace ESharp.Statement

/-- The words that start a block when a space or a parenthesis follows. -/
def blockWords : List Text := ["if".toList, "else".toList, "while".toList, "foreach".toList]

/-- Whether a line starts with `word` and then a space or a parenthesis. -/
def startsWithWord (line word : Text) : Bool :=
  match Text.after? word line with
  | some (c :: _) => c == ' ' || c == '('
  | _ => false

/-- Whether a line starts with `for` and, spaces aside, a parenthesis. A `for` with anything else
is a loop header that failed to be one, and no block. -/
def startsWithFor (line : Text) : Bool :=
  match Text.after? "for".toList line with
  | some rest => (rest.dropWhile (· == ' ')).head? == some '('
  | none => false

def opensBlock (line : Text) : Bool := blockWords.any (startsWithWord line) || startsWithFor line

/-- Whether a line stands as it is. -/
def isFinal (line : Text) : Bool := line.getLast? == some ';' || opensBlock line

/-- A regular line as a statement. -/
def terminate (line : Text) : Text := if isFinal line then line else line ++ [';']

def escapeChar (c : Char) : Text :=
  if c = '\\' then ['\\', '\\'] else if c = '"' then ['\\', '"'] else [c]

def escape (t : Text) : Text := t.flatMap escapeChar

/-- A text as a string literal. -/
def quote (t : Text) : Text := '"' :: escape t ++ ['"']

def parenthesize (v : Text) : Text := '(' :: v ++ [')']

/-- What is printed: one value as it is, several as a sum with spaces between, each of them in
parentheses so that the sum never adds numbers. -/
def printed : List Text → Text
  | [v] => v
  | vs => Text.join " + \" \" + ".toList (vs.map parenthesize)

/-- The statement that prints values on one line. -/
def print (vs : List Text) : Text := "System.Console.WriteLine(".toList ++ printed vs ++ ");".toList

/-- The call of `helper` on a condition and its text. -/
def assert (helper condition : Text) : Text :=
  helper ++ '(' :: condition ++ ", ".toList ++ quote condition ++ ");".toList

def forHeader (item collection : Text) : Text :=
  "foreach (var ".toList ++ item ++ " in ".toList ++ collection ++ [')']

def ofDirective? (helper : Text) : Directive → Option Text
  | .imports _ => none
  | .assert condition => some (assert helper condition)
  | .print values => some (print values)
  | .forHeader item collection => some (forHeader item collection)
  | .regular code => some (terminate code)

@[simp] theorem escape_nil : escape [] = [] := rfl

@[simp] theorem escape_cons (c : Char) (t : Text) : escape (c :: t) = escapeChar c ++ escape t := by
  simp [escape]

theorem escape_append (t u : Text) : escape (t ++ u) = escape t ++ escape u := by
  simp [escape]

example : terminate "for (;;)".toList = "for (;;)".toList := by decide

example : terminate "for x of y".toList = "for x of y;".toList := by decide

example : print ["1".toList, "2".toList] =
    "System.Console.WriteLine((1) + \" \" + (2));".toList := by decide

end ESharp.Statement
