import ESharp.Text.Values

/-!
# Directives

Every line of a script is read on its own. A keyword counts only with one space after it, and
the keywords are tried in a fixed order, so `print import` prints. A `for` line that is no loop
header is an ordinary line of code.
-/

namespace ESharp

/-- What a line of a script says. -/
inductive Directive
  /-- The namespaces that the program uses. -/
  | imports (names : List Text)
  /-- A condition that has to hold, as code and as message. -/
  | assert (condition : Text)
  /-- Values to print on one line. -/
  | print (values : List Text)
  /-- The header of a loop over a collection. -/
  | forHeader (item collection : Text)
  /-- Code that passes through. -/
  | regular (code : Text)
  deriving DecidableEq, Repr

namespace Directive

/-- A directive without its payload. -/
inductive Kind
  | imports
  | assert
  | print
  | forHeader
  | regular
  deriving DecidableEq, Repr

def Kind.name : Kind → Text
  | imports => "import".toList
  | assert => "assert".toList
  | print => "print".toList
  | forHeader => "for-header".toList
  | regular => "regular".toList

/-- The kinds in the order in which they are shown. -/
def Kind.all : List Kind := [.imports, .assert, .print, .forHeader, .regular]

def kind : Directive → Kind
  | imports .. => .imports
  | assert .. => .assert
  | print .. => .print
  | forHeader .. => .forHeader
  | regular .. => .regular

/-- The rest of a line that starts with `keyword` and one space, trimmed. -/
def argument? (keyword line : Text) : Option Text :=
  match Text.after? keyword line with
  | some (' ' :: rest) => some (Text.trim rest)
  | _ => none

/-- The loop variable and the collection of a loop header's argument. Only the first two spaces
at the top separate, so the collection keeps its spaces. -/
def loopHeader? (argument : Text) : Option (Text × Text) :=
  match Values.split ' ' 3 argument with
  | [item, word, collection] => if word = "in".toList then some (item, collection) else none
  | _ => none

def classify (line : Text) : Directive :=
  match argument? "import".toList line with
  | some a => imports (Values.commaSplit a)
  | none =>
  match argument? "assert".toList line with
  | some a => assert a
  | none =>
  match argument? "print".toList line with
  | some a => print (Values.commaSplit a)
  | none =>
  match (argument? "for".toList line).bind loopHeader? with
  | some (item, collection) => forHeader item collection
  | none => regular line

def events (line : Text) : List Event :=
  match argument? "import".toList line with
  | some a => Values.events ',' 0 a
  | none =>
  match argument? "assert".toList line with
  | some _ => []
  | none =>
  match argument? "print".toList line with
  | some a => Values.events ',' 0 a
  | none =>
  match argument? "for".toList line with
  | some a => Values.events ' ' 3 a ++ (if (loopHeader? a).isSome then [] else [.notLoopHeader line])
  | none => []

/-- The line that says what a directive says. -/
def unparse : Directive → Text
  | imports names => "import ".toList ++ Text.join ", ".toList names
  | assert condition => "assert ".toList ++ condition
  | print values => "print ".toList ++ Text.join ", ".toList values
  | forHeader item collection => "for ".toList ++ item ++ " in ".toList ++ collection
  | regular code => code

example : classify "print import".toList = print ["import".toList] := by decide

example : classify "for i in xs".toList = forHeader "i".toList "xs".toList := by decide

example : classify "for i of xs".toList = regular "for i of xs".toList := by decide

end Directive
end ESharp
