import ESharp.Statement

/-!
# Programs

A program is what a script adds up to: the namespaces it uses, the statements of its entry point
in source order, and whether some statement needs the assertion helper. Written out, it is one
class; all statements stand at one depth, and braces of the script are written where they are.
-/

namespace ESharp

/-- The names and the indentation of the class that is written. -/
structure Layout where
  className : Text := "Program".toList
  entryPoint : Text := "Main".toList
  assertHelper : Text := "EasySharpAssert".toList
  indent : Text := "    ".toList
  deriving DecidableEq, Repr

/-- What has been collected from a script. -/
structure Program where
  imports : List Text := []
  body : List Text := []
  assertNeeded : Bool := false
  deriving DecidableEq, Repr

namespace Program

def add (layout : Layout) (p : Program) (d : Directive) : Program where
  imports := match d with
    | .imports names => p.imports ++ names
    | _ => p.imports
  body := p.body ++ (Statement.ofDirective? layout.assertHelper d).toList
  assertNeeded := p.assertNeeded || d.kind == .assert

def addAll (layout : Layout) (p : Program) (ds : List Directive) : Program :=
  ds.foldl (add layout) p

def ofDirectives (layout : Layout) (ds : List Directive) : Program := addAll layout {} ds

/-- The program with one more line of a script; a blank line adds nothing. -/
def addLine (layout : Layout) (p : Program) (line : Text) : Program :=
  match Text.trim line with
  | [] => p
  | c :: t => p.add layout (Directive.classify (c :: t))

def ofLines (layout : Layout) (ls : List Text) : Program := ls.foldl (addLine layout) {}

/-- A line of code at a depth. -/
def indented (layout : Layout) : Nat → Text → Text
  | 0, code => code
  | depth + 1, code => layout.indent ++ indented layout depth code

def usingLine (name : Text) : Text := "using ".toList ++ name ++ [';']

/-- The lines that use namespaces, with an empty line after them. -/
def usingLines : List Text → List Text
  | [] => []
  | names => names.map usingLine ++ [[]]

def classLine (layout : Layout) : Text := "public class ".toList ++ layout.className

def entryLine (layout : Layout) : Text :=
  "private static void ".toList ++ layout.entryPoint ++ "(string[] args)".toList

def helperLine (layout : Layout) : Text :=
  "private static void ".toList ++ layout.assertHelper ++
    "(bool condition, string expression)".toList

/-- What the assertion helper prints when a condition fails. -/
def failureLine : Text :=
  ("System.Console.WriteLine(\"Assertion failed: \" + expression + System.Environment.NewLine + " ++
    "\"Press enter to exit...\");").toList

/-- The assertion helper, with an empty line before it. -/
def helperLines (layout : Layout) : List Text :=
  [[],
   indented layout 1 (helperLine layout),
   indented layout 1 ['{'],
   indented layout 2 "if (!condition)".toList,
   indented layout 2 ['{'],
   indented layout 3 failureLine,
   indented layout 3 "System.Console.ReadLine();".toList,
   indented layout 3 "System.Environment.Exit(-1);".toList,
   indented layout 2 ['}'],
   indented layout 1 ['}']]

def lines (layout : Layout) (p : Program) : List Text :=
  usingLines p.imports ++
    [classLine layout, ['{'], indented layout 1 (entryLine layout), indented layout 1 ['{']] ++
    p.body.map (indented layout 2) ++
    [indented layout 1 ['}']] ++
    (if p.assertNeeded then helperLines layout else []) ++
    [['}']]

/-- The written program: every line ends with a line feed. -/
def render (layout : Layout) (p : Program) : Text := Text.unlines (lines layout p)

def translate (layout : Layout) (ls : List Text) : Text := (ofLines layout ls).render layout

@[simp] theorem add_imports (layout : Layout) (p : Program) (names : List Text) :
    p.add layout (.imports names) = { p with imports := p.imports ++ names } := by
  simp [add, Statement.ofDirective?, Directive.kind]

@[simp] theorem addAll_nil (layout : Layout) (p : Program) : p.addAll layout [] = p := rfl

@[simp] theorem addAll_cons (layout : Layout) (p : Program) (d : Directive) (ds : List Directive) :
    p.addAll layout (d :: ds) = (p.add layout d).addAll layout ds := rfl

theorem addAll_append (layout : Layout) (p : Program) (ds es : List Directive) :
    p.addAll layout (ds ++ es) = (p.addAll layout ds).addAll layout es := by
  simp [addAll]

example : (ofLines {} ["import A".toList, " ".toList, "print 1".toList]).imports = ["A".toList] := by
  decide

end Program
end ESharp
