import ESharp.Text.Basic

/-!
# Words of a shell

A word is a list of pieces: plain text, the values of parameters, the output of commands and the
results of arithmetic. A piece remembers whether it stands between quotes, because what is quoted
is neither split at blanks nor taken for a pattern.
-/

namespace ESharp.Shell

/-- What becomes of the value of a parameter. The flag of a substitute says that an empty value
counts as none. -/
inductive Change
  | keep
  | length
  /-- Another word in place of a missing value. -/
  | substitute (orEmpty : Bool)
  /-- Another word in place of a missing value, and the parameter gets it. -/
  | assign (orEmpty : Bool)
  /-- A word in place of any value. -/
  | alternative (orEmpty : Bool)
  /-- An error if there is no value. -/
  | require (orEmpty : Bool)
  /-- The value without what a pattern matches at its start. -/
  | dropStart (longest : Bool)
  /-- The value without what a pattern matches at its end. -/
  | dropEnd (longest : Bool)
  deriving DecidableEq, Repr

inductive Piece
  | text (quoted : Bool) (t : Text)
  | parameter (quoted : Bool) (name : Text) (change : Change) (word : List Piece)
  | command (quoted counted : Bool) (script : Text)
  | arithmetic (quoted : Bool) (expression : List Piece)
  deriving Inhabited

/-- A word before it is expanded. -/
abbrev Word := List Piece

namespace Word

/-- A text in front of the pieces of a word. -/
def addText (quoted : Bool) (t : Text) : Word → Word
  | .text q u :: w => if q = quoted then .text q (t ++ u) :: w else .text quoted t :: .text q u :: w
  | w => .text quoted t :: w

/-- The text of a word that has no other pieces and no quotes. -/
def literal? : Word → Option Text
  | [.text false t] => some t
  | _ => none

end Word

section Names

def isNameStart (c : Char) : Bool := c.isAlpha || c == '_'

def isNameChar (c : Char) : Bool := c.isAlphanum || c == '_'

def isName : Text → Bool
  | [] => false
  | c :: t => isNameStart c && t.all isNameChar

/-- Whether a character is the name of a special parameter. -/
def isSpecial (c : Char) : Bool := "@*#?-$!".toList.contains c || c.isDigit

/-- The name of a parameter at the start of a text, and the rest. -/
def parameterName? : Text → Option (Text × Text)
  | [] => none
  | c :: t =>
    if isNameStart c then some (c :: t.takeWhile isNameChar, t.dropWhile isNameChar)
    else if isSpecial c then some ([c], t)
    else none

/-- The name of a parameter between braces, where a number may have several digits. -/
def bracedName? : Text → Option (Text × Text)
  | [] => none
  | c :: t =>
    if c.isDigit then some (c :: t.takeWhile Char.isDigit, t.dropWhile Char.isDigit)
    else parameterName? (c :: t)

/-- What stands between the name of a parameter and the word after it. -/
def changeOf : Text → Change × Text
  | ':' :: '-' :: t => (.substitute true, t)
  | '-' :: t => (.substitute false, t)
  | ':' :: '=' :: t => (.assign true, t)
  | '=' :: t => (.assign false, t)
  | ':' :: '+' :: t => (.alternative true, t)
  | '+' :: t => (.alternative false, t)
  | ':' :: '?' :: t => (.require true, t)
  | '?' :: t => (.require false, t)
  | '#' :: '#' :: t => (.dropStart true, t)
  | '#' :: t => (.dropStart false, t)
  | '%' :: '%' :: t => (.dropEnd true, t)
  | '%' :: t => (.dropEnd false, t)
  | t => (.keep, t)

end Names

section Lexer

/-- The mark before and after the commands of an old substitution. -/
def backquote : Char := Char.ofNat 96

/-- The text up to a closing quote, and the rest after it. -/
def upTo? (close : Char) : Text → Option (Text × Text)
  | [] => none
  | c :: t =>
    if c = close then some ([], t) else (upTo? close t).map fun (u, rest) => (c :: u, rest)

/-- The text up to a closing quote that no backslash precedes, with the backslashes. -/
def upToUnescaped? (close : Char) : Text → Option (Text × Text)
  | [] => none
  | '\\' :: c :: t => (upToUnescaped? close t).map fun (u, rest) => ('\\' :: c :: u, rest)
  | c :: t =>
    if c = close then some ([], t)
    else (upToUnescaped? close t).map fun (u, rest) => (c :: u, rest)

def endsWord (c : Char) : Bool := " \t\n;&|<>()".toList.contains c

/-- The words after which a command starts. -/
def leadingWords : List Text :=
  ["if", "then", "else", "elif", "while", "until", "do", "!", "\x7b"].map String.toList

/-- The text up to the bracket that closes all brackets, and the rest after it. For each bracket
there is the number of choices that are open in it, whose patterns end with a bracket too; `first`
says that a command may start here. Brackets between quotes do not count. -/
def upToClose? : Nat → List Nat → Bool → Text → Option (Text × Text)
  | 0, _, _, _ | _, _, _, [] => none
  | fuel + 1, depths, first, c :: t =>
    let onward (u : Text) (depths : List Nat) (first : Bool) (t : Text) : Option (Text × Text) :=
      (upToClose? fuel depths first t).map fun (v, rest) => (u ++ v, rest)
    match c, t with
    | '\\', d :: t => onward [c, d] depths false t
    | '\'', t => do
      let (u, t) ← upTo? '\'' t
      onward (c :: u ++ [c]) depths false t
    | '"', t => do
      let (u, t) ← upToUnescaped? '"' t
      onward (c :: u ++ [c]) depths false t
    | '(', t => onward [c] (0 :: depths) true t
    | ')', t =>
      match depths with
      | 0 :: (outer :: more) => onward [c] (outer :: more) true t
      | (n + 1) :: more => onward [c] ((n + 1) :: more) true t
      | _ => some ([], t)
    | c, t =>
      if endsWord c then onward [c] depths (first || (c != ' ' && c != '\t')) t
      else
        let w := (c :: t).takeWhile fun d => !endsWord d && !"'\"\\$".toList.contains d
        let rest := (c :: t).drop w.length
        match first, depths with
        | true, n :: more =>
          if w = "case".toList then onward w ((n + 1) :: more) false rest
          else if w = "esac".toList then onward w ((n - 1) :: more) false rest
          else if leadingWords.contains w then onward w depths true rest
          else onward [c] depths false t
        | _, _ => onward [c] depths false t

/-- The commands of an old substitution: a backslash hides only a dollar sign, a backslash and the
closing mark, and between quotes also a quote. -/
def unescapeBackquoted (quoted : Bool) : Text → Text
  | '\\' :: c :: t =>
    if c = '$' ∨ c = '\\' ∨ c = backquote ∨ (quoted ∧ c = '"') then
      c :: unescapeBackquoted quoted t
    else '\\' :: c :: unescapeBackquoted quoted t
  | c :: t => c :: unescapeBackquoted quoted t
  | [] => []

/-- Where the pieces of a word are read. -/
inductive Scope
  /-- Up to a blank or an operator. -/
  | word
  /-- Up to a closing double quote. -/
  | quotes
  /-- Up to a closing brace. -/
  | braces (quoted : Bool)
  /-- Up to the end of the text, as if between double quotes. -/
  | document
  deriving DecidableEq, Repr

def Scope.quoted : Scope → Bool
  | word => false
  | quotes => true
  | braces q => q
  | document => true

/-- Whether a scope ends before or with a character. -/
def Scope.endsAt (s : Scope) (c : Char) : Bool :=
  match s with
  | word => endsWord c
  | quotes => c == '"'
  | braces _ => c == '}'
  | document => false

/-- Whether a scope may end with its text. -/
def Scope.isOpen (s : Scope) : Bool := s = .word || s = .document

mutual

/-- The pieces of a scope, and the rest of the text after it. There are none if a quote or a brace
is not closed. -/
def pieces? : Nat → Scope → Text → Option (Word × Text)
  | 0, _, _ => none
  | _, s, [] => if s.isOpen then some ([], []) else none
  | fuel + 1, s, c :: t =>
    if s.endsAt c then some ([], if s = .word then c :: t else t)
    else if c = '\\' then
      match t with
      | [] => some ([.text s.quoted ['\\']], [])
      | '\n' :: t => pieces? fuel s t
      | d :: t =>
        let hidden := !s.quoted || "$\"\\\x7d".toList.contains d || d = backquote
        let u := if hidden then [d] else ['\\', d]
        (pieces? fuel s t).map fun (w, rest) => (Word.addText true u w, rest)
    else if c = '\'' && !s.quoted then do
      let (u, t) ← upTo? '\'' t
      let (w, rest) ← pieces? fuel s t
      some (Word.addText true u w, rest)
    else if c = '"' && s ≠ .document then do
      let (inner, t) ← pieces? fuel .quotes t
      let (w, rest) ← pieces? fuel s t
      some ((if inner.isEmpty then [.text true []] else inner) ++ w, rest)
    else if c = backquote then do
      let (u, t) ← upToUnescaped? backquote t
      let (w, rest) ← pieces? fuel s t
      some (.command s.quoted false (unescapeBackquoted s.quoted u) :: w, rest)
    else if c = '$' then
      match t with
      | '(' :: '(' :: t => do
        let (u, t) ← upToClose? (t.length + 1) [0, 0] false t
        let (inner, _) ← pieces? fuel .document u.dropLast
        let (w, rest) ← pieces? fuel s t
        some (.arithmetic s.quoted inner :: w, rest)
      | '(' :: t => do
        let (u, t) ← upToClose? (t.length + 1) [0] true t
        let (w, rest) ← pieces? fuel s t
        some (.command s.quoted true u :: w, rest)
      | '{' :: t => do
        let (p, t) ← braced? fuel s.quoted t
        let (w, rest) ← pieces? fuel s t
        some (p :: w, rest)
      | _ =>
        match parameterName? t with
        | some (name, t) =>
          (pieces? fuel s t).map fun (w, rest) => (.parameter s.quoted name .keep [] :: w, rest)
        | none => (pieces? fuel s t).map fun (w, rest) => (Word.addText s.quoted ['$'] w, rest)
    else (pieces? fuel s t).map fun (w, rest) => (Word.addText s.quoted [c] w, rest)

/-- A parameter after an opening brace, and the rest after the closing one. Quotes around it do not
count for a pattern in it. -/
def braced? : Nat → Bool → Text → Option (Piece × Text)
  | 0, _, _ => none
  | fuel + 1, quoted, t =>
    let lengthOf : Option (Piece × Text) := match t with
      | '#' :: u => do
        let (name, u) ← bracedName? u
        match u with
        | '}' :: rest => some (.parameter quoted name .length [], rest)
        | _ => none
      | _ => none
    match lengthOf with
    | some r => some r
    | none => do
      let (name, t) ← bracedName? t
      let (change, t) := changeOf t
      let isPattern := match change with
        | .dropStart _ | .dropEnd _ => true
        | _ => false
      let (w, rest) ← pieces? fuel (.braces (quoted && !isPattern)) t
      if change = .keep && !w.isEmpty then none
      else some (.parameter quoted name change w, rest)

end

/-- The word at the start of a text, and the rest. -/
def word? (t : Text) : Option (Word × Text) := pieces? (2 * t.length + 2) .word t

/-- A text whose parameters are expanded as if it stood between double quotes. -/
def document? (t : Text) : Option Word := (pieces? (2 * t.length + 2) .document t).map Prod.fst

end Lexer

end ESharp.Shell
