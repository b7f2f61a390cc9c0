import ESharp.Listing
import ESharp.Number.Binary64

/-!
# Listings as YAML

A listing is a block sequence of mappings with two spaces a level. A text is written plain when it
cannot be taken for anything else, otherwise between single quotes; a text of several lines is a
literal block. What these forms cannot hold is written between double quotes with escapes.
-/

namespace ESharp.Yaml

/-- The characters that end a line. -/
def isBreak (c : Char) : Bool :=
  c == '\n' || c == '\r' || c.toNat == 0x85 || c.toNat == 0x2028 || c.toNat == 0x2029

/-- A character that separates words, or the end of the text. -/
def isBlankOrEnd : Option Char → Bool
  | none => true
  | some c => c == ' ' || c == '\t' || isBreak c

/-- The characters that can be written as they are. -/
def isPrintable (c : Char) : Bool :=
  let n := c.toNat
  n == 0x0A || (0x20 ≤ n && n ≤ 0x7E) ||
    (0xA0 ≤ n && n != 0xFEFF && n != 0xFFFE && n != 0xFFFF)

inductive Style
  | plain
  | singleQuoted
  | doubleQuoted
  | literal
  deriving DecidableEq, Repr

section Meaning

/-- Digits with a zero in front, which are no number. -/
def isPaddedNumber (t : Text) : Bool :=
  let u := match t with
    | '-' :: u => u
    | '+' :: u => u
    | u => u
  match u with
  | '0' :: d :: ds => (d :: ds).all Decimal.isDigit
  | _ => false

/-- A number in a base, within 128 bits: unsigned without a minus sign, signed with one. -/
def isIntegerIn (base : Nat) (negative : Bool) (t : Text) : Bool :=
  match Decimal.natOf? base t with
  | some n => if negative then n ≤ Nat.pow 2 127 else n < Nat.pow 2 128
  | none => false

def isInteger (t : Text) : Bool :=
  let (negative, u) := Decimal.takeSign t
  match u with
  | '0' :: 'x' :: ds => isIntegerIn 16 negative ds
  | '0' :: 'o' :: ds => isIntegerIn 8 negative ds
  | '0' :: 'b' :: ds => isIntegerIn 2 negative ds
  | _ => !isPaddedNumber t && isIntegerIn 10 negative u

def isFloat (t : Text) : Bool :=
  let (_, u) := Decimal.takeSign t
  [".inf".toList, ".Inf".toList, ".INF".toList].contains u ||
    [".nan".toList, ".NaN".toList, ".NAN".toList].contains t ||
    (!isPaddedNumber t &&
      match Decimal.ofText? t with
      | some d => (Binary64.ofDecimal d).isFinite
      | none => false)

/-- Whether a text without quotes would read as something else than a text. -/
def isAmbiguous (t : Text) : Bool :=
  ["", "~", "null", "Null", "NULL", "true", "True", "TRUE", "false", "False", "FALSE"].any
      (·.toList == t) ||
    isInteger t || isFloat t || isPaddedNumber t

end Meaning

section Shape

/-- The characters that cannot start a plain text. -/
def indicators : Text := "#,[]\x7b\x7d&*!|>'\"%@".toList ++ [Char.ofNat 96]

/-- Whether the start of a text has a meaning of its own. -/
def startsAsIndicator : Text → Bool
  | [] => false
  | c :: t =>
    indicators.contains c || ((c == '?' || c == ':' || c == '-') && isBlankOrEnd t.head?)

/-- Whether a colon that ends a key or a comment sign stands inside a text, after `previous`. -/
def hasInnerIndicator : Char → Text → Bool
  | _, [] => false
  | previous, c :: t =>
    (c == ':' && isBlankOrEnd t.head?) || (c == '#' && isBlankOrEnd (some previous)) ||
      hasInnerIndicator c t

/-- Whether a text has two neighbours with the given properties. -/
def hasNeighbours (p q : Char → Bool) : Text → Bool
  | c :: d :: t => (p c && q d) || hasNeighbours p q (d :: t)
  | _ => false

def isSpace (c : Char) : Bool := c == ' '

def allowsPlain (t : Text) : Bool :=
  !("---".toList.isPrefixOf t) && !("...".toList.isPrefixOf t) && !startsAsIndicator t &&
    !(match t with
      | [] => false
      | c :: u => hasInnerIndicator c u) &&
    !(t.head?.any isSpace) && !(t.getLast?.any isSpace) && !t.any isBreak &&
    t.all isPrintable

/-- Whether a text can be written without escapes at all. -/
def allowsVerbatim (t : Text) : Bool := t.all isPrintable && !hasNeighbours isSpace isBreak t

def allowsSingle (t : Text) : Bool := allowsVerbatim t && !hasNeighbours isBreak isSpace t

def allowsLiteral (t : Text) : Bool := allowsVerbatim t && !(t.getLast?.any isSpace)

def style (t : Text) : Style :=
  if t.contains '\n' then if allowsLiteral t then .literal else .doubleQuoted
  else if !isAmbiguous t && allowsPlain t then .plain
  else if allowsSingle t then .singleQuoted
  else .doubleQuoted

end Shape

section Writing

def spaces (n : Nat) : Text := List.replicate n ' '

/-- The text between single quotes, where a line inside the text starts after the indentation. -/
def singleBody (indent : Nat) : Bool → Text → Text
  | afterBreak, [] => if afterBreak then spaces indent else []
  | afterBreak, c :: t =>
    if isBreak c then c :: singleBody indent true t
    else
      (if afterBreak then spaces indent else []) ++
        (if c = '\'' then ['\'', '\''] else [c]) ++ singleBody indent false t

/-- Hexadecimal digits in upper case. -/
def hex (width n : Nat) : Text :=
  let ds := (Nat.toDigits 16 n).map Char.toUpper
  List.replicate (width - ds.length) '0' ++ ds

def escapeChar (c : Char) : Text :=
  if isPrintable c && !isBreak c && c != '"' && c != '\\' then [c]
  else
    '\\' :: match c.toNat with
      | 0x00 => ['0']
      | 0x07 => ['a']
      | 0x08 => ['b']
      | 0x09 => ['t']
      | 0x0A => ['n']
      | 0x0B => ['v']
      | 0x0C => ['f']
      | 0x0D => ['r']
      | 0x1B => ['e']
      | 0x22 => ['"']
      | 0x5C => ['\\']
      | 0x85 => ['N']
      | 0x2028 => ['L']
      | 0x2029 => ['P']
      | n =>
        if n ≤ 0xFF then 'x' :: hex 2 n else if n ≤ 0xFFFF then 'u' :: hex 4 n else 'U' :: hex 8 n

/-- The header of a literal block: the indentation when the text hides it, and what becomes of
the line ends at its end. -/
def literalHeader (t : Text) : Text :=
  '|' ::
    (if t.head?.any (fun c => isSpace c || isBreak c) then ['2'] else []) ++
    (match t.reverse with
      | [] => ['-']
      | [c] => if isBreak c then ['+'] else ['-']
      | c :: d :: _ => if isBreak c then if isBreak d then ['+'] else [] else ['-'])

/-- The lines of a literal block; an empty line is not indented. -/
def literalBody (indent : Nat) : Bool → Text → Text
  | _, [] => []
  | afterBreak, c :: t =>
    if isBreak c then c :: literalBody indent true t
    else (if afterBreak then spaces indent else []) ++ c :: literalBody indent false t

/-- A text to the end of its line; `indent` is the indentation of its further lines. -/
def scalar (indent : Nat) (t : Text) : Text :=
  match style t with
  | .plain => t ++ ['\n']
  | .singleQuoted => '\'' :: singleBody indent false t ++ "'\n".toList
  | .doubleQuoted => '"' :: t.flatMap escapeChar ++ "\"\n".toList
  | .literal =>
    literalHeader t ++ '\n' :: literalBody indent true t ++
      (if t.getLast?.any isBreak then [] else ['\n'])

def field (indent : Nat) (key t : Text) : Text :=
  spaces indent ++ key ++ ": ".toList ++ scalar (indent + 2) t

def listField (indent : Nat) (key : Text) : List Text → Text
  | [] => spaces indent ++ key ++ ": []\n".toList
  | ts =>
    spaces indent ++ key ++ ":\n".toList ++
      ts.flatMap fun t => spaces indent ++ "- ".toList ++ scalar (indent + 2) t

end Writing

end ESharp.Yaml

namespace ESharp.Listing

def yamlPayload : Directive → Text
  | .imports names => Yaml.listField 4 "names".toList names
  | .assert condition => Yaml.field 4 "condition".toList condition
  | .print values => Yaml.listField 4 "values".toList values
  | .forHeader item collection =>
    Yaml.field 4 "variable".toList item ++ Yaml.field 4 "enumerable".toList collection
  | .regular code => Yaml.field 4 "code".toList code

/-- An entry as an item of the sequence. -/
def yamlEntry (e : Entry) : Text :=
  "- line_number: ".toList ++ Text.ofNat e.number ++ '\n' ::
    Yaml.field 2 "source".toList e.source ++ "  directive:\n".toList ++
    Yaml.field 4 "kind".toList e.directive.kind.name ++ yamlPayload e.directive

def yaml : List Entry → Text
  | [] => "[]\n".toList
  | entries => entries.flatMap yamlEntry

example : yaml [] = "[]\n".toList := by decide

end ESharp.Listing
