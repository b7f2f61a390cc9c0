import ESharp.Listing

/-!
# Listings as JSON

The documents here are numbers, texts, arrays and objects. They are written over several lines
with two spaces a level. In a text only the quote, the backslash and the control characters are
escaped.
-/

namespace ESharp

inductive Json
  | number (n : Nat)
  | text (t : Text)
  | array (items : List Json)
  | object (fields : List (Text × Json))

namespace Json

def hexDigit (n : Nat) : Char := Nat.digitChar n

def escapeChar (c : Char) : Text :=
  match c with
  | '"' => "\\\"".toList
  | '\\' => "\\\\".toList
  | '\n' => "\\n".toList
  | '\r' => "\\r".toList
  | '\t' => "\\t".toList
  | '\x08' => "\\b".toList
  | '\x0c' => "\\f".toList
  | c =>
    if c.toNat < 32 then "\\u00".toList ++ [hexDigit (c.toNat / 16), hexDigit (c.toNat % 16)]
    else [c]

def quote (t : Text) : Text := '"' :: t.flatMap escapeChar ++ ['"']

/-- The start of a line at a level. -/
def newline (level : Nat) : Text := '\n' :: List.replicate (2 * level) ' '

mutual

/-- A document that starts at a level. -/
def pretty (level : Nat) : Json → Text
  | number n => Text.ofNat n
  | text t => quote t
  | array [] => "[]".toList
  | array (v :: vs) => '[' :: prettyItems (level + 1) (v :: vs) ++ newline level ++ [']']
  | object [] => "\x7b\x7d".toList
  | object (f :: fs) => '{' :: prettyFields (level + 1) (f :: fs) ++ newline level ++ ['}']

/-- The items of an array, a line each. -/
def prettyItems (level : Nat) : List Json → Text
  | [] => []
  | [v] => newline level ++ pretty level v
  | v :: w :: vs => newline level ++ pretty level v ++ ',' :: prettyItems level (w :: vs)

/-- The fields of an object, a line each. -/
def prettyFields (level : Nat) : List (Text × Json) → Text
  | [] => []
  | [(k, v)] => newline level ++ quote k ++ ": ".toList ++ pretty level v
  | (k, v) :: f :: fs =>
    newline level ++ quote k ++ ": ".toList ++ pretty level v ++ ',' :: prettyFields level (f :: fs)

end

end Json

namespace Listing

/-- The fields of a directive after its kind. -/
def payload : Directive → List (Text × Json)
  | .imports names => [("names".toList, .array (names.map .text))]
  | .assert condition => [("condition".toList, .text condition)]
  | .print values => [("values".toList, .array (values.map .text))]
  | .forHeader item collection =>
    [("variable".toList, .text item), ("enumerable".toList, .text collection)]
  | .regular code => [("code".toList, .text code)]

def directiveJson (d : Directive) : Json :=
  .object (("kind".toList, .text d.kind.name) :: payload d)

def entryJson (e : Entry) : Json :=
  .object
    [("line_number".toList, .number e.number), ("source".toList, .text e.source),
      ("directive".toList, directiveJson e.directive)]

/-- A listing as one document and a line feed. -/
def json (entries : List Entry) : Text :=
  Json.pretty 0 (.array (entries.map entryJson)) ++ ['\n']

example : json [] = "[]\n".toList := by decide

end Listing
end ESharp
