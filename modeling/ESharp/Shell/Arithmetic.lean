import ESharp.Number.Decimal

/-!
# Arithmetic of a shell

Expressions over integers of 64 bits and variables, with the usual operators and precedence.
-/

namespace ESharp.Shell

inductive Expression
  | number (n : Int)
  | named (name : Text)
  | negate (e : Expression)
  | complement (e : Expression)
  | not (e : Expression)
  | binary (op : Text) (a b : Expression)
  | both (a b : Expression)
  | either (a b : Expression)
  | choose (c a b : Expression)
  /-- An assignment, with the operator before its equals sign. -/
  | assign (name : Text) (op : Text) (e : Expression)
  deriving Repr

namespace Arithmetic

inductive Item
  | number (n : Int)
  | name (t : Text)
  | operator (t : Text)
  deriving DecidableEq, Repr

def operators : List Text :=
  ["<<=", ">>=", "<<", ">>", "<=", ">=", "==", "!=", "&&", "||", "+=", "-=", "*=", "/=", "%=", "&=",
    "|=", "^=", "+", "-", "*", "/", "%", "<", ">", "&", "|", "^", "!", "~", "(", ")", "?", ":",
    "="].map String.toList

/-- A natural number, or the greatest integer if it is beyond all integers. -/
def bounded (n : Nat) : Int := min n 0x7FFFFFFFFFFFFFFF

/-- A number: octal after a zero, hexadecimal after a zero and an x. -/
def number? : Text → Option Int
  | '0' :: 'x' :: t | '0' :: 'X' :: t => (Decimal.natOf? 16 t).map bounded
  | '0' :: c :: t => (Decimal.natOf? 8 (c :: t)).map bounded
  | t => (Decimal.natOf? 10 t).map bounded

/-- The tokens of an expression. -/
def items? : Nat → Text → Option (List Item)
  | 0, _ => none
  | _, [] => some []
  | fuel + 1, c :: t =>
    if Text.isBlank c || c == '\n' then items? fuel t
    else if c.isDigit then do
      let n ← number? (c :: t.takeWhile Char.isAlphanum)
      let rest ← items? fuel (t.dropWhile Char.isAlphanum)
      some (.number n :: rest)
    else if c.isAlpha || c == '_' then do
      let isNameChar := fun (d : Char) => d.isAlphanum || d == '_'
      let rest ← items? fuel (t.dropWhile isNameChar)
      some (.name (c :: t.takeWhile isNameChar) :: rest)
    else do
      let op ← operators.find? (·.isPrefixOf (c :: t))
      let rest ← items? fuel ((c :: t).drop op.length)
      some (.operator op :: rest)

/-- The rank of an operator with two sides; a higher one binds closer. -/
def rank? (op : Text) : Option Nat :=
  match String.ofList op with
  | "||" => some 1
  | "&&" => some 2
  | "|" => some 3
  | "^" => some 4
  | "&" => some 5
  | "==" | "!=" => some 6
  | "<" | "<=" | ">" | ">=" => some 7
  | "<<" | ">>" => some 8
  | "+" | "-" => some 9
  | "*" | "/" | "%" => some 10
  | _ => none

/-- The operator of an assignment without its equals sign. -/
def assignment? (op : Text) : Option Text :=
  if ["=", "+=", "-=", "*=", "/=", "%=", "&=", "|=", "^=", "<<=", ">>="].any (·.toList == op) then
    some op.dropLast
  else none

def join (op : Text) (a b : Expression) : Expression :=
  if op = "&&".toList then .both a b else if op = "||".toList then .either a b else .binary op a b

/-- An expression and the tokens after it. -/
abbrev Parsed := Option (Expression × List Item)

mutual

def expression? : Nat → List Item → Parsed
  | 0, _ => none
  | fuel + 1, ts =>
    let assigned : Option (Text × Text × List Item) := match ts with
      | .name n :: .operator op :: rest => (assignment? op).map fun o => (n, o, rest)
      | _ => none
    match assigned with
    | some (name, op, rest) => do
      let (e, rest) ← expression? fuel rest
      some (.assign name op e, rest)
    | none => do
      let (c, rest) ← operand? fuel ts
      let (c, rest) ← operators? fuel 1 c rest
      match rest with
      | .operator ['?'] :: rest => do
        let (a, rest) ← expression? fuel rest
        match rest with
        | .operator [':'] :: rest => do
          let (b, rest) ← expression? fuel rest
          some (.choose c a b, rest)
        | _ => none
      | rest => some (c, rest)

/-- An expression that goes on with operators of some rank or more. -/
def operators? : Nat → Nat → Expression → List Item → Parsed
  | 0, _, _, _ => none
  | fuel + 1, least, a, ts =>
    match ts with
    | .operator op :: rest =>
      match rank? op with
      | some r =>
        if least ≤ r then do
          let (b, rest) ← operand? fuel rest
          let (b, rest) ← operators? fuel (r + 1) b rest
          operators? fuel least (join op a b) rest
        else some (a, ts)
      | none => some (a, ts)
    | _ => some (a, ts)

/-- An expression without operators of two sides. -/
def operand? : Nat → List Item → Parsed
  | 0, _ => none
  | fuel + 1, ts =>
    match ts with
    | .number n :: rest => some (.number n, rest)
    | .name t :: rest => some (.named t, rest)
    | .operator ['('] :: rest => do
      let (e, rest) ← expression? fuel rest
      match rest with
      | .operator [')'] :: rest => some (e, rest)
      | _ => none
    | .operator ['+'] :: rest => operand? fuel rest
    | .operator ['-'] :: rest => (operand? fuel rest).map fun (e, rest) => (.negate e, rest)
    | .operator ['!'] :: rest => (operand? fuel rest).map fun (e, rest) => (.not e, rest)
    | .operator ['~'] :: rest => (operand? fuel rest).map fun (e, rest) => (.complement e, rest)
    | _ => none

end

def parse? (t : Text) : Option Expression := do
  let ts ← items? (t.length + 1) t
  match ← expression? (8 * ts.length + 8) ts with
  | (e, []) => some e
  | _ => none

/-- An integer reduced to 64 bits. -/
def wrap (n : Int) : Int := n.bmod 0x10000000000000000

def ofBool (b : Bool) : Int := if b then 1 else 0

def bits (n : Int) : Nat := (n.emod 0x10000000000000000).toNat

inductive Fault
  | divisionByZero
  | badNumber (t : Text)
  deriving DecidableEq, Repr

/-- The value of an operator with two sides. -/
def apply (op : Text) (a b : Int) : Except Fault Int :=
  match String.ofList op with
  | "+" => .ok (wrap (a + b))
  | "-" => .ok (wrap (a - b))
  | "*" => .ok (wrap (a * b))
  | "/" => if b = 0 then .error .divisionByZero else .ok (wrap (a.tdiv b))
  | "%" => if b = 0 then .error .divisionByZero else .ok (wrap (a.tmod b))
  | "<<" => .ok (wrap (a * (Nat.pow 2 (bits b % 64) : Int)))
  | ">>" => .ok (a.fdiv (Nat.pow 2 (bits b % 64) : Int))
  | "<" => .ok (ofBool (a < b))
  | "<=" => .ok (ofBool (a ≤ b))
  | ">" => .ok (ofBool (b < a))
  | ">=" => .ok (ofBool (b ≤ a))
  | "==" => .ok (ofBool (a = b))
  | "!=" => .ok (ofBool (a ≠ b))
  | "&" => .ok (wrap (Nat.land (bits a) (bits b)))
  | "|" => .ok (wrap (Nat.lor (bits a) (bits b)))
  | "^" => .ok (wrap (Nat.xor (bits a) (bits b)))
  | _ => .ok b

abbrev Variables := List (Text × Text)

/-- The number that a variable holds; a missing one holds zero. -/
def valueOf (vs : Variables) (name : Text) : Except Fault Int :=
  match vs.lookup name with
  | none | some [] => .ok 0
  | some t =>
    let (negative, ds) := Decimal.takeSign (Text.trim t)
    match number? ds with
    | some n => .ok (wrap (if negative then -n else n))
    | none => .error (.badNumber t)

/-- The value of an expression, and the variables after it. -/
def eval : Expression → Variables → Except Fault (Int × Variables)
  | .number n, vs => .ok (wrap n, vs)
  | .named name, vs => do
    let n ← valueOf vs name
    .ok (n, vs)
  | .negate e, vs => do
    let (n, vs) ← eval e vs
    .ok (wrap (-n), vs)
  | .complement e, vs => do
    let (n, vs) ← eval e vs
    .ok (-n - 1, vs)
  | .not e, vs => do
    let (n, vs) ← eval e vs
    .ok (ofBool (n = 0), vs)
  | .binary op a b, vs => do
    let (x, vs) ← eval a vs
    let (y, vs) ← eval b vs
    let n ← apply op x y
    .ok (n, vs)
  | .both a b, vs => do
    let (x, vs) ← eval a vs
    if x = 0 then .ok (0, vs)
    else
      let (y, vs) ← eval b vs
      .ok (ofBool (y ≠ 0), vs)
  | .either a b, vs => do
    let (x, vs) ← eval a vs
    if x ≠ 0 then .ok (1, vs)
    else
      let (y, vs) ← eval b vs
      .ok (ofBool (y ≠ 0), vs)
  | .choose c a b, vs => do
    let (x, vs) ← eval c vs
    if x ≠ 0 then eval a vs else eval b vs
  | .assign name op e, vs => do
    let (y, vs) ← eval e vs
    let n ← if op.isEmpty then .ok y else do
      let x ← valueOf vs name
      apply op x y
    .ok (n, (name, Text.ofInt n) :: vs)

example : (parse? "1 + 2 * (x = 3) ".toList).bind (fun e => ((eval e []).map Prod.fst).toOption) =
    some 7 := by decide +kernel

end Arithmetic
end ESharp.Shell
