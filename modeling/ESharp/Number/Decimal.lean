import ESharp.Text.Basic

/-!
# Decimals

A decimal is a signed natural number times a power of ten. It is the exact value of a written
number, before any rounding.
-/

namespace ESharp

/-- The number `digits · 10 ^ exponent`, negative if the flag says so; zero has a sign too. -/
structure Decimal where
  negative : Bool
  digits : Nat
  exponent : Int
  deriving DecidableEq, Repr

namespace Decimal

def isDigit (c : Char) : Bool := '0' ≤ c && c ≤ '9'

/-- The value of a digit in any base up to sixteen. -/
def digitValue? (c : Char) : Option Nat :=
  if '0' ≤ c ∧ c ≤ '9' then some (c.toNat - '0'.toNat)
  else if 'a' ≤ c ∧ c ≤ 'f' then some (c.toNat - 'a'.toNat + 10)
  else if 'A' ≤ c ∧ c ≤ 'F' then some (c.toNat - 'A'.toNat + 10)
  else none

/-- One more digit of a number in a base, if it is one. -/
def pushDigit? (base : Nat) (n : Nat) (c : Char) : Option Nat :=
  match digitValue? c with
  | some d => if d < base then some (n * base + d) else none
  | none => none

/-- The number that a nonempty text of digits in a base stands for. -/
def natOf? (base : Nat) (t : Text) : Option Nat :=
  if t.isEmpty then none else t.foldlM (pushDigit? base) 0

/-- A text after an optional sign, and whether the sign is a minus. -/
def takeSign : Text → Bool × Text
  | '-' :: t => (true, t)
  | '+' :: t => (false, t)
  | t => (false, t)

/-- The exponent that follows a mantissa: nothing, or the letter and a signed number. -/
def exponentOf? : Text → Option Int
  | [] => some 0
  | c :: t =>
    if c = 'e' ∨ c = 'E' then
      let (negative, ds) := takeSign t
      (natOf? 10 ds).map fun n => if negative then -(n : Int) else n
    else none

/-- The number that a text stands for: an optional sign, digits with at most one point among
them and at least one digit, and an optional exponent. -/
def ofText? (t : Text) : Option Decimal :=
  let (negative, t) := takeSign t
  let whole := t.takeWhile isDigit
  let rest := t.dropWhile isDigit
  let (fraction, rest) := match rest with
    | '.' :: u => (u.takeWhile isDigit, u.dropWhile isDigit)
    | u => ([], u)
  match natOf? 10 (whole ++ fraction), exponentOf? rest with
  | some digits, some e => some ⟨negative, digits, e - fraction.length⟩
  | _, _ => none

/-- The digits of a decimal that is written without an exponent. -/
def positional (digits : Nat) (exponent : Int) : Text :=
  let ds := Text.ofNat digits
  if 0 ≤ exponent then ds ++ List.replicate exponent.toNat '0'
  else
    let places := exponent.natAbs
    if places < ds.length then ds.take (ds.length - places) ++ '.' :: ds.drop (ds.length - places)
    else "0.".toList ++ List.replicate (places - ds.length) '0' ++ ds

example : ofText? "-1.50e3".toList = some ⟨true, 150, 1⟩ := by decide

example : ofText? ".".toList = none := by decide

example : positional 15 (-3) = "0.015".toList := by decide

end Decimal
end ESharp
