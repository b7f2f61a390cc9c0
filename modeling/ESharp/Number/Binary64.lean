import ESharp.Number.Decimal

/-!
# Floating point numbers with 53 bits

A finite number is a mantissa below `2 ^ 53` times a power of two that is at least `2 ^ -1074`. A
decimal is rounded to the nearest such number, a tie to the even mantissa. A number is written with
the fewest digits that round back to it, the nearest of those and of two the greater one, and never
with an exponent.
-/

namespace ESharp

inductive Binary64
  /-- The number `mantissa · 2 ^ exponent`. -/
  | finite (negative : Bool) (mantissa : Nat) (exponent : Int)
  | infinite (negative : Bool)
  | notANumber
  deriving DecidableEq, Repr

namespace Binary64

/-- The quotient of two numbers, to the nearest integer and a tie to the even one. -/
def roundDiv (num den : Nat) : Nat :=
  let q := num / den
  let r := num % den
  if 2 * r < den then q else if den < 2 * r then q + 1 else if q % 2 = 0 then q else q + 1

/-- The fraction `num / den` over `2 ^ e`. -/
def scaled (num den : Nat) (e : Int) : Nat × Nat :=
  if 0 ≤ e then (num, den * Nat.pow 2 e.toNat) else (num * Nat.pow 2 e.natAbs, den)

def minExponent : Int := -1074

def maxExponent : Int := 971

/-- The number nearest to a fraction. -/
def ofFraction (negative : Bool) (num den : Nat) : Binary64 :=
  if num = 0 then finite negative 0 minExponent
  else
    let guess : Int := (Nat.log2 num : Int) - (Nat.log2 den : Int) - 53
    let s := scaled num den guess
    let e := max minExponent (if s.1 / s.2 < Nat.pow 2 53 then guess else guess + 1)
    let t := scaled num den e
    let m := roundDiv t.1 t.2
    let (m, e) := if m = Nat.pow 2 53 then (Nat.pow 2 52, e + 1) else (m, e)
    if maxExponent < e then infinite negative else finite negative m e

/-- The number nearest to a decimal. Decimals beyond every finite number or below half of the
least positive one are told by their size alone. -/
def ofDecimal (d : Decimal) : Binary64 :=
  let size : Int := (Text.ofNat d.digits).length + d.exponent
  if d.digits = 0 ∨ size < -330 then finite d.negative 0 minExponent
  else if 310 < size then infinite d.negative
  else if 0 ≤ d.exponent then ofFraction d.negative (d.digits * Nat.pow 10 d.exponent.toNat) 1
  else ofFraction d.negative d.digits (Nat.pow 10 d.exponent.natAbs)

def isFinite : Binary64 → Bool
  | finite .. => true
  | _ => false

/-- The decimals that round to a positive number: its value and the two ends of its interval as
numerators over one denominator, and whether the ends belong to it. -/
structure Interval where
  low : Nat
  value : Nat
  high : Nat
  den : Nat
  closed : Bool

/-- The interval of `mantissa · 2 ^ exponent`. Below a power of two the numbers are twice as
dense, so the lower half of that interval is half as long. -/
def interval (mantissa : Nat) (exponent : Int) : Interval :=
  let denser := mantissa = Nat.pow 2 52 ∧ minExponent < exponent
  let up := Nat.pow 2 exponent.toNat
  { low := (4 * mantissa - (if denser then 1 else 2)) * up
    value := 4 * mantissa * up
    high := (4 * mantissa + 2) * up
    den := 4 * Nat.pow 2 (-exponent).toNat
    closed := mantissa % 2 = 0 }

/-- Whether `n · step / unit` lies in an interval, for `step / unit` a power of ten. -/
def Interval.contains (i : Interval) (step unit n : Nat) : Bool :=
  let x := n * step * i.den
  if i.closed then i.low * unit ≤ x && x ≤ i.high * unit else i.low * unit < x && x < i.high * unit

/-- The multiple of `10 ^ k` nearest to the value that still rounds to it, if there is one. Of two
that are equally near the greater one counts. -/
def Interval.nearest? (i : Interval) (k : Int) : Option Nat :=
  let step := Nat.pow 10 k.toNat
  let unit := Nat.pow 10 (-k).toNat
  let down := i.value * unit / (i.den * step)
  let below := i.value * unit - down * step * i.den
  let above := (down + 1) * step * i.den - i.value * unit
  match i.contains step unit down, i.contains step unit (down + 1) with
  | true, true => some (if below < above then down else down + 1)
  | true, false => some down
  | false, true => some (down + 1)
  | false, false => none

/-- The first power of ten, counted down from `10 ^ k`, with a multiple that rounds to the
value. -/
def Interval.shortestFrom (i : Interval) (k : Int) : Nat → Nat × Int
  | 0 => ((i.nearest? k).getD 0, k)
  | tries + 1 =>
    match i.nearest? k with
    | some n => if n = 0 then i.shortestFrom (k - 1) tries else (n, k)
    | none => i.shortestFrom (k - 1) tries

/-- The fewest digits that round to a positive number, as a number and a power of ten. -/
def shortest (mantissa : Nat) (exponent : Int) : Nat × Int :=
  let i := interval mantissa exponent
  let top : Int := ((Text.ofNat i.value).length : Int) - (Text.ofNat i.den).length + 1
  i.shortestFrom top 20

/-- A number without the zeros at the end of its digits, which go to the power of ten. -/
def stripZeros : Nat → Nat × Int → Nat × Int
  | 0, p => p
  | tries + 1, (n, k) => if n ≠ 0 ∧ n % 10 = 0 then stripZeros tries (n / 10, k + 1) else (n, k)

def text : Binary64 → Text
  | finite negative mantissa exponent =>
    let sign : Text := if negative then ['-'] else []
    if mantissa = 0 then sign ++ ['0']
    else
      let (n, k) := stripZeros 20 (shortest mantissa exponent)
      sign ++ Decimal.positional n k
  | infinite negative => if negative then "-inf".toList else "inf".toList
  | notANumber => "NaN".toList

/-- The digits of a number, with a point even when it is an integer. -/
def pointText (x : Binary64) : Text :=
  let t := text x
  if x.isFinite ∧ '.' ∉ t then t ++ ".0".toList else t

example : (ofDecimal ⟨false, 1, -1⟩) = finite false 7205759403792794 (-56) := by decide +kernel

example : text (ofDecimal ⟨true, 25, -1⟩) = "-2.5".toList := by decide +kernel

example : text (ofDecimal ⟨false, 123456789012345625, -2⟩) = "1234567890123456.3".toList := by
  decide +kernel

example : (ofDecimal ⟨false, 1, 309⟩) = infinite false := by decide +kernel

end Binary64
end ESharp
