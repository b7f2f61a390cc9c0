import ESharp.Toml.Basic

/-!
# TOML texts, numbers and dates

A reader takes the start of a text and gives what it read together with the rest, or nothing when
the text does not start with what it reads.
-/

namespace ESharp.Toml

def isControl (c : Char) : Bool := c.toNat < 0x20 || c.toNat == 0x7F

/-- The characters of a comment and of a text on one line. -/
def isLineChar (c : Char) : Bool := c == '\t' || !isControl c

/-- The characters of a key without quotes. -/
def isKeyChar (c : Char) : Bool :=
  ('a' ≤ c && c ≤ 'z') || ('A' ≤ c && c ≤ 'Z') || Decimal.isDigit c || c == '-' || c == '_'

def skipBlanks (t : Text) : Text := Text.trimStart t

section Texts

/-- The character of a code point written with a fixed number of hexadecimal digits. -/
def codePoint? (width : Nat) (t : Text) : Option (Char × Text) :=
  let ds := t.take width
  if ds.length < width then none
  else
    match Decimal.natOf? 16 ds with
    | some n => if n.isValidChar then some (Char.ofNat n, t.drop width) else none
    | none => none

/-- The character of an escape, after the backslash. -/
def escape? : Text → Option (Char × Text)
  | 'b' :: t => some ('\x08', t)
  | 't' :: t => some ('\t', t)
  | 'n' :: t => some ('\n', t)
  | 'f' :: t => some ('\x0c', t)
  | 'r' :: t => some ('\r', t)
  | '"' :: t => some ('"', t)
  | '\\' :: t => some ('\\', t)
  | 'u' :: t => codePoint? 4 t
  | 'U' :: t => codePoint? 8 t
  | _ => none

/-- A text between double quotes, after the first; `fuel` bounds its length. -/
def basicText? : Nat → Text → Option (Text × Text)
  | 0, _ => none
  | fuel + 1, t =>
    match t with
    | '"' :: rest => some ([], rest)
    | '\\' :: rest => do
      let (c, rest) ← escape? rest
      let (s, rest) ← basicText? fuel rest
      some (c :: s, rest)
    | c :: rest =>
      if isLineChar c then do
        let (s, rest) ← basicText? fuel rest
        some (c :: s, rest)
      else none
    | [] => none

/-- A text between single quotes, after the first. -/
def literalText? : Text → Option (Text × Text)
  | '\'' :: rest => some ([], rest)
  | c :: rest =>
    if isLineChar c then do
      let (s, rest) ← literalText? rest
      some (c :: s, rest)
    else none
  | [] => none

/-- A text without a line end at its start. -/
def skipNewline : Text → Text
  | '\n' :: t => t
  | '\r' :: '\n' :: t => t
  | t => t

/-- The text after blanks and line ends. -/
def skipLines : Text → Text
  | '\r' :: '\n' :: t => skipLines t
  | c :: t => if Text.isBlank c || c == '\n' then skipLines t else c :: t
  | [] => []

/-- Whether a text starts a new line after blanks. -/
def startsLine (t : Text) : Bool :=
  match skipBlanks t with
  | '\n' :: _ => true
  | '\r' :: '\n' :: _ => true
  | _ => false

/-- The quotes at the end of a text over several lines: three that end it, after up to two that
belong to it. -/
def closing? (q : Char) (t : Text) : Option (Text × Text) :=
  let quotes := (t.takeWhile (· == q)).length
  if quotes < 3 then none
  else
    let n := min quotes 5
    some (List.replicate (n - 3) q, t.drop n)

/-- A text over several lines between double quotes, after the first three. A backslash at the end
of a line joins it to the next nonblank character. -/
def multiBasicText? : Nat → Text → Option (Text × Text)
  | 0, _ => none
  | fuel + 1, t =>
    match closing? '"' t with
    | some done => some done
    | none =>
      match t with
      | '\\' :: rest =>
        if startsLine rest then multiBasicText? fuel (skipLines rest)
        else do
          let (c, rest) ← escape? rest
          let (s, rest) ← multiBasicText? fuel rest
          some (c :: s, rest)
      | '\r' :: '\n' :: rest => do
        let (s, rest) ← multiBasicText? fuel rest
        some ('\n' :: s, rest)
      | c :: rest =>
        if c == '\n' || isLineChar c then do
          let (s, rest) ← multiBasicText? fuel rest
          some (c :: s, rest)
        else none
      | [] => none

/-- A text over several lines between single quotes, after the first three. -/
def multiLiteralText? : Nat → Text → Option (Text × Text)
  | 0, _ => none
  | fuel + 1, t =>
    match closing? '\'' t with
    | some done => some done
    | none =>
      match t with
      | '\r' :: '\n' :: rest => do
        let (s, rest) ← multiLiteralText? fuel rest
        some ('\n' :: s, rest)
      | c :: rest =>
        if c == '\n' || isLineChar c then do
          let (s, rest) ← multiLiteralText? fuel rest
          some (c :: s, rest)
        else none
      | [] => none

/-- A text in any of the four quotations. -/
def text? (t : Text) : Option (Text × Text) :=
  match t with
  | '"' :: '"' :: '"' :: rest => multiBasicText? (t.length + 1) (skipNewline rest)
  | '\'' :: '\'' :: '\'' :: rest => multiLiteralText? (t.length + 1) (skipNewline rest)
  | '"' :: rest => basicText? (t.length + 1) rest
  | '\'' :: rest => literalText? rest
  | _ => none

end Texts

section Numbers

/-- Digits with single underscores between them: the digits, and the rest. -/
def digits (isDigit : Char → Bool) : Text → Text × Text
  | '_' :: d :: t =>
    if isDigit d then
      let (ds, rest) := digits isDigit t
      (d :: ds, rest)
    else ([], '_' :: d :: t)
  | c :: t =>
    if isDigit c then
      let (ds, rest) := digits isDigit t
      (c :: ds, rest)
    else ([], c :: t)
  | [] => ([], [])

/-- One or more digits, the first of them no underscore. -/
def digits? (isDigit : Char → Bool) : Text → Option (Text × Text)
  | c :: t => if isDigit c then some (digits isDigit (c :: t)) else none
  | [] => none

/-- The digits of a decimal integer, which starts with zero only if it is zero. -/
def wholeDigits? : Text → Option (Text × Text)
  | '0' :: t => some (['0'], t)
  | t => digits? Decimal.isDigit t

/-- An integer that fits into 64 bits with a sign. -/
def inRange (n : Int) : Option Int :=
  if -0x8000000000000000 ≤ n ∧ n < 0x8000000000000000 then some n else none

/-- An integer with a letter for its base. -/
def basedInteger? (base : Nat) (t : Text) : Option (Toml × Text) := do
  let isDigit := fun c => (Decimal.pushDigit? base 0 c).isSome
  let (ds, rest) ← digits? isDigit t
  let n ← Decimal.natOf? base ds
  let n ← inRange n
  some (.integer n, rest)

/-- The power of ten at the end of a floating point number. -/
def power? (t : Text) : Option (Int × Text) :=
  match t with
  | [] => none
  | c :: rest =>
    if c = 'e' ∨ c = 'E' then do
      let (negative, rest) := Decimal.takeSign rest
      let (ds, rest) ← digits? Decimal.isDigit rest
      let n ← Decimal.natOf? 10 ds
      some (if negative then -(n : Int) else n, rest)
    else none

/-- A decimal number: an integer, or with a fraction or a power a floating point number. A number
above every finite one is refused. -/
def decimalNumber? (t : Text) : Option (Toml × Text) := do
  let (negative, u) := Decimal.takeSign t
  let (whole, rest) ← wholeDigits? u
  let float (fraction : Text) (e : Int) (rest : Text) : Option (Toml × Text) := do
    let n ← Decimal.natOf? 10 (whole ++ fraction)
    let x := Binary64.ofDecimal ⟨negative, n, e - fraction.length⟩
    if x = .infinite false then none else some (.float x, rest)
  match rest with
  | '.' :: rest => do
    let (fraction, rest) ← digits? Decimal.isDigit rest
    match power? rest with
    | some (e, rest) => float fraction e rest
    | none => float fraction 0 rest
  | _ =>
    match power? rest with
    | some (e, rest) => float [] e rest
    | none => do
      let n ← Decimal.natOf? 10 whole
      let n ← inRange (if negative then -(n : Int) else n)
      some (.integer n, rest)

/-- A floating point number that is no decimal number. -/
def specialNumber? (t : Text) : Option (Toml × Text) :=
  let (negative, u) := Decimal.takeSign t
  match u with
  | 'i' :: 'n' :: 'f' :: rest => some (.float (.infinite negative), rest)
  | 'n' :: 'a' :: 'n' :: rest => some (.float .notANumber, rest)
  | _ => none

def number? (t : Text) : Option (Toml × Text) :=
  match t with
  | '0' :: 'x' :: rest => basedInteger? 16 rest
  | '0' :: 'o' :: rest => basedInteger? 8 rest
  | '0' :: 'b' :: rest => basedInteger? 2 rest
  | _ => (specialNumber? t).orElse fun _ => decimalNumber? t

end Numbers

section Dates

/-- A number of exactly `width` digits within bounds, as it is written. -/
def field? (width low high : Nat) (t : Text) : Option (Text × Text) :=
  let ds := t.take width
  if ds.length = width ∧ ds.all Decimal.isDigit then
    match Decimal.natOf? 10 ds with
    | some n => if low ≤ n ∧ n ≤ high then some (ds, t.drop width) else none
    | none => none
  else none

def char? (c : Char) : Text → Option Text
  | d :: t => if c = d then some t else none
  | [] => none

def daysIn (year month : Nat) : Nat :=
  if month = 2 then
    if year % 4 = 0 ∧ (year % 100 ≠ 0 ∨ year % 400 = 0) then 29 else 28
  else if month ∈ [4, 6, 9, 11] then 30
  else 31

def day? (t : Text) : Option (Text × Text) := do
  let (year, t) ← field? 4 0 9999 t
  let t ← char? '-' t
  let (month, t) ← field? 2 1 12 t
  let t ← char? '-' t
  let (day, t) ← field? 2 1 31 t
  let y ← Decimal.natOf? 10 year
  let m ← Decimal.natOf? 10 month
  let d ← Decimal.natOf? 10 day
  if d ≤ daysIn y m then some (year ++ '-' :: month ++ '-' :: day, t) else none

/-- The part of a second after the point, to nine places and without zeros at its end. -/
def secondFraction (t : Text) : Text × Text :=
  match t with
  | '.' :: d :: rest =>
    if Decimal.isDigit d then
      let ds := ((d :: rest).takeWhile Decimal.isDigit).take 9
      let kept := (ds.reverse.dropWhile (· == '0')).reverse
      (if kept.isEmpty then [] else '.' :: kept, (d :: rest).dropWhile Decimal.isDigit)
    else ([], t)
  | _ => ([], t)

/-- A time of day, whose hour is at most `lastHour`. -/
def time? (lastHour : Nat) (t : Text) : Option (Text × Text) := do
  let (hour, t) ← field? 2 0 lastHour t
  let t ← char? ':' t
  let (minute, t) ← field? 2 0 59 t
  let t ← char? ':' t
  let (second, t) ← field? 2 0 60 t
  let (fraction, t) := secondFraction t
  some (hour ++ ':' :: minute ++ ':' :: second ++ fraction, t)

/-- A distance from universal time; a distance of zero is written with a plus sign. -/
def offset? (t : Text) : Option (Text × Text) :=
  match t with
  | [] => none
  | c :: rest =>
    if c = 'Z' ∨ c = 'z' then some (['Z'], rest)
    else if c = '+' ∨ c = '-' then do
      let (hour, rest) ← field? 2 0 23 rest
      let rest ← char? ':' rest
      let (minute, rest) ← field? 2 0 59 rest
      let sign := if c = '-' ∧ (hour ++ minute).any (· != '0') then '-' else '+'
      some (sign :: hour ++ ':' :: minute, rest)
    else none

/-- A date, a time or both. -/
def date? (t : Text) : Option (Toml × Text) :=
  match day? t with
  | some (day, rest) =>
    let timed : Option (Text × Text) := match rest with
      | [] => none
      | c :: rest => if c = 'T' ∨ c = 't' ∨ c = ' ' then time? 23 rest else none
    match timed with
    | some (time, rest) =>
      match offset? rest with
      | some (offset, rest) => some (.date (day ++ 'T' :: time ++ offset), rest)
      | none => some (.date (day ++ 'T' :: time), rest)
    | none => some (.date day, rest)
  | none =>
    match time? 23 t with
    | some (time, rest) => some (.date time, rest)
    | none => none

/-- A number below a hundred with two digits. -/
def twoDigits (n : Nat) : Text := if n < 10 then '0' :: Text.ofNat n else Text.ofNat n

/-- A distance from universal time of at most a day, in hours and any number of minutes. -/
def wideOffset? (t : Text) : Option Text :=
  match t with
  | [] => some []
  | ['Z'] | ['z'] => some ['Z']
  | c :: rest =>
    if c = '+' ∨ c = '-' then do
      let (hour, rest) ← field? 2 0 99 rest
      let rest ← char? ':' rest
      let (minute, rest) ← field? 2 0 99 rest
      let h ← Decimal.natOf? 10 hour
      let m ← Decimal.natOf? 10 minute
      let total := h * 60 + m
      if rest = [] ∧ total ≤ 24 * 60 then
        some ((if c = '-' ∧ total ≠ 0 then '-' else '+') :: twoDigits (total / 60) ++
          ':' :: twoDigits (total % 60))
      else none
    else none

/-- A text that as a whole is a date, a time or both, in its usual form. The day may end with its
hour 24. -/
def wholeDate? (t : Text) : Option Text :=
  match day? t with
  | some (day, []) => some day
  | some (day, c :: rest) =>
    if c = 'T' ∨ c = 't' ∨ c = ' ' then do
      let (time, rest) ← time? 24 rest
      let offset ← wideOffset? rest
      some (day ++ 'T' :: time ++ offset)
    else none
  | none =>
    match time? 24 t with
    | some (time, []) => some time
    | _ => none

example : wholeDate? "1979-05-27 24:00:60.5-00:90".toList =
    some "1979-05-27T24:00:60.5-01:30".toList := by decide +kernel

end Dates

/-- A value that is neither an array nor a table. -/
def scalar? (t : Text) : Option (Toml × Text) :=
  match t with
  | [] => none
  | '"' :: _ | '\'' :: _ => (text? t).map fun (s, rest) => (.text s, rest)
  | 't' :: 'r' :: 'u' :: 'e' :: rest => some (.boolean true, rest)
  | 'f' :: 'a' :: 'l' :: 's' :: 'e' :: rest => some (.boolean false, rest)
  | _ => (date? t).orElse fun _ => number? t

end ESharp.Toml
