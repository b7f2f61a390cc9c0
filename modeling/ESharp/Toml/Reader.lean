import ESharp.Toml.Scalar

/-!
# Reading TOML

A document is read expression by expression into a tree. Every fault ends the reading: a document
with a fault has no value.
-/

namespace ESharp.Toml

/-- The text after blanks, line ends and comments, which may stand between the values of an
array. The flag says that a comment is being read. -/
def skipTrivia : Bool → Text → Option Text
  | _, [] => some []
  | false, '\r' :: '\n' :: t => skipTrivia false t
  | true, '\r' :: '\n' :: t => skipTrivia false t
  | false, c :: t =>
    if Text.isBlank c || c == '\n' then skipTrivia false t
    else if c == '#' then skipTrivia true t
    else some (c :: t)
  | true, c :: t =>
    if c == '\n' then skipTrivia false t else if isLineChar c then skipTrivia true t else none

/-- The text after the end of an expression: blanks, a comment and a line end or the end of the
document. -/
def endLine? (t : Text) : Option Text :=
  let rest := match skipBlanks t with
    | '#' :: u => u.dropWhile isLineChar
    | u => u
  match rest with
  | [] => some []
  | '\n' :: u => some u
  | '\r' :: '\n' :: u => some u
  | _ => none

/-- A key without dots. -/
def simpleKey? (t : Text) : Option (Text × Text) :=
  match t with
  | '"' :: rest => basicText? (t.length + 1) rest
  | '\'' :: rest => literalText? rest
  | _ =>
    let key := t.takeWhile isKeyChar
    if key.isEmpty then none else some (key, t.dropWhile isKeyChar)

/-- Keys with dots between them, and blanks around each. -/
def keys? : Nat → Text → Option (List Text × Text)
  | 0, _ => none
  | fuel + 1, t => do
    let (key, rest) ← simpleKey? (skipBlanks t)
    match skipBlanks rest with
    | '.' :: rest => do
      let (keys, rest) ← keys? fuel rest
      some (key :: keys, rest)
    | rest => some ([key], rest)

/-- How deep arrays and tables may nest, and below how many keys a value may lie. -/
def maxDepth : Nat := 79

/-- The keys before an equals sign or in a header. -/
def path? (t : Text) : Option (List Text × Text) := do
  let (keys, rest) ← keys? (t.length + 1) t
  if keys.length ≤ maxDepth then some (keys, rest) else none

/-- The fields of a table with one more value under dotted keys. -/
def assign (keys : List Text) (v : Toml) (fields : Fields) : Option Fields := do
  let (before, key) ← splitLast? keys
  Fields.update (insertValue key v) (dottedSteps before) fields

mutual

/-- A value; `fuel` bounds the number of steps and `depth` is what is left of the nesting. -/
def value? : Nat → Nat → Text → Option (Toml × Text)
  | 0, _, _ => none
  | fuel + 1, depth, t =>
    match t, depth with
    | '[' :: _, 0 | '{' :: _, 0 => none
    | '[' :: rest, depth + 1 => items? fuel depth [] rest
    | '{' :: rest, depth + 1 =>
      match skipBlanks rest with
      | '}' :: rest => some (.table [], rest)
      | rest => fields? fuel depth [] rest
    | _, _ => scalar? t

/-- The items of an array, after those that are read, the last one first. -/
def items? : Nat → Nat → List Toml → Text → Option (Toml × Text)
  | 0, _, _, _ => none
  | fuel + 1, depth, done, t => do
    match ← skipTrivia false t with
    | ']' :: rest => some (.array done.reverse, rest)
    | t => do
      let (v, rest) ← value? fuel depth t
      match ← skipTrivia false rest with
      | ',' :: rest => items? fuel depth (v :: done) rest
      | ']' :: rest => some (.array (v :: done).reverse, rest)
      | _ => none

/-- The fields of a table on one line, after those that are read. -/
def fields? : Nat → Nat → Fields → Text → Option (Toml × Text)
  | 0, _, _, _ => none
  | fuel + 1, depth, done, t => do
    let (keys, rest) ← path? t
    let rest ← char? '=' rest
    let (v, rest) ← value? fuel depth (skipBlanks rest)
    let done ← assign keys v done
    match skipBlanks rest with
    | ',' :: rest => fields? fuel depth done rest
    | '}' :: rest => some ((Node.table false false done).toValue, rest)
    | _ => none

end

/-- A document that is being read: its fields, and the way to the table that the last header
opened. -/
structure Draft where
  fields : Fields := []
  current : List Text := []

/-- A header, after its first bracket. -/
def header? (d : Draft) (t : Text) : Option (Draft × Text) :=
  match t with
  | '[' :: rest => do
    let (keys, rest) ← path? rest
    let rest ← char? ']' rest
    let rest ← char? ']' rest
    let (before, key) ← splitLast? keys
    let fields ← Fields.update (pushTable key) (headerSteps before) d.fields
    some (⟨fields, keys⟩, rest)
  | _ => do
    let (keys, rest) ← path? t
    let rest ← char? ']' rest
    let (before, key) ← splitLast? keys
    let fields ← Fields.update (openTable key) (headerSteps before) d.fields
    some (⟨fields, keys⟩, rest)

def keyValue? (d : Draft) (t : Text) : Option (Draft × Text) := do
  let (keys, rest) ← path? t
  let rest ← char? '=' rest
  let (v, rest) ← value? (2 * t.length + 2) maxDepth (skipBlanks rest)
  let (before, key) ← splitLast? keys
  let fields ←
    Fields.update (insertValue key v) (headerSteps d.current ++ dottedSteps before) d.fields
  some (⟨fields, d.current⟩, rest)

/-- The expressions of a document, line by line. -/
def expressions? : Nat → Draft → Text → Option Draft
  | 0, _, _ => none
  | fuel + 1, d, t =>
    match skipBlanks t with
    | [] => some d
    | '#' :: _ | '\n' :: _ | '\r' :: _ => do
      let rest ← endLine? t
      expressions? fuel d rest
    | '[' :: rest => do
      let (d, rest) ← header? d rest
      let rest ← endLine? rest
      expressions? fuel d rest
    | t => do
      let (d, rest) ← keyValue? d t
      let rest ← endLine? rest
      expressions? fuel d rest

section Dates

/-- The key that makes a date of the table that starts with it. -/
def dateKey : Text := "$__toml_private_datetime".toList

mutual

/-- A value in which tables that stand for dates are dates. Such a table holds the text of the date
under its first key, whatever follows. -/
def withDates? : Toml → Option Toml
  | .array items => do
    let items ← itemsWithDates? items
    some (.array items)
  | .table [] => some (.table [])
  | .table ((key, v) :: rest) =>
    if key = dateKey then
      match v with
      | .text t => (wholeDate? t).map .date
      | _ => none
    else do
      let v ← withDates? v
      let rest ← fieldsWithDates? rest
      some (.table ((key, v) :: rest))
  | v => some v

def itemsWithDates? : List Toml → Option (List Toml)
  | [] => some []
  | v :: rest => do
    let v ← withDates? v
    let rest ← itemsWithDates? rest
    some (v :: rest)

def fieldsWithDates? : List (Text × Toml) → Option (List (Text × Toml))
  | [] => some []
  | (key, v) :: rest => do
    let v ← withDates? v
    let rest ← fieldsWithDates? rest
    some ((key, v) :: rest)

end

end Dates

/-- The fields of a document. A byte order mark at its start does not count. A document is a table,
so it cannot stand for a date. -/
def read? (t : Text) : Option (List (Text × Toml)) := do
  let t := match t with
    | c :: rest => if c.toNat = 0xFEFF then rest else t
    | [] => []
  let d ← expressions? (t.length + 1) {} t
  match ← withDates? (.table (fieldValues d.fields)) with
  | .table fields => some fields
  | _ => none

end ESharp.Toml
