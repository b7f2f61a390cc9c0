import ESharp.Toml.Reader

/-!
# Settings

A setting is a value of a configuration together with the file it came from. Settings are merged
under keys: a table is merged field by field, and everything else replaces what was there. Keys do
not tell upper case from lower case.
-/

namespace ESharp

/-- A setting without parts. -/
inductive Scalar
  | nil
  | boolean (b : Bool)
  | integer (n : Int)
  | float (x : Binary64)
  | text (t : Text)
  deriving DecidableEq, Repr

/-- A value of a configuration, with the file that it came from. -/
inductive Setting
  | scalar (origin : Option Text) (s : Scalar)
  | list (origin : Option Text) (items : List Setting)
  | table (origin : Option Text) (fields : List (Text × Setting))
  deriving Inhabited

namespace Setting

/-- The setting that says nothing. -/
def nil : Setting := .scalar none .nil

/-- A key in lower case. -/
def foldKey (key : Text) : Text := key.map Char.toLower

mutual

def ofToml (origin : Option Text) : Toml → Setting
  | .text t | .date t => .scalar origin (.text t)
  | .integer n => .scalar origin (.integer n)
  | .float x => .scalar origin (.float x)
  | .boolean b => .scalar origin (.boolean b)
  | .array items => .list origin (ofTomls origin items)
  | .table fields => .table origin (ofFields origin fields)

def ofTomls (origin : Option Text) : List Toml → List Setting
  | [] => []
  | v :: vs => ofToml origin v :: ofTomls origin vs

def ofFields (origin : Option Text) : List (Text × Toml) → List (Text × Setting)
  | [] => []
  | (k, v) :: rest => (k, ofToml origin v) :: ofFields origin rest

end

/-- The fields of a setting: none unless it is a table. -/
def fields : Setting → List (Text × Setting)
  | .table _ fields => fields
  | _ => []

/-- The items of a setting: none unless it is a list. -/
def items : Setting → List Setting
  | .list _ items => items
  | _ => []

/-- Where a setting comes from, if it is a table. -/
def tableOrigin : Setting → Option Text
  | .table origin _ => origin
  | _ => none

/-- Where a setting comes from, if it is a list. -/
def listOrigin : Setting → Option Text
  | .list origin _ => origin
  | _ => none

def field? (s : Setting) (key : Text) : Option Setting := s.fields.lookup key

mutual

/-- The setting with a value under a key. It becomes a table if it was none. A table goes field by
field into what was under the key. -/
def put (key : Text) : (value target : Setting) → Setting
  | .table _ incoming, target =>
    let old := (target.field? (foldKey key)).getD (.table none [])
    .table target.tableOrigin (Entries.set (foldKey key) (putAll incoming old) target.fields)
  | value, target => .table target.tableOrigin (Entries.set (foldKey key) value target.fields)

def putAll : (fields : List (Text × Setting)) → (target : Setting) → Setting
  | [], target => target
  | (key, value) :: rest, target => putAll rest (put key value target)

end

/-- One step of a key: the name of a field or the place of an item. -/
inductive KeyStep
  | field (name : Text)
  | item (index : Int)
  deriving DecidableEq, Repr

/-- The place of an item; a negative index counts from the end. -/
def itemPlace (index : Int) (length : Nat) : Nat :=
  if 0 ≤ index then index.toNat else length - index.natAbs

/-- Items with one changed; a list that is too short grows by settings that say nothing. -/
def changeItem (change : Setting → Setting) : Nat → List Setting → List Setting
  | 0, [] => [change nil]
  | 0, v :: vs => change v :: vs
  | n + 1, [] => nil :: changeItem change n []
  | n + 1, v :: vs => v :: changeItem change n vs

/-- The setting after a change at the end of a way. What is not there, or is of another kind than
the way asks for, is made. -/
def update (change : Setting → Setting) : List KeyStep → Setting → Setting
  | [], s => change s
  | .field name :: way, s =>
    let old := (s.field? (foldKey name)).getD nil
    .table s.tableOrigin (Entries.set (foldKey name) (update change way old) s.fields)
  | .item index :: way, s =>
    .list s.listOrigin (changeItem (update change way) (itemPlace index s.items.length) s.items)

/-- The setting with a value at the end of a key. -/
def assign (value : Setting) (key : List KeyStep) (s : Setting) : Setting :=
  match key.reverse with
  | [] => s
  | .field name :: way => update (put name value) way.reverse s
  | .item index :: way =>
    update (fun old => .list old.listOrigin
      (changeItem (fun _ => value) (itemPlace index old.items.length) old.items)) way.reverse s

section Keys

def isNameChar (c : Char) : Bool := Toml.isKeyChar c || c == ' '

/-- The integer between brackets, with blanks around it and perhaps a minus sign, that fits into 64
bits. -/
def index? (t : Text) : Option Int :=
  let t := Text.trim t
  let (negative, ds) := match t with
    | '-' :: ds => (true, ds)
    | ds => (false, ds)
  if ds ≠ [] ∧ ds.all Decimal.isDigit then do
    let n ← Decimal.natOf? 10 ds
    Toml.inRange (if negative then -(n : Int) else n)
  else none

/-- The steps after the first name of a key. -/
def laterSteps? : Nat → Text → Option (List KeyStep)
  | _, [] => some []
  | 0, _ => none
  | fuel + 1, '.' :: t =>
    let name := t.takeWhile isNameChar
    if name.isEmpty then none
    else (laterSteps? fuel (t.dropWhile isNameChar)).map (.field name :: ·)
  | fuel + 1, '[' :: t =>
    match t.dropWhile (· != ']') with
    | _ :: rest => do
      let index ← index? (t.takeWhile (· != ']'))
      (laterSteps? fuel rest).map (.item index :: ·)
    | [] => none
  | _, _ => none

/-- The steps of a written key: names after dots and indices in brackets. -/
def key? (t : Text) : Option (List KeyStep) :=
  let name := t.takeWhile isNameChar
  if name.isEmpty then none
  else (laterSteps? t.length (t.dropWhile isNameChar)).map (.field name :: ·)

end Keys

example : key? "a.b[ -1]".toList = some [.field ['a'], .field ['b'], .item (-1)] := by decide

example : key? "a[+1]".toList = none ∧ key? "a[]".toList = none := by decide

end Setting
end ESharp
