import ESharp.Entries
import ESharp.Number.Binary64

/-!
# TOML documents

The values of a TOML document, and the tree in which a document is collected. A table of the tree
remembers how it came to be: a table that was only passed through on the way to another may still
get a header of its own, and a table that dotted keys made may get more dotted keys.
-/

namespace ESharp

/-- A TOML value. A date or a time is its own text. -/
inductive Toml
  | text (t : Text)
  | integer (n : Int)
  | float (x : Binary64)
  | boolean (b : Bool)
  | date (t : Text)
  | array (items : List Toml)
  | table (fields : List (Text × Toml))

namespace Toml

/-- A place of a document that is being read. -/
inductive Node
  /-- A value that is complete. -/
  | value (v : Toml)
  /-- A table, with the flags "only passed through" and "made by dotted keys". -/
  | table (implied dotted : Bool) (fields : List (Text × Node))
  /-- The tables of an array of tables, the last one first. -/
  | tables (last : List (Text × Node)) (earlier : List (List (Text × Node)))

abbrev Fields := List (Text × Node)

def Fields.find? (fields : Fields) (key : Text) : Option Node := fields.lookup key

/-- How a key on the way to a table is written: in a header or before a dot. -/
structure Step where
  key : Text
  dotted : Bool

/-- The fields of a table after a change at the end of a path. Missing tables on the way are made;
a value ends every path, the last table of an array stands for the array, and dotted keys enter
only tables that were not written out. -/
def Fields.update (change : Fields → Option Fields) : List Step → Fields → Option Fields
  | [], fields => change fields
  | step :: path, fields =>
    match fields.find? step.key with
    | none => do
      let inner ← Fields.update change path []
      some (Entries.set step.key (.table true step.dotted inner) fields)
    | some (.value _) => none
    | some (.tables last earlier) =>
      if step.dotted && path.isEmpty then none
      else do
        let inner ← Fields.update change path last
        some (Entries.set step.key (.tables inner earlier) fields)
    | some (.table implied dotted old) =>
      if step.dotted && (!implied || (path.isEmpty && !dotted)) then none
      else do
        let inner ← Fields.update change path old
        some (Entries.set step.key (.table implied dotted inner) fields)

def headerSteps (keys : List Text) : List Step := keys.map fun k => ⟨k, false⟩

def dottedSteps (keys : List Text) : List Step := keys.map fun k => ⟨k, true⟩

def insertValue (key : Text) (v : Toml) (fields : Fields) : Option Fields :=
  match fields.find? key with
  | some _ => none
  | none => some (Entries.set key (.value v) fields)

/-- A table that gets its header. -/
def openTable (key : Text) (fields : Fields) : Option Fields :=
  match fields.find? key with
  | none => some (Entries.set key (.table false false []) fields)
  | some (.table true false inner) => some (Entries.set key (.table false false inner) fields)
  | some _ => none

/-- One more table of an array of tables. -/
def pushTable (key : Text) (fields : Fields) : Option Fields :=
  match fields.find? key with
  | none => some (Entries.set key (.tables [] []) fields)
  | some (.tables last earlier) => some (Entries.set key (.tables [] (last :: earlier)) fields)
  | some _ => none

/-- A path as the keys on the way and the last key. -/
def splitLast? (keys : List Text) : Option (List Text × Text) :=
  match keys.reverse with
  | [] => none
  | k :: ks => some (ks.reverse, k)

mutual

/-- The value at a place that is complete. -/
def Node.toValue : Node → Toml
  | .value v => v
  | .table _ _ fields => .table (fieldValues fields)
  | .tables last earlier => .array (tableValues earlier (.table (fieldValues last) :: []))

def fieldValues : List (Text × Node) → List (Text × Toml)
  | [] => []
  | (k, n) :: rest => (k, n.toValue) :: fieldValues rest

/-- The tables of an array, the last one first, before those that are done. -/
def tableValues : List (List (Text × Node)) → List Toml → List Toml
  | [], done => done
  | fields :: rest, done => tableValues rest (.table (fieldValues fields) :: done)

end

end Toml
end ESharp
