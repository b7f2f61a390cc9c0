import ESharp.Entries
import ESharp.Files.SystemFiles

/-!
# Directories

The files below a working directory, as a map from places to what is there, over the files of the
system. Places above the working directory are directories.
-/

namespace ESharp

inductive FileError
  | noEntry
  | notDirectory
  | isDirectory
  /-- A name, or the whole path, is too long. -/
  | tooLong
  /-- A path has a character of number zero. -/
  | zeroInName
  | notText
  deriving DecidableEq, Repr

def FileError.message : FileError → Text
  | noEntry => "No such file or directory (os error 2)".toList
  | notDirectory => "Not a directory (os error 20)".toList
  | isDirectory => "Is a directory (os error 21)".toList
  | tooLong => "File name too long (os error 36)".toList
  | zeroInName => "file name contained an unexpected NUL byte".toList
  | notText => "stream did not contain valid UTF-8".toList

/-- A working directory with the files below it, and those of the system. -/
structure Directory where
  entries : List (Place × Entity) := []
  /-- Where relative paths start. -/
  here : Place := []
  deriving DecidableEq, Repr

namespace Directory

def get? (d : Directory) (place : Place) : Option Entity :=
  if place.isAbove then some .directory
  else (d.entries.lookup place).orElse fun _ => SystemFiles.get? place

def set (d : Directory) (place : Place) (e : Entity) : Directory :=
  { d with entries := Entries.set place e d.entries }

def erase (d : Directory) (place : Place) : Directory :=
  { d with entries := d.entries.filter fun e => e.1 ≠ place }

/-- The directory with directories on the way to a place. -/
def makeParents (d : Directory) : (way rest : Place) → Directory
  | _, [] | _, [_] => d
  | way, name :: next :: rest =>
    let here := way ++ [name]
    let d := match d.get? here with
      | none => d.set here .directory
      | some _ => d
    makeParents d here (next :: rest)

/-- The place of a path, without a look at what stands there. -/
def placeOf (path : Text) : Place := Place.startOf [] path ++ Path.components path

/-- The files of a directory that another one does not have. -/
def changes (before after : Directory) : List (Text × Content) :=
  after.entries.filterMap fun (place, e) =>
    match e with
    | .file content _ =>
      if before.get? place = some e then none else some (Place.path place, content)
    | _ => none

/-- The directory with a file at a path, and directories on the way to it. -/
def add (d : Directory) (path : Text) (content : Content) (executable : Bool) : Directory :=
  let start := Place.startOf [] path
  let place := Path.components path
  (d.makeParents start place).set (start ++ place) (.file content executable)

/-- The longest name of a file, in bytes. -/
def maxName : Nat := 255

/-- The longest path, in bytes. -/
def maxPath : Nat := 4095

/-- The place that components lead to, seen from a directory. All but the last of them have to
lead to directories. -/
def walk (d : Directory) : (here : Place) → (components : List Text) → Except FileError Place
  | here, [] => .ok here
  | here, c :: rest =>
    match d.get? here with
    | none => .error .noEntry
    | some .directory =>
      if maxName < Text.bytes c then .error .tooLong
      else walk d (if c = Place.parentName then Place.parent here else here ++ [c]) rest
    | some _ => .error .notDirectory

def resolve (d : Directory) (path : Text) : Except FileError Place :=
  if path = [] then .error .noEntry
  else if path.any (·.toNat = 0) then .error .zeroInName
  else if maxPath < Text.bytes path then .error .tooLong
  else d.walk (Place.startOf d.here path) (Path.components path)

/-- What stands at a path. A path that can only name a directory names nothing else. -/
def find (d : Directory) (path : Text) : Except FileError Entity := do
  let place ← d.resolve path
  match d.get? place with
  | none => .error .noEntry
  | some .directory => .ok .directory
  | some e => if Path.endsInDirectory path then .error .notDirectory else .ok e

def isFile (d : Directory) (path : Text) : Bool :=
  match d.find path with
  | .ok e => e.stored?.isSome
  | .error _ => false

def readContent (d : Directory) (path : Text) : Except FileError Content := do
  match ← d.find path with
  | .directory => .error .isDirectory
  | e => .ok ((e.stored?.map Prod.fst).getD (.text []))

def read (d : Directory) (path : Text) : Except FileError Text := do
  match ← d.readContent path with
  | .text t => .ok t
  | .bytes _ => .error .notText

/-- The directory with a file written at a path; a file that is there keeps its mode. A path with a
slash at its end is taken for a directory, whatever stands there. -/
def writeContent (d : Directory) (path : Text) (content : Content) :
    Except FileError Directory := do
  let place ← d.resolve path
  if Path.endsInSlash path then .error .isDirectory
  else
    match d.get? place with
    | some .directory => .error .isDirectory
    | some e =>
      if Path.endsInDirectory path then .error .notDirectory
      else
        match e.stored? with
        | some (_, executable) => .ok (d.set place (.file content executable))
        | none => .ok d
    | none =>
      if Path.endsInDirectory path then .error .noEntry
      else .ok (d.set place (.file content false))

def write (d : Directory) (path t : Text) : Except FileError Directory :=
  d.writeContent path (.text t)

def enter (d : Directory) (path : Text) : Except FileError Directory := do
  match ← d.find path with
  | .directory => do
    let place ← d.resolve path
    .ok { d with here := place }
  | _ => .error .notDirectory

end Directory
end ESharp
