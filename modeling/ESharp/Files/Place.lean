import ESharp.Files.Path

/-!
# Places

What can stand in a file system, and where. A place is the list of names that leads to it from the
working directory. The root of all files has a name of its own, and places above the working
directory have the name of the directory above.
-/

namespace ESharp

/-- What a file holds: a text, or bytes that are no text. -/
inductive Content
  | text (t : Text)
  | bytes (b : List UInt8)
  deriving DecidableEq, Repr

namespace Content

def ofBytes (b : List UInt8) : Content :=
  match String.fromUTF8? ⟨b.toArray⟩ with
  | some s => text s.toList
  | none => bytes b

def toBytes : Content → List UInt8
  | text t => (String.ofList t).toUTF8.toList
  | bytes b => b

def append (t : Text) : Content → Content
  | text old => text (old ++ t)
  | bytes old => ofBytes (old ++ toBytes (text t))

end Content

inductive Entity
  | directory
  | file (content : Content) (executable : Bool)
  /-- A device that takes everything and gives nothing. -/
  | void
  /-- A program of the system. -/
  | program (name : Text)
  deriving DecidableEq, Repr

/-- What a file holds, and whether it may be executed. A program of the system is a file that may,
and it is no text. -/
def Entity.stored? : Entity → Option (Content × Bool)
  | file content executable => some (content, executable)
  | program _ => some (.bytes [0x7F, 0x45, 0x4C, 0x46, 0xFF], true)
  | directory | void => none

/-- A place, seen from the working directory. -/
abbrev Place := List Text

namespace Place

def parentName : Text := "..".toList

def root : Place := [['/']]

/-- Whether a place is the working directory or above it. -/
def isAbove (p : Place) : Bool := p.all (· = parentName)

def parent (p : Place) : Place :=
  if p = root then root else if p.isAbove then p ++ [parentName] else p.dropLast

/-- The place at which a path starts, seen from a place. -/
def startOf (here : Place) (path : Text) : Place := if Path.isAbsolute path then root else here

def path : Place → Text
  | ['/'] :: names => '/' :: Path.ofComponents names
  | names => Path.ofComponents names

end Place

end ESharp
