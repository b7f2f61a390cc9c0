import ESharp.Format
import ESharp.Files.Directory

/-!
# Source files

Reading a script from a file, processing it in a format, and writing what came out.
-/

namespace ESharp

inductive SourceError
  | unreadable (path : Text) (cause : FileError)
  | unwritable (path : Text) (cause : FileError)
  | format (e : FormatError)
  deriving DecidableEq, Repr

def SourceError.message : SourceError → Text
  | unreadable path cause => "failed to read ".toList ++ path ++ ": ".toList ++ cause.message
  | unwritable path cause => "failed to write ".toList ++ path ++ ": ".toList ++ cause.message
  | format e => e.message

namespace Source

def read (d : Directory) (path : Text) : Noted (Except SourceError Text) :=
  match d.read path with
  | .ok t => ⟨.ok t, [.readSource path (Text.bytes t)]⟩
  | .error e => ⟨.error (.unreadable path e), []⟩

def process (r : Registry) (layout : Layout) (d : Directory) (path name : Text) :
    Noted (Except SourceError Text) :=
  match read d path with
  | ⟨.error e, events⟩ => ⟨.error e, events⟩
  | ⟨.ok source, events⟩ =>
    ⟨match r.process layout name source with
      | .ok t => .ok t
      | .error e => .error (.format e),
      events ++ Registry.processEvents name source⟩

def write (d : Directory) (path t : Text) : Noted (Except SourceError Directory) :=
  match d.write path t with
  | .ok d => ⟨.ok d, [.wroteOutput path (Text.bytes t)]⟩
  | .error e => ⟨.error (.unwritable path e), []⟩

end Source
end ESharp
