import ESharp.Text.Basic

/-!
# Events

What a run reports besides its result. Events are values: an operation that reports something
has a companion that lists what it reports, in order.
-/

namespace ESharp

inductive Level
  | debug
  | info
  | warn
  deriving DecidableEq, Repr

def Level.name : Level → Text
  | debug => "DEBUG".toList
  | info => "INFO".toList
  | warn => "WARN".toList

inductive Event
  /-- A split met the end of its text inside a literal or with brackets left open. -/
  | unclosedSplit (text : Text) (inLiteral : Bool) (depth : Int)
  /-- A line starts like a loop header and is none. -/
  | notLoopHeader (line : Text)
  /-- A source was read line by line, for output in a format. -/
  | classifiedSource (lines : Nat) (format : Text)
  /-- A source file was read. -/
  | readSource (path : Text) (bytes : Nat)
  /-- An output file was written. -/
  | wroteOutput (path : Text) (bytes : Nat)
  /-- A temporary source was written. -/
  | wroteTemporary (path : Text)
  /-- A source was opened in an editor. -/
  | openedSource (editor : Text)
  /-- There is no editor in which to show a source. -/
  | noEditor
  /-- A compiler was started with arguments. -/
  | startedCompiler (compiler : Text) (args : List Text)
  /-- A compiler ended with a bad status. -/
  | compilerFailed (compiler status : Text)
  deriving DecidableEq, Repr

namespace Event

def level : Event → Level
  | unclosedSplit .. | notLoopHeader .. | classifiedSource .. => .debug
  | readSource .. | wroteOutput .. | wroteTemporary .. | openedSource .. | startedCompiler .. => .info
  | noEditor | compilerFailed .. => .warn

def message : Event → Text
  | unclosedSplit .. => "value split ended inside a literal or grouping".toList
  | notLoopHeader .. => "for line is not a loop header, passing through".toList
  | classifiedSource .. => "classified source".toList
  | readSource .. => "read source".toList
  | wroteOutput .. => "wrote output".toList
  | wroteTemporary .. => "wrote temporary C# source".toList
  | openedSource .. => "opened generated source".toList
  | startedCompiler .. => "running compiler".toList
  | compilerFailed .. => "compiler failed".toList
  | noEditor => "--show requested but no editor is configured (toolchain.editor)".toList

end Event

/-- A result together with the events reported on the way to it. -/
structure Noted (α : Type) where
  value : α
  events : List Event

end ESharp
