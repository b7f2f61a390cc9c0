import ESharp.Shell.Token

/-!
# Commands of a script

Commands are simple, with words on a line, or put together from others.
-/

namespace ESharp.Shell

inductive Command
  /-- Assignments and words on a line. -/
  | simple (line : Nat) (assignments : List (Text × Word)) (words : List Word)
      (redirections : List Redirection)
  /-- Commands that read what the one before them prints. -/
  | pipeline (stages : List Command)
  | negated (c : Command)
  /-- The second command runs if the first one succeeds. -/
  | both (first second : Command)
  /-- The second command runs if the first one fails. -/
  | either (first second : Command)
  | sequence (first second : Command)
  | background (c : Command)
  | subshell (c : Command)
  | branch (condition yes no : Command)
  /-- The body runs as long as the condition succeeds, or fails. -/
  | loop (whileTrue : Bool) (condition body : Command)
  /-- The body runs for each word, or for each argument. -/
  | each (line : Nat) (name : Text) (words : Option (List Word)) (body : Command)
  | choice (line : Nat) (word : Word) (cases : List (List Word × Command))
  | define (name : Text) (body : Command)
  | redirected (line : Nat) (c : Command) (redirections : List Redirection)
  /-- Nothing. -/
  | skip
  deriving Inhabited

end ESharp.Shell
