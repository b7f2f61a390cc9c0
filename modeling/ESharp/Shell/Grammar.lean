import ESharp.Shell.Command

/-!
# Reading a script

A script is a list of commands, one complete command after the other. A complete command ends with
its line, so a script runs up to the first line that cannot be read.
-/

namespace ESharp.Shell

namespace Grammar

/-- The tokens of a script with their lines. -/
abbrev Tokens := List (Nat × Token)

/-- A fault of a script: its line and what is wrong. -/
abbrev Fault := Nat × Text

/-- A command and the tokens after it. -/
abbrev Parsed := Except Fault (Command × Tokens)

/-- The words that open, divide and close commands. -/
def reserved : List Text :=
  ["!", "\x7b", "\x7d", "case", "do", "done", "elif", "else", "esac", "fi", "for", "if", "in",
    "then", "until", "while"].map String.toList

/-- The names of the commands whose faults end a script and whose assignments stay. -/
def specialNames : List Text :=
  [":", ".", "break", "continue", "eval", "exec", "exit", "export", "readonly", "return", "set",
    "shift", "times", "trap", "unset"].map String.toList

def reserved? : Token → Option Text
  | .word w =>
    match w.literal? with
    | some t => if reserved.contains t then some t else none
    | none => none
  | _ => none

/-- The text of a token in a message. -/
def describe : Tokens → Text
  | [] => "end of file".toList
  | (_, .newline) :: _ => "newline".toList
  | (_, .operator op) :: _ => '"' :: op ++ ['"']
  | (_, .redirection _) :: _ => "redirection".toList
  | (_, .word w) :: _ =>
    match reserved? (.word w) with
    | some t => '"' :: t ++ ['"']
    | none => "word".toList
  | (_, .invalid) :: _ => "end of file".toList

/-- The fault of a token where another one should be. The line of the last token counts at the end
of a script. -/
def unexpected (lastLine : Nat) (expected : Text) (ts : Tokens) : Parsed :=
  let line := (ts.head?.map Prod.fst).getD lastLine
  match ts with
  | (_, .invalid) :: _ => .error (line, "Syntax error: Unterminated quoted string".toList)
  | _ =>
    let wanted := if expected = [] then [] else " (expecting \"".toList ++ expected ++ "\")".toList
    .error (line, "Syntax error: ".toList ++ describe ts ++ " unexpected".toList ++ wanted)

def skipNewlines : Tokens → Tokens
  | (_, .newline) :: ts => skipNewlines ts
  | ts => ts

/-- The tokens after a reserved word, if they start with it. -/
def expect (last : Nat) (word : String) (ts : Tokens) : Except Fault Tokens :=
  match ts with
  | (_, t) :: rest =>
    if reserved? t = some word.toList then .ok rest
    else (unexpected last word.toList ts).map Prod.snd
  | [] => (unexpected last word.toList ts).map Prod.snd

/-- The redirections at the start of some tokens, and the rest. -/
def redirections : Tokens → List Redirection × Tokens
  | (_, .redirection r) :: ts =>
    let (rs, rest) := redirections ts
    (r :: rs, rest)
  | ts => ([], ts)

/-- The name and the value of a word that is an assignment. -/
def assignment? : Word → Option (Text × Word)
  | .text false t :: w =>
    let name := t.takeWhile (· != '=')
    match t.dropWhile (· != '=') with
    | _ :: value =>
      if isName name then some (name, if value.isEmpty then w else .text false value :: w) else none
    | [] => none
  | _ => none

/-- A simple command: assignments before words, and redirections anywhere. -/
def simpleFrom (line : Nat) (as : List (Text × Word)) (ws : List Word) (rs : List Redirection) :
    Tokens → Command × Tokens
  | (_, .redirection r) :: ts => simpleFrom line as ws (rs ++ [r]) ts
  | (_, .word w) :: ts =>
    match ws, assignment? w with
    | [], some a => simpleFrom line (as ++ [a]) ws rs ts
    | _, _ => simpleFrom line as (ws ++ [w]) rs ts
  | ts => (.simple line as ws rs, ts)

/-- The words up to the end of a list of words, and the tokens from its end on. -/
def wordsOf : Tokens → List Word × Tokens
  | (_, .word w) :: ts =>
    let (ws, rest) := wordsOf ts
    (w :: ws, rest)
  | ts => ([], ts)

/-- The tokens after a separator of commands, and whether it is an ampersand. -/
def separator? : Tokens → Option (Bool × Tokens)
  | (_, .newline) :: ts => some (false, ts)
  | (_, .operator op) :: ts =>
    if op = [';'] then some (false, ts) else if op = ['&'] then some (true, ts) else none
  | _ => none

/-- A command with its redirections, if there are any. -/
def redirect (line : Nat) (c : Command) (ts : Tokens) : Command × Tokens :=
  match redirections ts with
  | ([], rest) => (c, rest)
  | (rs, rest) => (.redirected line c rs, rest)

def andThen : Command → Command → Command
  | .skip, c => c
  | c, .skip => c
  | a, b => .sequence a b

/-- The patterns of a case up to the closing bracket, and the tokens after it. -/
def patterns (last : Nat) : Tokens → Except Fault (List Word × Tokens)
  | (_, .word w) :: (_, .operator ['|']) :: ts => do
    let (ws, rest) ← patterns last ts
    .ok (w :: ws, rest)
  | (_, .word w) :: (_, .operator [')']) :: ts => .ok ([w], ts)
  | (_, .word _) :: ts => (unexpected last ")".toList ts).map fun r => ([], r.2)
  | ts => (unexpected last [] ts).map fun r => ([], r.2)

mutual

/-- Commands with separators between them, up to a token that starts none. At least one has to be
there unless `mayBeEmpty`. -/
def list : Nat → Nat → Bool → Tokens → Parsed
  | 0, last, _, ts => unexpected last [] ts
  | fuel + 1, last, mayBeEmpty, ts => do
    let ts := skipNewlines ts
    let ends := match ts with
      | [] => true
      | (_, .operator op) :: _ => op = [')'] || op = ";;".toList
      | (_, t) :: _ =>
        match reserved? t with
        | some w => ["then", "else", "elif", "fi", "do", "done", "esac", "\x7d"].any (·.toList == w)
        | none => false
    if ends then
      if mayBeEmpty then .ok (.skip, ts) else unexpected last [] ts
    else
      let (c, ts) ← andOr fuel last ts
      match separator? ts with
      | some (inBackground, ts) =>
        let c := if inBackground then .background c else c
        let (more, ts) ← list fuel last true ts
        .ok (andThen c more, ts)
      | none => .ok (c, ts)

/-- Pipelines that depend on the ones before them. -/
def andOr : Nat → Nat → Tokens → Parsed
  | 0, last, ts => unexpected last [] ts
  | fuel + 1, last, ts => do
    let (c, ts) ← pipeline fuel last ts
    andOrFrom fuel last c ts

/-- The pipelines that depend on a command. -/
def andOrFrom : Nat → Nat → Command → Tokens → Parsed
  | 0, last, _, ts => unexpected last [] ts
  | fuel + 1, last, c, ts =>
    match ts with
    | (_, .operator ['&', '&']) :: ts => do
      let (d, ts) ← pipeline fuel last (skipNewlines ts)
      andOrFrom fuel last (.both c d) ts
    | (_, .operator ['|', '|']) :: ts => do
      let (d, ts) ← pipeline fuel last (skipNewlines ts)
      andOrFrom fuel last (.either c d) ts
    | ts => .ok (c, ts)

/-- Commands that read from one another, perhaps negated. -/
def pipeline : Nat → Nat → Tokens → Parsed
  | 0, last, ts => unexpected last [] ts
  | fuel + 1, last, ts =>
    match ts with
    | [] => unexpected last [] ts
    | (_, t) :: rest => do
      let negated := reserved? t = some ['!']
      let (c, ts) ← command fuel last (if negated then rest else ts)
      let (cs, ts) ← stages fuel last ts
      let c := if cs.isEmpty then c else .pipeline (c :: cs)
      .ok (if negated then .negated c else c, ts)

def stages : Nat → Nat → Tokens → Except Fault (List Command × Tokens)
  | 0, _, ts => .ok ([], ts)
  | fuel + 1, last, ts =>
    match ts with
    | (_, .operator ['|']) :: ts => do
      let (c, ts) ← command fuel last (skipNewlines ts)
      let (cs, ts) ← stages fuel last ts
      .ok (c :: cs, ts)
    | ts => .ok ([], ts)

def command : Nat → Nat → Tokens → Parsed
  | 0, last, ts => unexpected last [] ts
  | fuel + 1, last, ts =>
    match ts with
    | [] => unexpected last [] ts
    | (line, .operator ['(']) :: rest => do
      let (c, rest) ← list fuel last false rest
      match rest with
      | (_, .operator [')']) :: rest => .ok (redirect line (.subshell c) rest)
      | _ => unexpected last ")".toList rest
    | (line, .word w) :: (_, .operator ['(']) :: (_, .operator [')']) :: rest =>
      match w.literal? with
      | some name =>
        if isName name && !specialNames.contains name then do
          let (body, rest) ← command fuel last (skipNewlines rest)
          .ok (.define name body, rest)
        else .error (line, "Syntax error: Bad function name".toList)
      | none => .error (line, "Syntax error: Bad function name".toList)
    | (line, t) :: rest =>
      match t, (reserved? t).map String.ofList with
      | _, some "\x7b" => do
        let (c, rest) ← list fuel last false rest
        let rest ← expect last "\x7d" rest
        .ok (redirect line c rest)
      | _, some "if" => do
        let (c, rest) ← conditional fuel last rest
        .ok (redirect line c rest)
      | _, some "while" => do
        let (condition, rest) ← list fuel last false rest
        let (body, rest) ← doGroup fuel last rest
        .ok (redirect line (.loop true condition body) rest)
      | _, some "until" => do
        let (condition, rest) ← list fuel last false rest
        let (body, rest) ← doGroup fuel last rest
        .ok (redirect line (.loop false condition body) rest)
      | _, some "for" => do
        let (c, rest) ← forLoop fuel last rest
        .ok (redirect line c rest)
      | _, some "case" =>
        match rest with
        | (_, .word w) :: rest => do
          let rest ← expect last "in" (skipNewlines rest)
          let (cs, rest) ← cases fuel last (skipNewlines rest)
          .ok (redirect line (.choice line w cs) rest)
        | _ => unexpected last [] rest
      | _, some "in" | .word _, none | .redirection _, none => .ok (simpleFrom line [] [] [] ts)
      | _, _ => unexpected last [] ts

/-- A condition, what to do if it holds, and what to do if not. -/
def conditional : Nat → Nat → Tokens → Parsed
  | 0, last, ts => unexpected last [] ts
  | fuel + 1, last, ts => do
    let (condition, ts) ← if (skipNewlines ts).isEmpty then unexpected last "then".toList []
      else list fuel last false ts
    let ts ← expect last "then" ts
    let (yes, ts) ← list fuel last false ts
    match ts with
    | (_, t) :: rest =>
      match (reserved? t).map String.ofList with
      | some "elif" => do
        let (no, rest) ← conditional fuel last rest
        .ok (.branch condition yes no, rest)
      | some "else" => do
        let (no, rest) ← list fuel last false rest
        let rest ← expect last "fi" rest
        .ok (.branch condition yes no, rest)
      | _ => do
        let rest ← expect last "fi" ts
        .ok (.branch condition yes .skip, rest)
    | [] => unexpected last "fi".toList ts

def doGroup : Nat → Nat → Tokens → Parsed
  | 0, last, ts => unexpected last [] ts
  | fuel + 1, last, ts => do
    let ts ← expect last "do" (skipNewlines ts)
    let (body, ts) ← list fuel last false ts
    let ts ← expect last "done" ts
    .ok (body, ts)

/-- A loop over words, after its first word. -/
def forLoop : Nat → Nat → Tokens → Parsed
  | 0, last, ts => unexpected last [] ts
  | fuel + 1, last, ts =>
    match ts with
    | (line, .word w) :: rest =>
      match w.literal? with
      | some name =>
        if isName name then do
          let (words, rest) : Option (List Word) × Tokens := match skipNewlines rest with
            | (l, t) :: more =>
              if reserved? t = some "in".toList then
                let (ws, more) := wordsOf more
                (some ws, more)
              else (none, (l, t) :: more)
            | [] => (none, [])
          let rest := match rest with
            | (_, .operator [';']) :: rest => rest
            | rest => rest
          let (body, rest) ← doGroup fuel last rest
          .ok (.each line name words body, rest)
        else .error (line, "Syntax error: Bad for loop variable".toList)
      | none => .error (line, "Syntax error: Bad for loop variable".toList)
    | _ => .error (last, "Syntax error: Bad for loop variable".toList)

/-- The cases of a choice, up to its end. -/
def cases : Nat → Nat → Tokens → Except Fault (List (List Word × Command) × Tokens)
  | 0, last, ts => (unexpected last [] ts).map fun r => ([], r.2)
  | fuel + 1, last, ts =>
    match ts with
    | [] => (unexpected last "esac".toList ts).map fun r => ([], r.2)
    | (_, t) :: rest =>
      if reserved? t = some "esac".toList then .ok ([], rest)
      else do
        let ts := match t with
          | .operator ['('] => rest
          | _ => ts
        let (ws, ts) ← patterns last ts
        let (body, ts) ← list fuel last true ts
        match ts with
        | (_, .operator [';', ';']) :: ts => do
          let (more, ts) ← cases fuel last (skipNewlines ts)
          .ok ((ws, body) :: more, ts)
        | ts => do
          let ts ← expect last "esac" ts
          .ok ([(ws, body)], ts)

end

/-- The commands up to the end of a line. -/
def lineFrom : Nat → Nat → Tokens → Parsed
  | 0, last, ts => unexpected last [] ts
  | fuel + 1, last, ts => do
    let (c, ts) ← andOr fuel last ts
    match ts with
    | [] => .ok (c, [])
    | (_, .newline) :: ts => .ok (c, ts)
    | ts =>
      match separator? ts with
      | none => unexpected last [] ts
      | some (inBackground, ts) =>
        let c := if inBackground then .background c else c
        match ts with
        | [] => .ok (c, [])
        | (_, .newline) :: ts => .ok (c, ts)
        | ts => do
          let (more, ts) ← lineFrom fuel last ts
          .ok (andThen c more, ts)

/-- The next complete command of a script, if there is one, and the tokens after it. -/
def next? (last : Nat) (ts : Tokens) : Option Parsed :=
  match skipNewlines ts with
  | [] => none
  | ts => some (lineFrom (8 * ts.length + 16) last ts)

end Grammar
end ESharp.Shell
