import ESharp.Process.Basic

/-!
# Commands

The small programs that a system always has. Each gets its input and its arguments.
-/

namespace ESharp.Process

section Arguments

/-- The letters of the flags before the other arguments, and the other arguments. -/
def flags : List Text → Text × List Text
  | ['-', '-'] :: rest => ([], rest)
  | ('-' :: c :: letters) :: rest =>
    let (more, rest) := flags rest
    (c :: letters ++ more, rest)
  | rest => ([], rest)

/-- A program that does the same for each of its arguments. -/
def forEach (step : Directory → Text → Outcome) (d : Directory) : List Text → Outcome
  | [] => done d []
  | a :: rest =>
    let first := step d a
    Outcome.after first (forEach step first.directory rest)

end Arguments

section Files

/-- The texts of files one after the other; a dash, or no file at all, stands for the input. -/
def cat (d : Directory) (input : Text) (args : List Text) : Outcome :=
  let show1 (d : Directory) (path : Text) : Outcome :=
    if path = ['-'] then done d input
    else
      match d.read path with
      | .ok t => done d t
      | .error .notText => done d []
      | .error e => failed d 1 ("cat: ".toList ++ path ++ ": ".toList ++ cause e ++ ['\n'])
  match (flags args).2 with
  | [] => done d input
  | paths => forEach show1 d paths

/-- Where a copy of a file goes: into a directory under its own name, or to the path itself. -/
def target (d : Directory) (source goal : Text) : Text :=
  match d.find goal with
  | .ok .directory => goal ++ '/' :: (Path.fileName? source).getD []
  | _ => goal

def isExecutable (d : Directory) (path : Text) : Bool :=
  match d.find path with
  | .ok .directory => true
  | .ok e => e.stored?.any Prod.snd
  | .error _ => false

def copyTree (d : Directory) (source goal : Place) : Directory :=
  let copies := d.entries.filterMap fun (p, e) =>
    if source.isPrefixOf p then some (goal ++ p.drop source.length, e) else none
  copies.foldl (fun d (p, e) => d.set p e) d

/-- A copy of one file, and with `deep` of a directory. -/
def copyOne (deep : Bool) (goal : Text) (d : Directory) (source : Text) : Outcome :=
  let path := target d source goal
  let refuse (t : Text) : Outcome := failed d 1 ("cp: ".toList ++ t ++ ['\n'])
  match d.readContent source with
  | .error .isDirectory =>
    if deep then
      match d.resolve source, d.resolve path with
      | .ok a, .ok b => done (copyTree d a b) []
      | _, _ => refuse ("cannot create directory ".toList ++ quote path ++
          ": No such file or directory".toList)
    else refuse ("-r not specified; omitting directory ".toList ++ quote source)
  | .error e => refuse ("cannot stat ".toList ++ quote source ++ ": ".toList ++ cause e)
  | .ok content =>
    match d.resolve source, d.resolve path with
    | .ok a, .ok b =>
      if a = b then
        refuse (quote source ++ " and ".toList ++ quote path ++ " are the same file".toList)
      else
        match d.writeContent path content with
        | .ok after =>
          match d.get? b with
          | none => done (after.set b (.file content (isExecutable d source))) []
          | some _ => done after []
        | .error _ =>
          refuse ("cannot create regular file ".toList ++ quote path ++ ": Not a directory".toList)
    | _, .error .notDirectory =>
      refuse ("failed to access ".toList ++ quote path ++ ": Not a directory".toList)
    | _, _ =>
      refuse ("cannot create regular file ".toList ++ quote path ++
        ": No such file or directory".toList)

def copyUsage : Text := "Try 'cp --help' for more information.\n".toList

/-- Copies files: the last argument is where they go. -/
def copy (d : Directory) (args : List Text) : Outcome :=
  let (letters, args) := flags args
  let deep := letters.any fun c => c == 'r' || c == 'R' || c == 'a'
  match args.reverse with
  | [] => failed d 1 ("cp: missing file operand\n".toList ++ copyUsage)
  | [source] =>
    failed d 1 ("cp: missing destination file operand after ".toList ++ quote source ++
      '\n' :: copyUsage)
  | goal :: sources =>
    match sources, d.find goal with
    | [_], _ | _, .ok .directory => forEach (copyOne deep goal) d sources.reverse
    | _, _ => failed d 1 ("cp: target ".toList ++ quote goal ++ ": Not a directory\n".toList)

/-- An empty file where there is none. -/
def touch (d : Directory) (path : Text) : Outcome :=
  match d.find path with
  | .ok _ => done d []
  | .error _ =>
    match d.write path [] with
    | .ok d => done d []
    | .error e =>
      failed d 1 ("touch: cannot touch ".toList ++ quote path ++ ": ".toList ++ cause e ++ ['\n'])

/-- No file where there was one, and with `deep` no directory. -/
def remove (force deep : Bool) (d : Directory) (path : Text) : Outcome :=
  let refuse (t : Text) : Outcome :=
    failed d 1 ("rm: cannot remove ".toList ++ quote path ++ ": ".toList ++ t ++ ['\n'])
  match d.find path, d.resolve path with
  | .ok .directory, .ok place =>
    if deep then
      done { d with entries := d.entries.filter fun e => !place.isPrefixOf e.1 } []
    else refuse "Is a directory".toList
  | .ok _, .ok place => done (d.erase place) []
  | .error .noEntry, _ => if force then done d [] else refuse "No such file or directory".toList
  | .error e, _ | _, .error e => refuse (cause e)

/-- A directory where there is none; with `parents` also those on the way, and none has to be
missing. -/
def makeDirectory (parents : Bool) (d : Directory) (path : Text) : Outcome :=
  let refuse (reason : Text) := failed d 1
    ("mkdir: cannot create directory ".toList ++ quote path ++ ": ".toList ++ reason ++ ['\n'])
  if parents then
    let place := Place.startOf d.here path ++ Path.components path
    let after := d.makeParents [] (place ++ [[]])
    match d.find path with
    | .ok .directory => done d []
    | .ok _ => refuse "File exists".toList
    | .error .notDirectory => refuse "Not a directory".toList
    | .error _ => done after []
  else
    match d.resolve path with
    | .error e => refuse (cause e)
    | .ok place =>
      match d.get? place with
      | some _ => refuse "File exists".toList
      | none => done (d.set place .directory) []

def moveOne (goal : Text) (d : Directory) (source : Text) : Outcome :=
  let path := target d source goal
  let refuse (t : Text) : Outcome := failed d 1 ("mv: ".toList ++ t ++ ['\n'])
  match d.find source, d.resolve source, d.resolve path with
  | .ok _, .ok a, .ok b =>
    if a = b then
      refuse (quote source ++ " and ".toList ++ quote path ++ " are the same file".toList)
    else
      let after := copyTree (d.erase b) a b
      done { after with entries := after.entries.filter fun e => !a.isPrefixOf e.1 } []
  | .error e, _, _ => refuse ("cannot stat ".toList ++ quote source ++ ": ".toList ++ cause e)
  | _, _, _ =>
    refuse ("cannot move ".toList ++ quote source ++ " to ".toList ++ quote path ++
      ": No such file or directory".toList)

/-- Moves files: the last argument is where they go. -/
def move (d : Directory) (args : List Text) : Outcome :=
  match (flags args).2.reverse with
  | [] => failed d 1 "mv: missing file operand\nTry 'mv --help' for more information.\n".toList
  | [source] =>
    failed d 1 ("mv: missing destination file operand after ".toList ++ quote source ++
      "\nTry 'mv --help' for more information.\n".toList)
  | goal :: sources => forEach (moveOne goal) d sources.reverse

/-- Whether a mode lets a file be executed: an octal number, or letters around a sign. -/
def modeExecutes? (mode : Text) : Option Bool :=
  match Decimal.natOf? 8 mode with
  | some n => some (n / 64 % 2 = 1 || n / 8 % 2 = 1 || n % 2 = 1)
  | none =>
    match mode.dropWhile (fun c => "ugoa".toList.contains c) with
    | '+' :: letters => if letters.contains 'x' then some true else none
    | '-' :: letters => if letters.contains 'x' then some false else none
    | _ => none

def changeMode (d : Directory) (args : List Text) : Outcome :=
  match args with
  | mode :: paths =>
    forEach (fun d path =>
      match d.find path, d.resolve path with
      | .ok (.file c executable), .ok place =>
        done (d.set place (.file c ((modeExecutes? mode).getD executable))) []
      | .ok _, _ => done d []
      | .error e, _ => failed d 1
          ("chmod: cannot access ".toList ++ quote path ++ ": ".toList ++ cause e ++ ['\n'])) d paths
  | [] => failed d 1 "chmod: missing operand\n".toList

end Files

section Printing

/-- The number of up to some octal digits at the start of a text, and the rest. -/
def octal : Nat → Nat → Text → Nat × Text
  | 0, n, t => (n, t)
  | tries + 1, n, c :: t =>
    if '0' ≤ c ∧ c ≤ '7' then octal tries (n * 8 + (c.toNat - '0'.toNat)) t else (n, c :: t)
  | _, n, [] => (n, [])

/-- The character of an escape with one letter. -/
def escaped? : Char → Option Char
  | 'n' => some '\n'
  | 't' => some '\t'
  | 'r' => some '\r'
  | 'a' => some '\x07'
  | 'b' => some '\x08'
  | 'f' => some '\x0c'
  | 'v' => some '\x0b'
  | 'e' => some '\x1b'
  | '\\' => some '\\'
  | _ => none

/-- A text with its escapes replaced, and whether an escape ends all output. An octal number has a
zero before its digits if `zero`. -/
def unescape (zero : Bool) : Nat → Text → Text × Bool
  | _, [] => ([], false)
  | 0, t => (t, false)
  | fuel + 1, '\\' :: c :: t =>
    match escaped? c with
    | some d =>
      let (u, ended) := unescape zero fuel t
      (d :: u, ended)
    | none =>
      if c = 'c' then ([], true)
      else if c = '0' ∨ (!zero ∧ '0' ≤ c ∧ c ≤ '7') then
        let (n, t) := octal 3 0 (if zero then t else c :: t)
        let (u, ended) := unescape zero fuel t
        (Char.ofNat (n % 256) :: u, ended)
      else
        let (u, ended) := unescape zero fuel (c :: t)
        ('\\' :: u, ended)
  | fuel + 1, c :: t =>
    let (u, ended) := unescape zero fuel t
    (c :: u, ended)

/-- The words with spaces between them, and a line feed unless the first word is `-n`. -/
def echo (d : Directory) (args : List Text) : Outcome :=
  let (words, ending) := match args with
    | ['-', 'n'] :: rest => (rest, [])
    | words => (words, ['\n'])
  let t := Text.join [' '] words
  let (u, ended) := unescape true (t.length + 1) t
  done d (if ended then u else u ++ ending)

/-- A directive of a format: flags, width, precision and letter. -/
structure Directive where
  flags : Text := []
  width : Nat := 0
  precision : Option Nat := none
  letter : Char := 's'

/-- The directive after a percent sign, and the rest. -/
def directive? (t : Text) : Option (Directive × Text) :=
  let isFlag := fun c => "-+ #0".toList.contains c
  let flags := t.takeWhile isFlag
  let t := t.dropWhile isFlag
  let width := (Decimal.natOf? 10 (t.takeWhile Char.isDigit)).getD 0
  let t := t.dropWhile Char.isDigit
  let (precision, t) := match t with
    | '.' :: t =>
      (some ((Decimal.natOf? 10 (t.takeWhile Char.isDigit)).getD 0), t.dropWhile Char.isDigit)
    | t => (none, t)
  match t with
  | c :: rest => some (⟨flags, width, precision, c⟩, rest)
  | [] => none

/-- A text in a field of some width. -/
def Directive.pad (f : Directive) (t : Text) : Text :=
  let missing := f.width - t.length
  if f.flags.contains '-' then t ++ List.replicate missing ' '
  else if f.flags.contains '0' ∧ f.letter ≠ 's' then
    match t with
    | '-' :: ds => '-' :: List.replicate missing '0' ++ ds
    | ds => List.replicate missing '0' ++ ds
  else List.replicate missing ' ' ++ t

def integer? (t : Text) : Option Int :=
  let (negative, ds) := Decimal.takeSign (Text.trim t)
  (Decimal.natOf? 10 ds).map fun n => if negative then -(n : Int) else n

/-- The number at the start of a text, and the rest: octal after a zero, hexadecimal after a zero
and an x, and the code of a character after a quote. -/
def leadingNumber (t : Text) : Int × Text :=
  match t with
  | '\'' :: c :: _ | '"' :: c :: _ => (c.toNat, [])
  | _ =>
    let (negative, u) := Decimal.takeSign (t.dropWhile Text.isBlank)
    let (base, ds) := match u with
      | '0' :: 'x' :: ds => (16, ds)
      | '0' :: ds => (8, '0' :: ds)
      | ds => (10, ds)
    let isDigit := fun c => (Decimal.pushDigit? base 0 c).isSome
    match Decimal.natOf? base (ds.takeWhile isDigit) with
    | some n => (if negative then -(n : Int) else n, ds.dropWhile isDigit)
    | none => (0, t)

/-- An argument as a directive asks for it, and what is wrong with it. -/
def Directive.apply (f : Directive) (arg : Text) : Text × Option Text :=
  match f.letter with
  | 's' => (f.pad (match f.precision with
    | some p => arg.take p
    | none => arg), none)
  | 'b' => (f.pad (unescape true (arg.length + 1) arg).1, none)
  | 'c' => (f.pad (arg.take 1), none)
  | letter =>
    let (n, rest) := leadingNumber arg
    let fault := if arg = [] ∨ rest = [] then none
      else if rest = arg then some (arg ++ ": expected numeric value".toList)
      else some (arg ++ ": not completely converted".toList)
    let sign : Text := if n < 0 then []
      else if f.flags.contains '+' then ['+'] else if f.flags.contains ' ' then [' '] else []
    let digits := match letter with
      | 'x' => Nat.toDigits 16 n.toNat
      | 'X' => (Nat.toDigits 16 n.toNat).map Char.toUpper
      | 'o' => Nat.toDigits 8 n.toNat
      | _ => sign ++ Text.ofInt n
    (f.pad digits, fault)

/-- What one or more passes over a format print. -/
structure Printed where
  output : Text := []
  /-- What is wrong with arguments. -/
  faults : List Text := []
  /-- A directive that there is not, which ends everything. -/
  bad : Option Text := none
  /-- The arguments that are left. -/
  rest : List Text := []

def formatOnce : Nat → Text → List Text → Printed
  | 0, _, args | _, [], args => { rest := args }
  | fuel + 1, '%' :: '%' :: t, args =>
    let p := formatOnce fuel t args
    { p with output := '%' :: p.output }
  | fuel + 1, '%' :: t, args =>
    match directive? t with
    | some (f, rest) =>
      if "sbcdiouxX".toList.contains f.letter then
        let (out, fault) := f.apply (args.head?.getD [])
        let p := formatOnce fuel rest args.tail
        { p with output := out ++ p.output, faults := fault.toList ++ p.faults }
      else { bad := some ('%' :: t.take (t.length - rest.length)) }
    | none => { bad := some ('%' :: t) }
  | fuel + 1, c :: t, args =>
    let p := formatOnce fuel t args
    { p with output := c :: p.output }

/-- A format is used again as long as arguments are left. -/
def formatAll : Nat → Text → List Text → Printed
  | 0, _, args => { rest := args }
  | fuel + 1, format, args =>
    let p := formatOnce (format.length + 1) format args
    if p.bad.isSome ∨ p.rest.isEmpty ∨ p.rest.length = args.length then p
    else
      let q := formatAll fuel format p.rest
      { q with output := p.output ++ q.output, faults := p.faults ++ q.faults }

def printf (d : Directory) (args : List Text) : Outcome :=
  let args := match args with
    | ['-', '-'] :: rest => rest
    | args => args
  match args with
  | [] => failed d 2 "printf: usage: printf format [arg ...]\n".toList
  | format :: rest =>
    let (format, ended) := unescape false (format.length + 1) format
    let p := formatAll (if ended then 1 else rest.length + 1) format rest
    let faults := match p.bad with
      | some t => p.faults ++ [t ++ ": invalid directive".toList]
      | none => p.faults
    { directory := d
      status := .exited (if p.bad.isSome then 2 else if faults.isEmpty then 0 else 1)
      output := p.output
      errors := faults.flatMap fun t => "printf: ".toList ++ t ++ ['\n'] }

end Printing

section Conditions

def binaryOperators : List Text :=
  ["=", "==", "!=", "<", ">", "-eq", "-ne", "-lt", "-le", "-gt", "-ge", "-nt", "-ot", "-ef"].map
    String.toList

def unaryOperators : List Text :=
  ["-n", "-z", "-e", "-r", "-w", "-O", "-G", "-f", "-d", "-c", "-s", "-x", "-h", "-L", "-p", "-S",
    "-b", "-t", "-u", "-g", "-k"].map String.toList

/-- The integer of 64 bits that a text stands for, or what is wrong with it. -/
def operand (t : Text) : Except Text Int :=
  match integer? t with
  | some n =>
    if -0x8000000000000000 ≤ n ∧ n < 0x8000000000000000 then .ok n
    else .error ("Illegal number: ".toList ++ t)
  | none => .error ("Illegal number: ".toList ++ t)

def isNonempty (d : Directory) (path : Text) : Bool :=
  match d.readContent path with
  | .ok (.text t) => t ≠ []
  | .ok (.bytes b) => b ≠ []
  | .error e => e = .isDirectory

def unary (d : Directory) (op t : Text) : Bool :=
  let found := (d.find t).toOption
  match String.ofList op with
  | "-n" => t ≠ []
  | "-z" => t = []
  | "-e" | "-r" | "-w" | "-O" | "-G" => found.isSome
  | "-f" => d.isFile t
  | "-d" => found = some .directory
  | "-c" => found = some .void
  | "-s" => isNonempty d t
  | "-x" => isExecutable d t
  | _ => false

def binary (d : Directory) (a op b : Text) : Except Text Bool :=
  let compared (f : Int → Int → Bool) : Except Text Bool := do
    let x ← operand a
    let y ← operand b
    .ok (f x y)
  match String.ofList op with
  | "=" | "==" => .ok (a = b)
  | "!=" => .ok (a ≠ b)
  | "<" => .ok (decide (a < b))
  | ">" => .ok (decide (b < a))
  | "-eq" => compared fun x y => x = y
  | "-ne" => compared fun x y => x ≠ y
  | "-lt" => compared fun x y => x < y
  | "-le" => compared fun x y => x ≤ y
  | "-gt" => compared fun x y => y < x
  | "-ge" => compared fun x y => y ≤ x
  | "-ef" =>
    match d.resolve a, d.resolve b with
    | .ok p, .ok q => .ok (p = q ∧ (d.get? p).isSome)
    | _, _ => .ok false
  | _ => .ok false

/-- Whether a word that could be an operator before a text is a text itself, because an operator or
nothing follows it. -/
def isOperand : List Text → Bool
  | [_] => true
  | [_, _] => false
  | _ :: op :: t :: _ => binaryOperators.contains op && t ≠ [')']
  | [] => true

/-- Whether words start with an operator before a text. -/
def startsUnary (ws : List Text) : Bool :=
  match ws with
  | op :: _ => unaryOperators.contains op && !isOperand ws
  | [] => false

/-- A condition and the words after it, or what is wrong with it. -/
abbrev Condition := Except Text (Bool × List Text)

mutual

def anyOf (d : Directory) : Nat → List Text → Condition
  | 0, ws => .ok (false, ws)
  | fuel + 1, ws => do
    let (x, rest) ← allOf d fuel ws
    match rest with
    | ['-', 'o'] :: rest => do
      let (y, rest) ← anyOf d fuel rest
      .ok (x || y, rest)
    | rest => .ok (x, rest)

def allOf (d : Directory) : Nat → List Text → Condition
  | 0, ws => .ok (false, ws)
  | fuel + 1, ws => do
    let (x, rest) ← negation d fuel ws
    match rest with
    | ['-', 'a'] :: rest => do
      let (y, rest) ← allOf d fuel rest
      .ok (x && y, rest)
    | rest => .ok (x, rest)

def negation (d : Directory) : Nat → List Text → Condition
  | 0, ws => .ok (false, ws)
  | fuel + 1, ws =>
    match ws with
    | ['!'] :: rest => do
      let (x, rest) ← negation d fuel rest
      .ok (!x, rest)
    | ws => primary d fuel ws

/-- A condition on one or two texts, or one between brackets. -/
def primary (d : Directory) : Nat → List Text → Condition
  | 0, ws => .ok (false, ws)
  | fuel + 1, ws =>
    match ws with
    | [] => .ok (false, [])
    | ['('] :: [')'] :: rest => .ok (false, rest)
    | ['('] :: w :: rest => do
      let (x, rest) ← anyOf d fuel (w :: rest)
      match rest with
      | [')'] :: rest => .ok (x, rest)
      | _ => .error "closing paren expected".toList
    | w :: rest =>
      if startsUnary ws then
        match rest with
        | t :: rest => .ok (unary d w t, rest)
        | [] => .error (w ++ ": argument expected".toList)
      else
        match rest with
        | op :: more =>
          if binaryOperators.contains op then
            match more with
            | b :: rest => do
              let x ← binary d w op b
              .ok (x, rest)
            | [] => .error (op ++ ": argument expected".toList)
          else .ok (w ≠ [], rest)
        | [] => .ok (w ≠ [], [])

end

/-- Whether the condition of some words holds. With three or four words it is clear what they mean;
otherwise they are read one after the other, and the last word read is named if some are left. -/
def condition (d : Directory) : Nat → List Text → Except Text Bool
  | 0, _ => .ok false
  | fuel + 1, ws => do
    let general : Except Text Bool := do
      let (x, rest) ← anyOf d (8 * ws.length + 8) ws
      if rest.isEmpty then .ok x
      else .error (((ws.take (ws.length - rest.length)).getLast?.getD []) ++
        ": unexpected operator".toList)
    match ws with
    | [a, op, b] =>
      if binaryOperators.contains op then binary d a op b
      else if a = ['('] ∧ b = [')'] then condition d fuel [op]
      else if a = ['!'] then do
        let x ← condition d fuel [op, b]
        .ok (!x)
      else general
    | [a, b, c, e] =>
      if a = ['('] ∧ e = [')'] then condition d fuel [b, c]
      else if a = ['!'] then do
        let x ← condition d fuel [b, c, e]
        .ok (!x)
      else general
    | _ => general

/-- Tests a condition: succeeds if it holds, and fails with two if it makes no sense. -/
def test (name : Text) (d : Directory) (ws : List Text) : Outcome :=
  match condition d (ws.length + 1) ws with
  | .ok true => done d []
  | .ok false => failed d 1 []
  | .error t => failed d 2 (name ++ ": ".toList ++ t ++ ['\n'])

def bracketTest (d : Directory) (ws : List Text) : Outcome :=
  if ws.getLast? = some [']'] then test ['['] d ws.dropLast
  else failed d 2 "[: missing ]\n".toList

end Conditions

def command? (name : Text) : Option (Directory → Text → List Text → Outcome) :=
  match String.ofList name with
  | "true" | "sleep" => some fun d _ _ => done d []
  | "false" => some fun d _ _ => failed d 1 []
  | "cp" => some fun d _ args => copy d args
  | "cat" => some cat
  | "echo" => some fun d _ args => echo d args
  | "printf" => some fun d _ args => printf d args
  | "touch" => some fun d _ args => forEach touch d (flags args).2
  | "mv" => some fun d _ args => move d args
  | "chmod" => some fun d _ args => changeMode d args
  | "rm" => some fun d _ args =>
    let (letters, paths) := flags args
    forEach (remove (letters.contains 'f') (letters.any fun c => c == 'r' || c == 'R')) d paths
  | "mkdir" => some fun d _ args =>
    let (letters, paths) := flags args
    forEach (makeDirectory (letters.contains 'p')) d paths
  | "test" => some fun d _ args => test "test".toList d args
  | "[" => some fun d _ args => bracketTest d args
  | _ => none

end ESharp.Process
