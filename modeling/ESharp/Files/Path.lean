import ESharp.Text.Basic

/-!
# Paths

A path is a text with slashes between its components. Empty components and single dots name
nothing; two dots name the directory above.
-/

namespace ESharp.Path

/-- The texts between slashes, as the first one and the others. -/
def cut : Text → Text × List Text
  | [] => ([], [])
  | c :: t =>
    let rest := cut t
    if c = '/' then ([], rest.1 :: rest.2) else (c :: rest.1, rest.2)

def parts (path : Text) : List Text :=
  let p := cut path
  p.1 :: p.2

def components (path : Text) : List Text := (parts path).filter fun c => c ≠ [] ∧ c ≠ ['.']

def isAbsolute (path : Text) : Bool := path.head? == some '/'

/-- Whether a path can only name a directory. -/
def endsInDirectory (path : Text) : Bool :=
  let last := (parts path).getLast?
  last == some [] || last == some ['.'] || last == some "..".toList

/-- Whether a path ends in a slash after the name of a file or a directory. -/
def endsInSlash (path : Text) : Bool :=
  match path.reverse with
  | '/' :: t =>
    let last := (t.dropWhile (· == '/')).takeWhile (· != '/')
    last != ['.'] && last != ['.', '.']
  | _ => false

def ofComponents (components : List Text) : Text := Text.join ['/'] components

/-- A path without needless slashes and dots. -/
def normal (path : Text) : Text :=
  (if isAbsolute path then ['/'] else []) ++ ofComponents (components path)

/-- A name before its last dot. A dot at the start of a name is part of the name. -/
def stem (name : Text) : Text :=
  match name.reverse.dropWhile (· != '.') with
  | [] | [_] => name
  | _ :: before => before.reverse

/-- A reversed path without slashes and single dots at its end. -/
def trimTail : Text → Text
  | '/' :: t => trimTail t
  | '.' :: '/' :: t => trimTail ('/' :: t)
  | t => t

/-- The parts of a path that are kept when its last name changes: all before the name, the name
itself, and nothing of what follows it. -/
def splitName? (path : Text) : Option (Text × Text) :=
  let trimmed := (trimTail path.reverse).reverse
  let name := (trimmed.reverse.takeWhile (· != '/')).reverse
  if name = [] ∨ name = "..".toList ∨ name = ['.'] then none
  else some (trimmed.take (trimmed.length - name.length), name)

/-- The path with another extension on its last name. A name of two dots and an extension is left as
two dots, which name the directory above and take no extension. -/
def withExtension (extension path : Text) : Text :=
  match splitName? path with
  | some (before, name) =>
    if stem name = ['.'] ∧ path = before ++ name then before ++ "..".toList
    else before ++ stem name ++ '.' :: extension
  | none => path

def addExtension (extension path : Text) : Text :=
  match splitName? path with
  | some (before, name) => before ++ name ++ '.' :: extension
  | none => path

def fileName? (path : Text) : Option Text := (splitName? path).map Prod.snd

example : withExtension "exe".toList "d/.hid.es".toList = "d/.hid.exe".toList := by decide

example : withExtension "exe".toList ".es".toList = ".es.exe".toList := by decide

example : withExtension "exe".toList "d/..es".toList = "d/..".toList := by decide

example : components "./d//../a".toList = ["d".toList, "..".toList, "a".toList] := by decide

end ESharp.Path
