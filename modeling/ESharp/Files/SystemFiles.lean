import ESharp.Files.Place

/-!
# The files of the system

What stands below the root of all files before a program has changed anything, as far as programs
count on it: the usual directories, the device that takes everything, and the small programs.
-/

namespace ESharp.SystemFiles

/-- The names of the directories at the root. -/
def topNames : List Text :=
  ["bin", "boot", "dev", "etc", "home", "lib", "media", "mnt", "opt", "proc", "root", "run", "sbin",
    "srv", "sys", "tmp", "usr", "var"].map String.toList

/-- The names of the directories for what users install. -/
def userNames : List Text :=
  ["bin", "games", "include", "lib", "libexec", "local", "sbin", "share", "src"].map String.toList

def programNames : List Text :=
  ["[", "bash", "cat", "chmod", "cp", "dash", "echo", "env", "false", "mkdir", "mv", "printf", "rm",
    "sh", "sleep", "test", "touch", "true"].map String.toList

def program? (name : Text) : Option Entity :=
  if programNames.contains name then some (.program name) else none

/-- A directory, if its name is one of some names. -/
def directory? (name : Text) (names : List Text) : Option Entity :=
  if names.contains name then some .directory else none

/-- What stands at a place below the root. -/
def get? : Place → Option Entity
  | [['/']] => some .directory
  | [['/'], name] => directory? name topNames
  | [['/'], top, name] =>
    match String.ofList top with
    | "bin" => program? name
    | "dev" => if name = "null".toList then some .void else none
    | "usr" => directory? name userNames
    | _ => none
  | [['/'], top, middle, name] =>
    if top = "usr".toList then
      match String.ofList middle with
      | "bin" => program? name
      | "local" => directory? name userNames
      | _ => none
    else none
  | _ => none

example : get? [['/'], "dev".toList, "null".toList] = some .void := by decide +kernel

end ESharp.SystemFiles
