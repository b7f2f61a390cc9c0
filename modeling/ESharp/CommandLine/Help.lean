import ESharp.CommandLine.Options

/-!
# Help pages

A page says what a command is for, how it is called, and what its arguments and options mean, in
two columns.
-/

namespace ESharp.CommandLine

def programName : Text := "easysharp".toList

def versionLine : Text := programName ++ " 0.1.0\n".toList

def Verb.about : Verb → Text
  | .translate => "Translate an E# file".toList
  | .build => "Translate an E# file and compile the generated C#".toList
  | .view => "Open an interactive viewer of the source and generated C#".toList
  | .listFormats => "List available output formats".toList

/-- What an option means, for a command that has its own meaning for it. -/
def Opt.about (verb : Option Verb) : Opt → Text
  | .config => "Configuration file layered over the defaults".toList
  | .className => "Name of the generated class".toList
  | .verbose => "Log debug output to stderr".toList
  | .output =>
    if verb = some .build then "Executable to produce (default: <path> with .exe extension)".toList
    else "Write to this file instead of stdout".toList
  | .format => "Output format (see list-formats) [default: csharp]".toList
  | .showSource => "Open the generated C# in the configured editor".toList
  | .help => "Print help".toList
  | .version => "Print version".toList

def Opt.spelling (o : Opt) : Text :=
  (match o.short? with
    | some c => ['-', c, ',', ' ']
    | none => "    ".toList) ++
    "--".toList ++ o.long ++ (if o.takesValue then " <".toList ++ o.long ++ ['>'] else [])

/-- Rows in two columns, the second one to the right of all of the first. -/
def table (rows : List (Text × Text)) : List Text :=
  let width := rows.foldl (fun w r => max w r.1.length) 0
  rows.map fun r =>
    "  ".toList ++ r.1 ++ List.replicate (width - r.1.length + 2) ' ' ++ r.2

def optionRows (verb : Option Verb) (options : List Opt) : List (Text × Text) :=
  options.map fun o => (o.spelling, o.about verb)

def helpAbout : Text := "Print this message or the help of the given subcommand(s)".toList

def programPage : List Text :=
  ["Translate E# scripts into C# programs".toList, [],
    "Usage: easysharp [OPTIONS] <COMMAND>".toList, [], "Commands:".toList] ++
    table (Verb.all.map (fun v => (v.name, v.about)) ++
      [(helpWord, helpAbout)]) ++
    [[], "Options:".toList] ++ table (optionRows none commonOptions)

def verbPage (v : Verb) : List Text :=
  [v.about, [],
    "Usage: easysharp ".toList ++ v.name ++ " [OPTIONS]".toList ++
      (if v.takesPath then " <path>".toList else [])] ++
    (if v.takesPath then
      [[], "Arguments:".toList] ++ table [("<path>".toList, "Path to the E# source file".toList)]
    else []) ++
    [[], "Options:".toList] ++ table (optionRows (some v) v.options)

def helpWordPage : List Text :=
  [helpAbout, [], "Usage: easysharp help [COMMAND]...".toList, [], "Arguments:".toList] ++
    table [("[COMMAND]...".toList, "Print help for the subcommand(s)".toList)]

def helpPage : Topic → Text
  | .program => Text.unlines programPage
  | .verb v => Text.unlines (verbPage v)
  | .help => Text.unlines helpWordPage

end ESharp.CommandLine
