import ESharp.Config.Setting

/-!
# Faults of a configuration
-/

namespace ESharp

inductive LoadError
  /-- There is no file with a name. -/
  | missingFile (name : Text)
  /-- A file is no text. -/
  | notText
  /-- A file is no TOML document. -/
  | badSyntax
  /-- An override has no key. -/
  | badKey
  /-- A value is no text. -/
  | notString (found key : Text) (origin : Option Text)
  /-- A value is of another kind than its place asks for. -/
  | wrongKind (found expected : Text)
  /-- A list stands for a record and is too short. -/
  | tooShort (length : Nat) (expected : Text)
  /-- A record lacks a field. -/
  | missingField (name : Text)
  deriving DecidableEq, Repr

namespace LoadError

/-- A fault below a key, seen from above it. -/
def under (step : Text) : LoadError → LoadError
  | notString found key origin =>
    let below := match key with
      | [] => []
      | '[' :: _ => key
      | _ => '.' :: key
    notString found (step ++ below) origin
  | e => e

def message (e : LoadError) : Text :=
  "failed to load configuration: ".toList ++ match e with
    | missingFile name => "configuration file \"".toList ++ name ++ "\" not found".toList
    | notText => "stream did not contain valid UTF-8".toList
    | badSyntax => "invalid TOML".toList
    | badKey => "invalid key".toList
    | notString found key origin =>
      "invalid type: ".toList ++ found ++ ", expected a string for key `".toList ++ key ++ "`".toList ++
        (match origin with
          | some file => " in ".toList ++ file
          | none => [])
    | wrongKind found expected =>
      "invalid type: ".toList ++ found ++ ", expected ".toList ++ expected
    | tooShort length expected =>
      "invalid length ".toList ++ Text.ofNat length ++ ", expected ".toList ++ expected
    | missingField name => "missing field `".toList ++ name ++ "`".toList

end LoadError

/-- The names of a program that a configuration can set. -/
inductive NameKey
  | className
  | entryPoint
  | assertHelper
  deriving DecidableEq, Repr

def NameKey.text : NameKey → Text
  | className => "class_name".toList
  | entryPoint => "entry_point".toList
  | assertHelper => "assert_helper".toList

inductive ConfigError
  | load (e : LoadError)
  /-- A name is no identifier. -/
  | invalidIdentifier (key : NameKey) (value : Text)
  /-- A method has the name of its class. -/
  | invalidLayout (key : NameKey) (value : Text)
  deriving DecidableEq, Repr

def ConfigError.message : ConfigError → Text
  | load e => e.message
  | invalidIdentifier key value =>
    ['\''] ++ value ++ "' is not a valid C# identifier for program.".toList ++ key.text
  | invalidLayout key value =>
    "program.".toList ++ key.text ++ " '".toList ++ value ++
      "' must differ from program.class_name".toList

end ESharp
