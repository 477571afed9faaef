import BuildGate.Data.Basic
import BuildGate.Failure
import BuildGate.Path
import BuildGate.Quoted

/-!
# Faults of a configuration

A `Fault` says what is wrong with one value of a configuration, under which key it stands and where
it was written. `Fault.message` is its text for a reader in a given directory.
-/
namespace BuildGate.Settings

/-- The format of a configuration file. -/
inductive Format where
  | toml
  | yaml
  | json
  deriving Repr, DecidableEq

def Format.name : Format → String
  | toml => "TOML"
  | yaml => "YAML"
  | json => "JSON"

/-- Where a value was written. -/
inductive Origin where
  | builtin
  | file (path : String) (format : Format)
  | environment
  deriving Repr, DecidableEq

/-- What stands where something else was expected. -/
inductive Actual where
  | scalar (value : Data.Scalar)
  | list
  | table
  deriving Repr, DecidableEq

namespace Actual

def ofData {τ : Type} : Data.Datum τ → Actual
  | .scalar _ v => scalar v
  | .list _ _ => list
  | .table _ _ => table

def describe : Actual → String
  | list => "sequence"
  | table => "map"
  | scalar .null => "unit"
  | scalar (.bool b) => "bool " ++ (if b then "true" else "false")
  | scalar (.unsigned n) => "unsigned int `" ++ toString n ++ "`"
  | scalar (.signed i) => "signed int `" ++ toString i ++ "`"
  | scalar (.wide i) =>
    "integer `" ++ toString i ++ "` as " ++ (if i < 0 then "i128" else "u128")
  | scalar (.float x) => "float `" ++ x.text ++ "`"
  | scalar (.char c) => "string " ++ Quoted.text (toString c)
  | scalar (.text s) => "string " ++ Quoted.text s

end Actual

/-- What is wrong with a value, or with a whole file. -/
inductive FaultKind where
  | invalidType (found : Actual) (expected : String)
  | invalidValue (found : Actual) (expected : String)
  | invalidLength (found : Nat) (expected : String)
  | unknownVariant (found : String) (variants : List String)
  | missingField (name : String)
  /-- The file could not be read. -/
  | unreadable (cause : IoFault)
  /-- The file is not of its format. -/
  | malformed
  deriving Repr, DecidableEq

/-- A fault, the keys that lead to it, and where it was written. -/
structure Fault where
  kind : FaultKind
  path : List String := []
  origin : Origin
  deriving Repr, DecidableEq

/-- Variants to choose from, in words. -/
def oneOf : List String → String
  | [] => "none"
  | [a] => "`" ++ a ++ "`"
  | [a, b] => "`" ++ a ++ "` or `" ++ b ++ "`"
  | vs => "one of " ++ ", ".intercalate (vs.map fun v => "`" ++ v ++ "`")

/-- The kind of fault in words, for a file of the format in `origin`. -/
def FaultKind.message (k : FaultKind) (origin : Origin) : String :=
  match k with
  | invalidType found expected =>
    "invalid type: found " ++ found.describe ++ ", expected " ++ expected
  | invalidValue found expected =>
    "invalid value " ++ found.describe ++ ", expected " ++ expected
  | invalidLength found expected =>
    "invalid length " ++ toString found ++ ", expected " ++ expected
  | unknownVariant found variants =>
    "unknown variant: found `" ++ found ++ "`, expected `" ++ oneOf variants ++ "`"
  | missingField name => "missing field `" ++ name ++ "`"
  | unreadable cause =>
    cause.message ++
      match origin with
      | .file _ .toml => "\n"
      | _ => ""
  | malformed => "malformed"

/-- The way from a directory to a path; both are absolute. -/
def wayTo : List Path.Component → List Path.Component → List Path.Component
  | b :: base, p :: path =>
    if b = p then wayTo base path
    else (b :: base).map (fun _ => Path.Component.up) ++ p :: path
  | base, path => base.map (fun _ => Path.Component.up) ++ path

/-- `path` as it is shown in `cwd`: relative to it where that takes fewer components. -/
def shownIn (cwd path : String) : String :=
  if Path.isAbsolute path then
    let way := wayTo (Path.components cwd) (Path.components path)
    if way.length < (Path.components path).length then Path.ofComponents way else path
  else path

namespace Origin

/-- The keys `path` as `origin` writes them. -/
def keyText (origin : Origin) (path : List String) : String :=
  match origin with
  | environment => ".".intercalate (path.map String.toUpper)
  | _ => ".".intercalate ("default" :: path)

/-- The origin in words, for a reader in `cwd`. -/
def place (cwd : String) : Origin → String
  | builtin => ""
  | file path format => " in " ++ shownIn cwd path ++ " " ++ format.name ++ " file"
  | environment => " in `STYLEGATE_` environment variable(s)"

end Origin

/-- The fault in words, for a reader in `cwd`. -/
def Fault.message (cwd : String) (f : Fault) : String :=
  f.kind.message f.origin ++
    (if f.path.isEmpty then "" else " for key " ++ Quoted.text (f.origin.keyText f.path)) ++
    f.origin.place cwd

/-- Why a configuration could not be loaded. -/
inductive LoadFailure where
  /-- Configuration was asked for and there is none. -/
  | notFound
  /-- What is wrong with the configuration. -/
  | faulty (faults : List Fault)
  deriving Repr, DecidableEq

end BuildGate.Settings
