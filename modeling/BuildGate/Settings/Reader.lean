import BuildGate.Settings.Basic
import BuildGate.Settings.Fault

/-!
# Reading settings from data

Each kind of value has a reader that takes a node and gives the value or the fault of the innermost
node that is wrong. A record is read from a table, whose other keys do not count, or from a list of
its fields in their order; fields that are not there keep their defaults.
-/
namespace BuildGate.Settings

open Data

/-- Reads a node. -/
abbrev Reader (α : Type) := Datum Origin → Except Fault α

namespace Reader

def invalidType {α : Type} (d : Datum Origin) (expected : String) : Except Fault α :=
  .error { kind := .invalidType (.ofData d) expected, origin := d.tag }

/-- Puts a key in front of the path of a fault. -/
def under {α : Type} (key : String) (r : Except Fault α) : Except Fault α :=
  r.mapError fun f => { f with path := key :: f.path }

/-- A text; a single character is one too. -/
def textOr (expected : String) : Reader String
  | .scalar _ (.text s) => .ok s
  | .scalar _ (.char c) => .ok (toString c)
  | d => invalidType d expected

def text : Reader String := textOr "a string"

def path : Reader String := textOr "a UTF-8 path string"

/-- A natural number below two to the power of 64. -/
def natural : Reader Nat
  | .scalar _ (.unsigned n) => .ok n
  | .scalar o (.signed i) =>
    if 0 ≤ i then .ok i.toNat
    else .error { kind := .invalidValue (.scalar (.signed i)) "u64", origin := o }
  | d => invalidType d "u64"

/-- A value that may be left empty. -/
def optional {α : Type} (r : Reader α) : Reader (Option α)
  | .scalar _ .null => .ok none
  | d => (r d).map some

/-- Reads items one after the other, counted from a number. -/
def items {α : Type} (r : Reader α) (i : Nat) : List (Datum Origin) → Except Fault (List α)
  | [] => .ok []
  | d :: rest => do
    let a ← under (toString i) (r d)
    return a :: (← items r (i + 1) rest)

def list {α : Type} (r : Reader α) : Reader (List α)
  | .list _ ds => items r 0 ds
  | d => invalidType d "a sequence"

def nothing : Reader Unit
  | .scalar _ .null => .ok ()
  | d => invalidType d "unit"

/-- One of several words. A table stands for its first key, with nothing under it. -/
def choice {α : Type} (name : String) (variants : List (String × α)) : Reader α
  | .scalar o (.text s) => pick o s
  | .table o ((k, d) :: _) => do
    let a ← under k (pick o k)
    under k (nothing d)
    return a
  | .table o [] => invalidType (.table o []) "enum"
  | d => invalidType d ("enum " ++ name)
where
  pick (o : Origin) (s : String) : Except Fault α :=
    match variants.lookup s with
    | some a => .ok a
    | none => .error { kind := .unknownVariant s (variants.map (·.1)), origin := o }

/-- A field of a record: its key, and how a node changes the record. -/
structure Field (σ : Type) where
  key : String
  set : σ → Datum Origin → Except Fault σ

/-- A field with a reader for its value. -/
def field {σ α : Type} (key : String) (r : Reader α) (update : σ → α → σ) : Field σ :=
  ⟨key, fun s d => (r d).map (update s)⟩

/-- Sets the fields that a table has, in the order of its keys. -/
def fromEntries {σ : Type} (fields : List (Field σ)) :
    List (String × Datum Origin) → σ → Except Fault σ
  | [], s => .ok s
  | (k, d) :: rest, s => do
    match fields.find? (·.key == k) with
    | some f => fromEntries fields rest (← under k (f.set s d))
    | none => fromEntries fields rest s

/-- Sets fields in their order as far as a list goes. -/
def fromItems {σ : Type} (i : Nat) : List (Field σ) → List (Datum Origin) → σ → Except Fault σ
  | f :: fs, d :: ds, s => do fromItems (i + 1) fs ds (← under (toString i) (f.set s d))
  | _, _, s => .ok s

/-- A record whose fields start as those of the given one. -/
def record {σ : Type} (name : String) (fields : List (Field σ)) (start : σ) : Reader σ
  | .table _ entries => fromEntries fields entries start
  | .list _ ds => fromItems 0 fields ds start
  | d => invalidType d ("struct " ++ name)

/-- A style rule, which has to have both its fields. -/
def rule : Reader RuleSource := fun d => do
  let fields : List (Field (Option String × Option String)) :=
    [ field "pattern" text fun s p => (some p, s.2),
      field "message" text fun s m => (s.1, some m) ]
  match d, ← record "CustomRule" fields (none, none) d with
  | _, (some pattern, some message) => return ⟨pattern, message⟩
  | .list o ds, _ =>
    .error { kind := .invalidLength ds.length "struct CustomRule with 2 elements", origin := o }
  | d, (none, _) => .error { kind := .missingField "pattern", origin := d.tag }
  | d, (some _, none) => .error { kind := .missingField "message", origin := d.tag }

def style (start : StyleSettings) : Reader StyleSettings :=
  record "StyleConfig"
    [ field "files" (list text) fun s x => { s with files := x },
      field "mode"
        (choice "ScanMode"
          [("first-match", ScanMode.firstMatch), ("all-occurrences", ScanMode.allOccurrences)])
        fun s x => { s with mode := x },
      field "rules" (list rule) fun s x => { s with rules := x } ]
    start

def lint (start : LintSettings) : Reader LintSettings :=
  record "LintConfig"
    [ field "program" text fun s x => { s with program := x },
      field "args" (list text) fun s x => { s with args := x },
      field "files" (list text) fun s x => { s with files := x } ]
    start

def test (start : TestSettings) : Reader TestSettings :=
  record "TestConfig"
    [ field "program" text fun s x => { s with program := x },
      field "args" (list text) fun s x => { s with args := x },
      field "setup" (list text) fun s x => { s with setup := x },
      field "files" (list text) fun s x => { s with files := x },
      field "module_files" (list text) fun s x => { s with moduleFiles := x },
      field "timeout_ms" natural fun s x => { s with timeoutMs := x },
      field "grep" (optional text) fun s x => { s with grep := x } ]
    start

def tool (start : ToolSettings) : Reader ToolSettings :=
  record "ToolConfig"
    [ field "program" text fun s x => { s with program := x },
      field "args" (list text) fun s x => { s with args := x } ]
    start

def coverage (start : CoverageSettings) : Reader CoverageSettings :=
  record "CoverageConfig"
    [ field "program" text fun s x => { s with program := x },
      field "args" (list text) fun s x => { s with args := x },
      field "output_dir" path fun s x => { s with outputDir := x },
      field "report" text fun s x => { s with report := x },
      field "upload_report" text fun s x => { s with uploadReport := x },
      field "exclude" (list text) fun s x => { s with exclude := x },
      field "html_report" path fun s x => { s with htmlReport := x },
      field "lcov_file" path fun s x => { s with lcovFile := x },
      field "upload" (tool start.upload) fun s x => { s with upload := x } ]
    start

/-- The levels that a configuration can ask for. -/
def levels : List (String × LogLevel) :=
  [("debug", .debug), ("info", .info), ("warn", .warn), ("error", .error)]

/-- Settings that start as the given ones. -/
def settings (start : Settings) : Reader Settings :=
  record "Config"
    [ field "log_level" (choice "LogLevel" levels) fun s x => { s with logLevel := x },
      field "log_dir" (optional path) fun s x => { s with logDir := x },
      field "style" (style start.style) fun s x => { s with style := x },
      field "lint" (lint start.lint) fun s x => { s with lint := x },
      field "test" (test start.test) fun s x => { s with test := x },
      field "coverage" (coverage start.coverage) fun s x => { s with coverage := x } ]
    start

end Reader

/-- Settings as a configuration states them. -/
def read (d : Datum Origin) : Except Fault Settings := Reader.settings {} d

end BuildGate.Settings
