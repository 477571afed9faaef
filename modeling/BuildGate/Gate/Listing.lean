import BuildGate.Console
import BuildGate.Data.Json.Printer
import BuildGate.Rule
import BuildGate.Settings.Sources

/-!
# What the program tells about itself

The list of the rules that apply, and what the program is and how it is set up. Each is written for
a reader, always in colour, or as a JSON document.
-/
namespace BuildGate.Gate

open Data

/-! ## Rules -/

/-- A number in two columns. -/
def inTwoColumns (n : Nat) : String := if n < 10 then " " ++ toString n else toString n

/-- The two lines of `r`, whose number in the list is `place`. -/
def ruleEntry (place : Nat) (r : RuleInfo) : List String :=
  [inTwoColumns place ++ ". " ++ r.message ++ " " ++
      Ink.dimmed.paint (if r.builtin then "[builtin]" else "[config]"),
    "    " ++ Ink.cyan.paint r.pattern]

/-- The lines that list `rules`. -/
def ruleLines (rules : List RuleInfo) : List String :=
  rules.zipIdx.flatMap fun (r, i) => ruleEntry (i + 1) r

def ruleData (r : RuleInfo) : Plain :=
  .table ()
    [("pattern", Plain.ofText r.pattern), ("message", Plain.ofText r.message),
      ("builtin", Plain.ofBool r.builtin)]

/-! ## The program -/

/-- The version of the program. -/
def version : String := "0.1.0"

/-- What the program does. -/
def description : String :=
  "Build gate that runs lint, doc-comment style rules, tests, and coverage"

/-- Where the program is kept. -/
def home : String := "https://github.com/stylegate/stylegate"

/-- Under which terms it may be used. -/
def terms : String := "MIT"

/-- What is told about the setup. -/
structure Setup where
  settings : Settings
  sources : Settings.Sources
  root : String

/-- A mode as readers see it. -/
def modeWord : ScanMode → String
  | .firstMatch => "FirstMatch"
  | .allOccurrences => "AllOccurrences"

def titled (title text : String) : String := Ink.dimmed.paint title ++ ": " ++ text

def heading (title : String) : String := Ink.underlined.paint (Ink.bold.paint title)

/-- What the program is and how it is set up, for a reader. -/
def infoLines (s : Setup) : List String :=
  let c := s.settings
  [Ink.bold.paint Settings.appName ++ " " ++ Ink.green.paint version, description,
    titled "License" terms, titled "Repository" (Ink.cyan.paint home),
    titled "Homepage" (Ink.cyan.paint home), "", heading "Configuration",
    titled "Config file"
      (match s.sources.primary with
      | some path => Ink.cyan.paint path
      | none => Ink.yellow.paint "none loaded"),
    titled "Log level" c.logLevel.name] ++
  (c.logDir.map (titled "Log directory")).toList ++
  [titled "Project root" s.root, "", heading "Style",
    titled "Files" (", ".intercalate c.style.files), titled "Mode" (modeWord c.style.mode),
    titled "Custom rules" (toString c.style.rules.length), "", heading "Tools",
    titled "Linter" c.lint.program,
    titled "Test runner" (c.test.program ++ " (" ++ toString c.test.timeoutMs ++ " ms timeout)")] ++
  (c.test.grep.map (titled "Test filter")).toList ++
  [titled "Coverage" (c.coverage.program ++ " -> " ++ c.coverage.outputDir)]

/-- An entry that is there only with a value. -/
def optionalEntry (key : String) (value : Option String) : List (String × Plain) :=
  (value.map fun v => (key, Plain.ofText v)).toList

/-- What the program is and how it is set up, as a document. -/
def infoData (s : Setup) : Plain :=
  let c := s.settings
  let number (n : Nat) : Plain := .scalar () (.unsigned n)
  .table ()
    [("name", Plain.ofText Settings.appName), ("version", Plain.ofText version),
      ("description", Plain.ofText description), ("repository", Plain.ofText home),
      ("homepage", Plain.ofText home), ("license", Plain.ofText terms),
      ("config", .table ()
        (optionalEntry "config_file" s.sources.primary ++
          [("project_root", Plain.ofText s.root), ("log_level", Plain.ofText c.logLevel.name)] ++
          optionalEntry "log_dir" c.logDir ++
          [("style_files", Plain.ofList (c.style.files.map Plain.ofText)),
            ("scan_mode", Plain.ofText c.style.mode.name),
            ("custom_rules", number c.style.rules.length),
            ("lint_program", Plain.ofText c.lint.program),
            ("test_program", Plain.ofText c.test.program),
            ("test_timeout_ms", number c.test.timeoutMs)] ++
          optionalEntry "test_grep" c.test.grep ++
          [("coverage_program", Plain.ofText c.coverage.program),
            ("coverage_dir", Plain.ofText c.coverage.outputDir)]))]

end BuildGate.Gate
