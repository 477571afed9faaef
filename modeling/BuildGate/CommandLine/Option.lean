import BuildGate.Data.Reading

/-!
# Options and commands

What a command line may hold. A `Verb` names what to do, an `Opt` changes how; some options belong
to every verb and may stand before or after it. Both carry the words with which help shows them.

**Results.**
* `ofWord?_name`: every verb is found by its name.
* `mem_shared`: the shared options are options of every verb.
-/
namespace BuildGate.CommandLine

/-- What the program is to do. -/
inductive Verb where
  | lint
  | scan
  | checkStyle
  | test
  | testModule
  | coverage
  | «show»
  | all
  | rules
  | info
  deriving Repr, DecidableEq

/-- What stands on a command line beside its options. -/
inductive Operand where
  | files
  | module
  | file
  deriving Repr, DecidableEq

inductive Opt where
  | versionOnly
  | config
  | chdir
  | quiet
  | verbose
  | color
  | json
  | mode
  | grep
  | timeout
  | report
  | «open»
  | upload
  | help
  | version
  deriving Repr, DecidableEq

/-- What may stand as the value of an option. -/
inductive ValueKind where
  | text
  /-- A text that is not empty. -/
  | path
  /-- A number of 64 bits without a sign. -/
  | number
  /-- One of some words, each with what it means. -/
  | choice (words : List (String × String))
  deriving Repr, DecidableEq

/-- How an option is given: by its name alone, several times, or with a value. -/
inductive Shape where
  | flag
  | count
  | value (name : String) (kind : ValueKind)
  deriving Repr, DecidableEq

namespace Operand

def key : Operand → String
  | files => "files"
  | module => "module"
  | file => "file"

/-- How help writes the operand. -/
def written : Operand → String
  | files => "[FILES]..."
  | module => "<MODULE>"
  | file => "<FILE>"

def about : Operand → String
  | files => "Files to scan, relative to the project root (default: configured style files)"
  | module => "Module whose tests to run (e.g. gh-core)"
  | file => "File to open"

/-- Whether it may stand any number of times, or else exactly once. -/
def isMany : Operand → Bool
  | files => true
  | _ => false

end Operand

namespace Opt

def long : Opt → String
  | versionOnly => "version-only"
  | config => "config"
  | chdir => "chdir"
  | quiet => "quiet"
  | verbose => "verbose"
  | color => "color"
  | json => "json"
  | mode => "mode"
  | grep => "grep"
  | timeout => "timeout"
  | report => "report"
  | «open» => "open"
  | upload => "upload"
  | help => "help"
  | version => "version"

def short? : Opt → Option Char
  | config => some 'c'
  | chdir => some 'C'
  | quiet => some 'q'
  | verbose => some 'v'
  | help => some 'h'
  | version => some 'V'
  | _ => none

/-- What `--color` may be. -/
def colorWords : List (String × String) :=
  [("auto", "Detect terminal capabilities automatically"), ("always", "Always emit colors"),
    ("never", "Never emit colors")]

/-- What `--mode` may be. -/
def modeWords : List (String × String) :=
  [("first-match", "The first match of each rule (default)"),
    ("all-occurrences", "Every non-overlapping match of each rule")]

def shape : Opt → Shape
  | config => .value "FILE" .path
  | chdir => .value "CHDIR" .path
  | verbose => .count
  | color => .value "COLOR" (.choice colorWords)
  | mode => .value "MODE" (.choice modeWords)
  | grep => .value "GREP" .text
  | timeout => .value "MS" .number
  | report => .value "FMT" .text
  | _ => .flag

/-- What the option does. Of the help option see `Help`. -/
def about : Opt → String
  | versionOnly => "Print only the version number (for scripting)"
  | config => "Path to configuration file (overrides discovery)"
  | chdir => "Run as if started in DIR"
  | quiet => "Only print errors (suppresses warnings/info)"
  | verbose => "More detail (repeatable; e.g. -vv)"
  | color => "Colorize output"
  | json => "Output as JSON (for scripting)"
  | mode => "Report the first match of each rule, or every match"
  | grep => "Only run tests whose name matches this filter"
  | timeout => "Per-test timeout in milliseconds"
  | report => "Report format passed to the instrumenter (default: from config)"
  | «open» => "Open the HTML report when done"
  | upload => "Upload the lcov data to the coverage service when done"
  | help => "Print help"
  | version => "Print version"

/-- The variable that gives a value to an option which is not given. -/
def envName? : Opt → Option String
  | grep => some "STYLEGATE_TEST_GREP"
  | _ => none

/-- The value of an option that is given nowhere. -/
def default? : Opt → Option String
  | color => some "auto"
  | _ => none

/-- The options that may stand before and after a verb. -/
def shared : List Opt := [config, chdir, quiet, verbose, color, json]

/-- The options of the program itself. -/
def root : List Opt := versionOnly :: shared ++ [help, version]

end Opt

namespace Verb

/-- Every verb, in the order in which help lists them. -/
def every : List Verb :=
  [lint, scan, checkStyle, test, testModule, coverage, «show», all, rules, info]

def name : Verb → String
  | lint => "lint"
  | scan => "scan"
  | checkStyle => "check-style"
  | test => "test"
  | testModule => "test-module"
  | coverage => "coverage"
  | «show» => "show"
  | all => "all"
  | rules => "rules"
  | info => "info"

/-- A second name. -/
def alias? : Verb → Option String
  | all => some "default"
  | _ => none

def about : Verb → String
  | lint => "Run the external linter over the configured files"
  | scan => "Scan files for doc-comment style violations"
  | checkStyle => "Lint, then scan for style violations"
  | test => "Run every module's tests"
  | testModule => "Run the tests of a single module"
  | coverage => "Run the tests under the coverage instrumenter"
  | «show» => "Open a file (such as a coverage report) in the platform viewer"
  | all => "Check style, then run the tests"
  | rules => "List the active style rules"
  | info => "Show package information"

/-- The verb that a word names. -/
def ofWord? (word : String) : Option Verb :=
  every.find? fun v => v.name = word || v.alias? = some word

theorem ofWord?_name (v : Verb) : ofWord? v.name = some v := by
  cases v <;> decide

def operand? : Verb → Option Operand
  | scan => some .files
  | testModule => some .module
  | «show» => some .file
  | _ => none

/-- The options of the verb alone. -/
def own : Verb → List Opt
  | scan => [.mode]
  | test | testModule | all => [.grep, .timeout]
  | coverage => [.report, .open, .upload, .grep, .timeout]
  | _ => []

def options (v : Verb) : List Opt := v.own ++ Opt.shared ++ [.help]

theorem mem_shared {o : Opt} (v : Verb) (h : o ∈ Opt.shared) : o ∈ v.options := by
  simp [options, h]

end Verb

end BuildGate.CommandLine
