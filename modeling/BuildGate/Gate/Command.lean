import BuildGate.Gate.Listing
import BuildGate.Gate.Report
import BuildGate.Pipeline
import BuildGate.Viewer

/-!
# Carrying out commands

Each command is a step over the settings, in a span of its own. What is found is told even when the
step fails; a word of success is added only when it does not, and never beside a document.
-/
namespace BuildGate.Gate

open Data

/-- What a command works with: the `setup` it tells about, and what it needs to carry out calls and
to write. -/
structure Context where
  setup : Setup
  env : Environment := {}
  json : Bool := false
  color : Bool := false
  run : Runner

namespace Context

def settings (c : Context) : Settings := c.setup.settings

def root (c : Context) : String := c.setup.root

/-- The pipeline with the settings `s`. -/
def pipeline (c : Context) (s : Settings) : Pipeline := ⟨s, c.root, c.run⟩

/-- Writes `lines` for the user. -/
def print (lines : List String) : Step Unit := lines.forM fun l => Step.emit (.printed l)

/-- Confirms the success `what`, unless `json` asks for documents. -/
def confirm (c : Context) (what : String) : Step Unit :=
  if c.json then pure () else print [Console.paintIf c.color .green "OK:" ++ " " ++ what]

/-- The violations of what was reported so far. -/
def violations : Step (List Violation) := fun w =>
  (.ok (w.trace.filterMap fun
    | .found f => some f.violation
    | _ => none), w)

/-- Runs `step`, and with `json` writes the document of what it reported, however it ends. -/
def reporting {α : Type} (c : Context) (step : Step α) : Step α := do
  let result ← Step.attempt step
  if c.json then print [Json.pretty (reportData (← violations))]
  Step.ofExcept result

/-- The viewer that opens reports: that of `BROWSER`, or else that of the system. -/
def viewer (c : Context) : Option String := viewerFor (c.env.get? "BROWSER") "linux"

/-- Runs `step` in a span of the given `name`. -/
def asCommand {α : Type} (source : LogSource) (name : String) (fields : List LogField)
    (step : Step α) : Step α :=
  Step.inSpan ⟨source, name, fields⟩ step

def boolText (b : Bool) : String := if b then "true" else "false"

def lint (c : Context) : Step Unit :=
  let source := LogSource.command "lint"
  asCommand source "cmd_lint" [] do
    Step.log .debug source "executing lint command" [("program", c.settings.lint.program)]
    (c.pipeline c.settings).lint
    c.confirm "lint passed"

/-- The settings with `style.mode` set, if a mode is chosen. -/
def withMode (s : Settings) : Option ScanMode → Settings
  | none => s
  | some mode => { s with style := { s.style with mode } }

def scan (c : Context) (files : List String) (mode : Option ScanMode) : Step Unit :=
  let source := LogSource.command "scan"
  asCommand source "cmd_scan" [("files", toString files.length)] do
    Step.log .debug source "executing scan command"
      [("mode", match mode with
        | none => "None"
        | some m => "Some(" ++ modeWord m ++ ")")]
    let summary ← c.reporting ((c.pipeline (withMode c.settings mode)).styleScan files)
    c.confirm (toString summary.files ++ " file(s) follow the style rules")

def checkStyle (c : Context) : Step Unit :=
  let source := LogSource.command "check_style"
  asCommand source "cmd_check_style" [] do
    Step.log .debug source "executing check-style command" [("root", c.root)]
    let _ ← c.reporting (c.pipeline c.settings).checkStyle
    c.confirm "lint and style checks passed"

def test (c : Context) (o : TestOptions) : Step Unit :=
  let source := LogSource.command "test"
  let s := o.apply c.settings
  asCommand source "cmd_test" [] do
    Step.log .debug source "executing test command"
      [("grep", Quoted.optional s.test.grep), ("timeout_ms", toString s.test.timeoutMs)]
    (c.pipeline s).test .all
    c.confirm "tests passed"

def testModule (c : Context) (name : String) (o : TestOptions) : Step Unit :=
  let source := LogSource.command "test"
  let s := o.apply c.settings
  asCommand source "cmd_test_module" [("module", name)] do
    Step.log .debug source "executing test-module command" [("grep", Quoted.optional s.test.grep)]
    (c.pipeline s).test (.module name)
    c.confirm (name ++ " tests passed")

/-- The format of a coverage report: `asked`, or the one in the settings for what is done with it.
-/
def reportFormat (s : CoverageSettings) (asked : Option String) (a : Afterwards) : String :=
  asked.getD (if a = .upload then s.uploadReport else s.report)

def coverage (c : Context) (asked : Option String) (a : Afterwards) (o : TestOptions) : Step Unit :=
  let source := LogSource.command "coverage"
  let s := o.apply c.settings
  let format := reportFormat s.coverage asked a
  let p := c.pipeline s
  asCommand source "cmd_coverage"
    [("open", boolText (a == .open)), ("upload", boolText (a == .upload))] do
    Step.log .debug source "executing coverage command" [("report", Quoted.text format)]
    p.coverage (some format)
    match a with
    | .upload =>
      p.upload
      c.confirm "coverage uploaded"
    | .open => p.open (s.coverage.htmlPath c.root) c.viewer
    | .nothing => c.confirm ("coverage written to " ++ Path.join c.root s.coverage.outputDir)

def «show» (c : Context) (file : String) : Step Unit :=
  let source := LogSource.command "coverage"
  asCommand source "cmd_show" [("file", file)] do
    Step.log .debug source "executing show command" [("viewer", Quoted.optional c.viewer)]
    (c.pipeline c.settings).open file c.viewer

def all (c : Context) (o : TestOptions) : Step Unit :=
  let source := LogSource.command "all"
  asCommand source "cmd_all" [] do
    Step.log .debug source "executing default run" [("root", c.root)]
    c.reporting (c.pipeline (o.apply c.settings)).defaultRun
    c.confirm "style checks and tests passed"

def rules (c : Context) : Step Unit :=
  let source := LogSource.command "rules"
  asCommand source "cmd_rules" [] do
    let rules := (← Pipeline.registry c.settings.style.rules).describe
    Step.log .debug source "executing rules command" [("count", toString rules.length)]
    print (if c.json then [Json.pretty (.list () (rules.map ruleData))] else ruleLines rules)

def info (c : Context) : Step Unit :=
  let source := LogSource.command "info"
  asCommand source "cmd_info" [] do
    Step.log .debug source "executing info command" [("json_output", boolText c.json)]
    print (if c.json then [Json.pretty (infoData c.setup)] else infoLines c.setup)

/-- Carries out a command. -/
def carryOut (c : Context) : Command → Step Unit
  | .lint => c.lint
  | .scan files mode => c.scan files mode
  | .checkStyle => c.checkStyle
  | .test o => c.test o
  | .testModule name o => c.testModule name o
  | .coverage asked a o => c.coverage asked a o
  | .show file => c.show file
  | .all o => c.all o
  | .rules => c.rules
  | .info => c.info

end Context

end BuildGate.Gate
