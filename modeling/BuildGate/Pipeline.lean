import BuildGate.FileSet
import BuildGate.Settings.Basic
import BuildGate.StyleCheck

/-!
# The pipeline

The stages are few and fixed: lint, style scan, test, coverage and report. Each is a step over the
settings and the root of a project, and calls its tools in that root. The style check runs lint and
scan both, whatever comes of the first; the default run tests only what passes that check.
-/
namespace BuildGate

/-- A stage of the pipeline, by which log lines and spans name it. -/
inductive Stage where
  | lint
  | styleScan
  | test
  | coverage
  | report
  deriving Repr, DecidableEq

namespace Stage

def name : Stage → String
  | lint => "lint"
  | styleScan => "style-scan"
  | test => "test"
  | coverage => "coverage"
  | report => "report"

/-- Every stage, in order. -/
def all : List Stage := [lint, styleScan, test, coverage, report]

end Stage

/-- Which tests a run loads: all, or those of one module. -/
inductive TestSelection where
  | all
  | module (name : String)
  deriving Repr, DecidableEq

namespace TestSelection

/-- The selection as a log line shows it. -/
def display : TestSelection → String
  | all => "All"
  | module name => "Module(" ++ Quoted.text name ++ ")"

end TestSelection

/-- Puts `name` wherever `moduleMark` stands in `pattern`. -/
def fillModule (name : List Char) (pattern : List Char) : List Char :=
  match pattern with
  | [] => []
  | c :: rest =>
    let mark := moduleMark.toList
    if mark.isPrefixOf (c :: rest) then name ++ fillModule name (rest.drop (mark.length - 1))
    else c :: fillModule name rest
termination_by pattern.length
decreasing_by all_goals simp only [List.length_drop, List.length_cons]; omega

/-- Whether `name` can name a module: it is one component of a path and stays where it is. -/
def isModuleName (name : String) : Bool :=
  name ≠ "" && name ≠ "." && name ≠ ".." && !name.toList.contains '/' && !name.toList.contains '\\'

/-- What the stages of a project work with: its `settings`, its `root`, and the runner `run`. -/
structure Pipeline where
  settings : Settings
  root : String
  run : Runner

namespace Pipeline

/-- Runs `step` as a part of `stage`, in a span of the given `name`. -/
def inStage {α : Type} (name : String) (stage : Stage) (more : List LogField) (step : Step α) :
    Step α :=
  Step.inSpan ⟨.pipeline, name, ("stage", stage.name) :: more⟩ step

/-- A call of `program` in `p.root`. -/
def call (p : Pipeline) (program : String) : Invocation := { program, workingDir := some p.root }

/-- The files that `patterns` lead to below `p.root`. -/
def expand (p : Pipeline) (patterns : List String) : Step (List String) := do
  let set ← Step.ofExcept (FileSet.read patterns)
  let files ← Step.ofExcept (set.expand (← Step.tree) p.root)
  Step.log .debug .fileSets "expanded file patterns" [("count", toString files.length)]
  return files

/-- Calls `lint.program` with the files that `lint.files` lead to, unless there are none. -/
def lint (p : Pipeline) : Step Unit :=
  inStage "lint" .lint [] do
    let files ← p.expand p.settings.lint.files
    if files.isEmpty then Step.log .warn .pipeline "no files matched the lint patterns"
    else
      runChecked p.run
        (((p.call p.settings.lint.program).withArgs p.settings.lint.args).withArgs files)

/-- The built-in rules and `rules`. -/
def registry (rules : List RuleSource) : Step Registry := do
  let g ← Step.ofExcept (Registry.withCustom rules)
  Step.log .debug .rules "rule registry compiled"
    [("builtin", toString g.builtin.length), ("custom", toString rules.length)]
  return g

/-- Scans `files`, or those of `style.files` if none are given, and fails if anything was found. -/
def styleScan (p : Pipeline) (files : List String) : Step StyleSummary :=
  inStage "style_scan" .styleScan [] do
    let g ← registry p.settings.style.rules
    let targets ← if files.isEmpty then p.expand p.settings.style.files else pure files
    if targets.isEmpty then Step.log .warn .pipeline "no files matched the style patterns"
    let summary ← scanFiles p.root targets g.rules p.settings.style.mode
    Step.log .info .pipeline "style scan finished"
      [("files", toString summary.files), ("violations", toString summary.violations),
        ("outcome", match summary.outcome with | .pass => "Pass" | .fail => "Fail")]
    Step.ofExcept summary.intoResult

/-- What two stages that both ran came to: their failures are combined. -/
def bothOf {α β : Type} : Except Failure α → Except Failure β → Except Failure β
  | .ok _, r => r
  | .error e, .ok _ => .error e
  | .error e, .error e' => .error (.combined [e, e'])

/-- Lints, then scans. Both always run. -/
def checkStyle (p : Pipeline) : Step StyleSummary := do
  let linted ← Step.attempt p.lint
  let scanned ← Step.attempt (p.styleScan [])
  Step.ofExcept (bothOf linted scanned)

/-- The patterns of the files that a selection loads: `test.files`, or `test.moduleFiles` with the
name filled in. -/
def testPatterns (p : Pipeline) : TestSelection → Except Failure (List String)
  | .all => .ok p.settings.test.files
  | .module name =>
    if isModuleName name then
      .ok (p.settings.test.moduleFiles.map fun pattern =>
        String.ofList (fillModule name.toList pattern.toList))
    else .error (.invalidModule name)

/-- The call of `test.program` for `selection`. -/
def testCall (p : Pipeline) (selection : TestSelection) : Step Invocation := do
  let test := p.settings.test
  let files ← p.expand (← Step.ofExcept (p.testPatterns selection))
  if files.isEmpty then
    Step.log .warn .pipeline "no test files matched" [("selection", selection.display)]
  return (p.call test.program).withArgs
    (test.args ++ ["--timeout", toString test.timeoutMs] ++
      (match test.grep with | some g => ["--grep", g] | none => []) ++ test.setup ++ files)

def test (p : Pipeline) (selection : TestSelection) : Step Unit :=
  inStage "test" .test [("selection", selection.display)] do
    runChecked p.run (← p.testCall selection)

/-- Checks the style, and tests everything if that passes. -/
def defaultRun (p : Pipeline) : Step Unit := do
  let _ ← p.checkStyle
  p.test .all

/-- Removes `coverage.outputDir`, which has to lie inside the project: neither the root nor anything
outside it is ever removed. -/
def clean (p : Pipeline) : Step Unit := do
  let dir := Path.join p.root p.settings.coverage.outputDir
  let t ← Step.tree
  if t.exists dir then
    let canonical (path : String) : Step String :=
      Step.ofExcept ((t.canonical path).mapError (Failure.io path))
    let root ← canonical p.root
    let target ← canonical dir
    if Path.same target root || !Path.startsWith target root then
      Step.log .warn .pipeline "coverage output is not inside the project"
        [("dir", target), ("root", root)]
      throw (.unsafeClean target root)
    Step.log .info .pipeline "removing coverage output" [("dir", target)]
    let t' ← Step.ofExcept ((t.removeDirAll target).mapError (Failure.io target))
    Step.update fun w => { w with tree := t' }

/-- Runs all tests under `coverage.program`, with the format `report` or else `coverage.report`. -/
def coverage (p : Pipeline) (report : Option String) : Step Unit :=
  inStage "coverage" .coverage [] do
    p.clean
    let c := p.settings.coverage
    let tests ← p.testCall .all
    runChecked p.run
      ((p.call c.program).withArgs
        (c.args ++ ["--dir", c.outputDir] ++ (c.exclude.flatMap fun x => ["-x", x]) ++
          ["--report", report.getD c.report, tests.program, "--"] ++ tests.args))

/-- Calls `coverage.upload.program`, which reads the coverage data. -/
def upload (p : Pipeline) : Step Unit :=
  inStage "upload" .report [] do
    let c := p.settings.coverage
    runChecked p.run
      { (p.call c.upload.program).withArgs c.upload.args with stdin := some (c.lcovPath p.root) }

/-- Opens `file` with `viewer`. It is a convenience: what goes wrong is logged and no failure. -/
def «open» (p : Pipeline) (file : String) (viewer : Option String) : Step Unit :=
  inStage "open" .report [("file", file)] do
    match viewer with
    | none =>
      Step.log .warn .pipeline
        "no viewer available on this platform; set BROWSER to choose one"
    | some program =>
      match ← Step.attempt (runChecked p.run ((p.call program).arg file)) with
      | .ok () => pure ()
      | .error e => Step.log .warn .pipeline "could not open file" [("error", e.message)]

end Pipeline

end BuildGate
