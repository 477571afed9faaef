import BuildGate.Log
import BuildGate.Path
import BuildGate.Scan

/-!
# Settings

What a project decides about the gate: which files the stages take, which tools they call, and how
much is logged. Every setting has a default, so a project states only what differs.
-/
namespace BuildGate

/-- Settings of the style scan. -/
structure StyleSettings where
  files : List String := ["node_modules/gh-*/**/*.js", "!node_modules/gh-*/node_modules/**/*.js"]
  mode : ScanMode := .firstMatch
  /-- Rules that come after the built-in ones. -/
  rules : List RuleSource := []
  deriving Repr, DecidableEq

/-- Settings of the linter. -/
structure LintSettings where
  program : String := "node_modules/.bin/jshint"
  /-- Arguments before the files. -/
  args : List String := []
  files : List String :=
    ["Gruntfile.js", "node_modules/gh-*/lib/**/*.js", "node_modules/gh-*/tests/**/*.js",
      "node_modules/gh-*/config/**/*.js"]
  deriving Repr, DecidableEq

/-- The part of a pattern that stands for the name of a module. -/
def moduleMark : String := "\x7bmodule\x7d"

/-- Settings of the test runner. -/
structure TestSettings where
  program : String := "node_modules/.bin/mocha"
  /-- Arguments before the time limit, the filter and the files. -/
  args : List String := ["--reporter", "spec", "--slow", "500"]
  /-- Files that are loaded first. -/
  setup : List String := ["node_modules/gh-tests/runner/beforeTests.js"]
  files : List String := ["node_modules/gh-*/tests/**/*.js"]
  /-- The files of one module, whose name takes the place of `moduleMark`. -/
  moduleFiles : List String := ["node_modules/" ++ moduleMark ++ "/tests/**/*.js"]
  /-- The time limit of one test, in milliseconds. -/
  timeoutMs : Nat := 60000
  /-- Runs only the tests whose name matches. -/
  grep : Option String := none
  deriving Repr, DecidableEq

/-- A program with fixed arguments. -/
structure ToolSettings where
  program : String := "node_modules/coveralls/bin/coveralls.js"
  args : List String := []
  deriving Repr, DecidableEq

/-- Settings of the coverage run. -/
structure CoverageSettings where
  /-- The instrumenter, which calls the test runner. -/
  program : String := "node_modules/.bin/istanbul"
  /-- Arguments before the output directory and the exclusions. -/
  args : List String := ["cover", "--verbose", "--no-default-excludes"]
  /-- Where reports are written. It is removed before each run. -/
  outputDir : String := "target"
  /-- The format of a report. -/
  report : String := "lcov"
  /-- The format of a report that is uploaded. -/
  uploadReport : String := "lcovonly"
  /-- What is not counted; these patterns are handed on as they are. -/
  exclude : List String :=
    ["node_modules/gh-*/tests/**", "node_modules/gh-*/lib/test/**", "node_modules/gh-*/config/**",
      "node_modules/gh-*/node_modules/**", "Gruntfile.js"]
  /-- The start page of the report, in the output directory. -/
  htmlReport : String := "lcov-report/index.html"
  /-- The data of the report, in the output directory. -/
  lcovFile : String := "lcov.info"
  /-- The client that uploads a report, which it reads from its input. -/
  upload : ToolSettings := {}
  deriving Repr, DecidableEq

namespace CoverageSettings

def htmlPath (c : CoverageSettings) (root : String) : String :=
  Path.join (Path.join root c.outputDir) c.htmlReport

def lcovPath (c : CoverageSettings) (root : String) : String :=
  Path.join (Path.join root c.outputDir) c.lcovFile

end CoverageSettings

/-- The settings of a project. -/
structure Settings where
  /-- The least level that is logged. -/
  logLevel : LogLevel := .info
  /-- The directory of the log file; without it there is none. -/
  logDir : Option String := none
  style : StyleSettings := {}
  lint : LintSettings := {}
  test : TestSettings := {}
  coverage : CoverageSettings := {}
  deriving Repr, DecidableEq

namespace ScanMode

def name : ScanMode → String
  | firstMatch => "first-match"
  | allOccurrences => "all-occurrences"

end ScanMode

/-- What the user asks of one test run. -/
structure TestOptions where
  grep : Option String := none
  timeoutMs : Option Nat := none
  deriving Repr, DecidableEq

namespace TestOptions

/-- The settings for a run with the options `o`. An empty `grep` asks for nothing. -/
def apply (o : TestOptions) (s : Settings) : Settings :=
  { s with
    test :=
      { s.test with
        grep := if o.grep.getD "" = "" then s.test.grep else o.grep
        timeoutMs := o.timeoutMs.getD s.test.timeoutMs } }

end TestOptions

end BuildGate
