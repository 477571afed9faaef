import BuildGate.Tool

/-!
# The style check

Reads files in order, scans each with the rules and reports every match. A file that cannot be read
ends the run, because to skip it could hide a defect; what was found before it stays reported. A
`Tally` goes with the run: each finding is counted in it and combines its outcome with a failure.
-/
namespace BuildGate

/-- What a run of the style check came to. -/
structure StyleSummary where
  files : Nat
  violations : Nat
  outcome : Outcome
  deriving Repr, DecidableEq

namespace StyleSummary

/-- A summary whose outcome is `fail` is a failure. -/
def intoResult (s : StyleSummary) : Except Failure StyleSummary :=
  match s.outcome with
  | .pass => .ok s
  | .fail => .error (.styleViolations s.violations)

end StyleSummary

namespace StyleCheck

/-- What `rules` find in the `text` of one `file`. -/
def findings (file text : String) (rules : List Rule) (mode : ScanMode) : List Finding :=
  (scan text rules mode).map fun m => ⟨file, m, locate text m.offset⟩

/-- What a run has come to so far: the number of `violations`, and the `outcome`. -/
structure Tally where
  violations : Nat := 0
  outcome : Outcome := .pass
  deriving Repr, DecidableEq

/-- The tally with one more finding, whose outcome is `fail`. -/
def Tally.found (t : Tally) : Tally := ⟨t.violations + 1, t.outcome.combine .fail⟩

/-- Reports findings one after the other and tallies them. -/
def reportEach : List Finding → Tally → Step Tally
  | [], t => pure t
  | f :: rest, t => do
    Step.emit (.found f)
    reportEach rest t.found

/-- Reads and scans one file below a root, and reports what it finds. -/
def scanFile (root file : String) (rules : List Rule) (mode : ScanMode) (t : Tally) : Step Tally := do
  let path := Path.join root file
  match (← Step.tree).readText path with
  | .error cause => throw (.read path cause)
  | .ok text =>
    let fs := findings file text rules mode
    Step.log .debug .styleCheck "scanned file" [("file", file), ("matches", toString fs.length)]
    reportEach fs t

/-- Scans files one after the other. -/
def scanEach (root : String) (rules : List Rule) (mode : ScanMode) : List String → Tally → Step Tally
  | [], t => pure t
  | file :: rest, t => do scanEach root rules mode rest (← scanFile root file rules mode t)

end StyleCheck

/-- Scans files below a root and reports what it finds. -/
def scanFiles (root : String) (files : List String) (rules : List Rule) (mode : ScanMode) :
    Step StyleSummary :=
  Step.inSpan
    ⟨.styleCheck, "scan_files",
      [("files", toString files.length), ("rules", toString rules.length)]⟩ do
    let tally ← StyleCheck.scanEach root rules mode files {}
    return ⟨files.length, tally.violations, tally.outcome⟩

/-- Scans files below a root and fails if anything was found. -/
def runStyleCheck (root : String) (files : List String) (rules : List Rule) (mode : ScanMode) :
    Step StyleSummary := do
  Step.ofExcept (← scanFiles root files rules mode).intoResult

end BuildGate
