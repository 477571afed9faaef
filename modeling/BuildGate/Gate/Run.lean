import BuildGate.CommandLine.Help
import BuildGate.Gate.Command
import BuildGate.Host.Tools
import BuildGate.Log.File
import BuildGate.Log.Line
import BuildGate.Settings.Load

/-!
# A run of the program

The whole program as a function: from arguments, environment and file tree to a status, two texts
and the tree that is left. Arguments are read first, then the settings, and then one command is
carried out; what it leaves behind is written out in the order in which it happened.

**Results.**
* `statusOf_eq_zero_iff`: the status is zero if and only if the command succeeded, for statuses that
  a tool can have.
-/
namespace BuildGate.Gate

/-- What the program is started with: its `args`, its `env`, and the `tree` at its working
directory. -/
structure Start where
  args : List String := []
  env : Environment := {}
  tree : FileTree := {}

/-- What the program leaves: the `tree`, what it wrote, and its `status`. -/
structure Ending where
  status : Nat := 0
  out : String := ""
  err : String := ""
  tree : FileTree

/-! ## Before a command -/

/-- The words for arguments that `CommandLine.read` refuses. -/
def refusalWords : CommandLine.Refusal → String
  | .help _ _ => "help"
  | .version => "version"
  | .nothingGiven => "nothing to do"
  | .unknownArgument => "unexpected argument"
  | .unknownVerb => "unrecognized subcommand"
  | .invalidValue => "invalid value for an option"
  | .noNumber => "a value is no number"
  | .conflict => "an argument cannot be used with another one"
  | .needlessValue => "an option takes no value"
  | .missingOperand => "a required argument is missing"

/-- The ending of a run whose arguments are refused: help and the version go to `out`, everything
else to `err`. -/
def endRefused (s : Start) (r : CommandLine.Refusal) : Ending :=
  let base : Ending := { status := r.status, tree := s.tree }
  match r with
  | .help topic inFull => { base with out := CommandLine.Help.text s.env topic inFull }
  | .version => { base with out := Settings.appName ++ " " ++ version ++ "\n" }
  | .nothingGiven => { base with err := CommandLine.Help.text s.env .program false }
  | r => { base with err := "error: " ++ refusalWords r ++ "\n" }

/-- Why `prepare` failed. -/
inductive SetupFault where
  | directory (path : String) (cause : IoFault)
  | settings (failure : Settings.LoadFailure) (cwd : String)
  | logFile (fault : Log.File.Fault)
  deriving Repr, DecidableEq

namespace SetupFault

/-- The fault in words, and what lies behind it, the nearest first. -/
def messages : SetupFault → List String
  | directory path cause => ["failed to change directory to " ++ path, cause.message]
  | settings (.faulty faults) cwd =>
    ["failed to load configuration", (Settings.LoadFailure.faulty faults).message cwd,
      "\n".intercalate (faults.map (Settings.Fault.message cwd))]
  | settings f cwd => ["failed to load configuration", f.message cwd]
  | logFile f => "failed to initialize logging/tracing" :: f.messages

/-- A text whose lines after the first one are moved in. -/
def hang (column : Nat) (s : String) : String := CommandLine.Help.hang column s

/-- What lies behind a fault, with numbers if it is more than one thing. -/
def causes : List String → String
  | [] => ""
  | [c] => "\n\nCaused by:\n    " ++ hang 4 c
  | cs =>
    "\n\nCaused by:" ++
      String.join (cs.zipIdx.map fun (c, i) => "\n    " ++ toString i ++ ": " ++ hang 7 c)

def text (f : SetupFault) : String :=
  match f.messages with
  | [] => ""
  | head :: rest => "Error: " ++ head ++ causes rest ++ "\n"

/-- A log file that cannot be made breaks the program off. -/
def status : SetupFault → Nat
  | logFile (.file _ _) => 101
  | _ => 1

end SetupFault

/-! ## What is written out -/

/-- What an event writes to `out`. With `json`, findings are not written: the document lists them.
-/
def outText (json color : Bool) : Event → String
  | .printed line => line ++ "\n"
  | .wrote out _ => out
  | .found f => if json then "" else findingLine color f ++ "\n"
  | .logged _ | .called _ => ""

/-- What an event writes to `err`. -/
def errText (filter : Log.Filter) (painted : Bool) : Event → String
  | .wrote _ err => err
  | .logged e => ((filter.line? painted e).map (· ++ "\n")).getD ""
  | .printed _ | .found _ | .called _ => ""

/-- The level of log lines that `quiet` and `verbose` ask for; without them it is `level`. -/
def levelFor (quiet : Bool) (verbose : Nat) (level : LogLevel) : LogLevel :=
  if quiet then .error
  else
    match verbose with
    | 0 => level
    | 1 => .debug
    | _ => .trace

/-- Which log lines are shown: those that `RUST_LOG` asks for, or those of `level`. -/
def filterFor (env : Environment) (level : LogLevel) : Log.Filter :=
  ((env.get? "RUST_LOG").bind Log.Filter.read?).getD (.ofLevel level)

/-- The last line of a run that failed. -/
def fatalLine (f : Failure) : String :=
  Ink.bold.paint (Ink.red.paint "error:") ++ " " ++ f.fullMessage ++ "\n"

/-- The entry of a run that failed. -/
def fatalEntry (f : Failure) : LogEntry :=
  ⟨.error, .startup, [], "fatal error", [("error", f.message)]⟩

/-- The status for how a command ended: the lowest eight bits of `Failure.exitCode`. -/
def statusOf : Except Failure Unit → Nat
  | .ok () => 0
  | .error f => (f.exitCode % 256).toNat

theorem statusOf_eq_zero_iff {r : Except Failure Unit}
    (h : ∀ f, r = .error f → 0 ≤ f.exitCode ∧ f.exitCode < 256) : statusOf r = 0 ↔ r = .ok () := by
  cases r with
  | ok u => simp [statusOf]
  | error f =>
    obtain ⟨h0, h1⟩ := h f rfl
    have hne := Failure.exitCode_ne_zero f
    constructor
    · intro h
      simp only [statusOf] at h
      omega
    · intro h
      cases h

/-! ## A run -/

def colorWord : ColorChoice → String
  | .auto => "Auto"
  | .always => "Always"
  | .never => "Never"

/-- Everything that is known before a command begins: its `context`, the `filter` of log lines, and
the `tree` with the log file. -/
structure Ready where
  context : Context
  filter : Log.Filter
  tree : FileTree

/-- Sets a run up: enters the directory of `--chdir`, loads the settings and makes the log file. -/
def prepare (runner : Runner) (s : Start) (c : CommandLine) : FileTree × Except SetupFault Ready :=
  let entered : Except SetupFault FileTree :=
    match c.chdir with
    | none => .ok s.tree
    | some dir => (s.tree.enter dir).mapError (SetupFault.directory dir)
  match entered with
  | .error f => (s.tree, .error f)
  | .ok t =>
    let cwd := FileTree.pathOf t.workingDir
    let request : Settings.Request := { search := some cwd, explicitFiles := c.config.toList }
    match Settings.load request t s.env with
    | .error f => (t, .error (.settings f cwd))
    | .ok (settings, sources) =>
      let place := Log.File.place? s.env settings.logDir
      match place.elim (t, none) (Log.File.create t) with
      | (t, some f) => (t, .error (.logFile f))
      | (t, none) =>
        let filter := filterFor s.env (levelFor c.quiet c.verbose settings.logLevel)
        (t, .ok
          { context :=
              { setup := ⟨settings, sources, sources.projectRoot cwd⟩
                env := s.env
                json := c.json
                color := Console.mayColor c.color s.env
                run := runner }
            filter := { filter with opensAll := place.isSome }
            tree := t })

/-- The step of a whole run: logs how it was started, and carries out `command`. -/
def mainStep (c : CommandLine) (context : Context) (command : Command) : Step Unit := do
  Step.log .debug .startup "CLI initialized"
    [("verbose", toString c.verbose), ("quiet", Context.boolText c.quiet),
      ("json", Context.boolText c.json), ("color", colorWord c.color),
      ("chdir", Quoted.optionalPath c.chdir), ("root", context.root)]
  context.carryOut command

/-- Carries out `command`, and turns the events of its trace into what is written. -/
def runCommand (runner : Runner) (s : Start) (c : CommandLine) (command : Command) : Ending :=
  match prepare runner s c with
  | (t, .error f) => { status := f.status, err := f.text, tree := t }
  | (_, .ok r) =>
    let (result, w) := mainStep c r.context command { tree := r.tree }
    let painted := Console.paintsLog s.env
    let err := String.join (w.trace.map (errText r.filter painted))
    { status := statusOf result
      out := String.join (w.trace.map (outText c.json r.context.color))
      err :=
        match result with
        | .ok () => err
        | .error f => err ++ errText r.filter painted (.logged (fatalEntry f)) ++ fatalLine f
      tree := w.tree }

/-- Runs the program with `runner` carrying out its calls. -/
def runWith (runner : Runner) (s : Start) : Ending :=
  match CommandLine.read s.env s.args with
  | .error r => endRefused s r
  | .ok c =>
    if c.versionOnly then { out := version ++ "\n", tree := s.tree }
    else
      match c.command with
      | none => { tree := s.tree }
      | some command => runCommand runner s c command

/-- Runs the program with the runner of the host. -/
def run (s : Start) : Ending := runWith (Host.runner s.env) s

end BuildGate.Gate
