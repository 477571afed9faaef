import BuildGate.Report
import BuildGate.FileTree
import BuildGate.Log
import BuildGate.Quoted

/-!
# External tools

Linters, test runners and their like are programs whose only answer is how they ended. A `Step` is a
part of a run: it may change the world, it leaves a trace of what it reported and called, and it
succeeds or fails. A `Runner` is what carries out a call.
-/
namespace BuildGate

/-- A call of a program. -/
structure Invocation where
  program : String
  args : List String := []
  /-- A file whose content the program reads. -/
  stdin : Option String := none
  workingDir : Option String := none
  deriving Repr, DecidableEq

namespace Invocation

def arg (i : Invocation) (a : String) : Invocation := { i with args := i.args ++ [a] }

def withArgs (i : Invocation) (as : List String) : Invocation := { i with args := i.args ++ as }

/-- The call as a command line, without quotes. -/
def display (i : Invocation) : String :=
  " ".intercalate (i.program :: i.args) ++
    match i.stdin with
    | some path => " < " ++ path
    | none => ""

end Invocation

/-- How a call ended: with a status or by a signal, or the program could not be started. -/
inductive Answer where
  | exited (code : Option Int)
  | notStarted (cause : IoFault)
  deriving Repr, DecidableEq

/-- What a run leaves behind, in order. -/
inductive Event where
  | logged (entry : LogEntry)
  | found (finding : Finding)
  | called (call : Invocation)
  /-- What a tool wrote. -/
  | wrote (out err : String)
  /-- A line for the user. -/
  | printed (line : String)
  deriving Repr

/-- What a run sees and changes. -/
structure World where
  tree : FileTree := {}
  /-- Answers laid down for calls to come. -/
  answers : List Answer := []
  /-- The spans that are open, the outermost first. -/
  spans : List LogSpan := []
  trace : List Event := []

/-- A part of a run. -/
abbrev Step (α : Type) := ExceptT Failure (StateM World) α

namespace Step

/-- A step that cannot fail. -/
def update (f : World → World) : Step Unit := fun w => (.ok (), f w)

def tree : Step FileTree := fun w => (.ok w.tree, w)

def emit (e : Event) : Step Unit := update fun w => { w with trace := w.trace ++ [e] }

def log (level : LogLevel) (source : LogSource) (message : String) (fields : List LogField := []) :
    Step Unit :=
  fun w => emit (.logged ⟨level, source, w.spans, message, fields⟩) w

def ofExcept {α : Type} (r : Except Failure α) : Step α := fun w => (r, w)

/-- Runs a step in a span, which is closed however the step ends. -/
def inSpan {α : Type} (s : LogSpan) (step : Step α) : Step α := fun w =>
  let (r, w') := step { w with spans := w.spans ++ [s] }
  (r, { w' with spans := w.spans })

/-- Runs a step and hands over how it ended. -/
def attempt {α : Type} (step : Step α) : Step (Except Failure α) := fun w =>
  let (r, w') := step w
  (.ok r, w')

end Step

/-- Carries out calls. -/
abbrev Runner := Invocation → Step (Option Int)

/-- Records every call and gives the answers laid down for it, and success once there are none. -/
def Runner.scripted : Runner := fun call w =>
  let w := { w with trace := w.trace ++ [Event.called call] }
  match w.answers with
  | [] => (.ok (some 0), w)
  | .exited code :: rest => (.ok code, { w with answers := rest })
  | .notStarted cause :: rest =>
    (.error (.toolSpawn call.program cause), { w with answers := rest })

/-- A status as a log line shows it. -/
def showCode : Option Int → String
  | none => "None"
  | some code => "Some(" ++ toString code ++ ")"

/-- Carries out a call, and fails unless the tool ended with the status 0. -/
def runChecked (run : Runner) (call : Invocation) : Step Unit := do
  Step.log .info .tools "running external tool" [("command", call.display)]
  let code ← run call
  if code = some 0 then return ()
  else
    Step.log .warn .tools "external tool failed"
      [("tool", call.program), ("code", showCode code)]
    throw (.toolFailed call.program code)

end BuildGate
