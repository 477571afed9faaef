import BuildGate.CommandLine.Arguments
import BuildGate.Settings.Basic

/-!
# Command lines

A `CommandLine` is what the user asks for: one command, and options that hold for every command. An
option that stands before and after the verb counts as it stands after it.
-/
namespace BuildGate

/-- Whether output is in colour. -/
inductive ColorChoice where
  /-- As the environment asks for it. -/
  | auto
  | always
  | never
  deriving Repr, DecidableEq

/-- What is done with a coverage report. -/
inductive Afterwards where
  | nothing
  | «open»
  | upload
  deriving Repr, DecidableEq

/-- A command with its own options. -/
inductive Command where
  | lint
  | scan (files : List String) (mode : Option ScanMode)
  | checkStyle
  | test (options : TestOptions)
  | testModule (name : String) (options : TestOptions)
  | coverage (report : Option String) (afterwards : Afterwards) (options : TestOptions)
  | «show» (file : String)
  | all (options : TestOptions)
  | rules
  | info
  deriving Repr, DecidableEq

/-- What the user asks for. -/
structure CommandLine where
  versionOnly : Bool := false
  config : Option String := none
  chdir : Option String := none
  quiet : Bool := false
  verbose : Nat := 0
  color : ColorChoice := .auto
  json : Bool := false
  command : Option Command := none
  deriving Repr, DecidableEq

namespace CommandLine

namespace Given

def text? : Given → Option String
  | text s => some s
  | _ => none

def number? : Given → Option Nat
  | number n => some n
  | _ => none

def times? : Given → Option Nat
  | times n => some n
  | _ => none

end Given

/-- The color choice that a word names. -/
def colorOf : Option String → ColorChoice
  | some "always" => .always
  | some "never" => .never
  | _ => .auto

def modeOf? : String → Option ScanMode
  | "first-match" => some .firstMatch
  | "all-occurrences" => some .allOccurrences
  | _ => none

namespace VerbArguments

/-- What an option of the verb is given, on the command line or by a variable. -/
def value? (a : VerbArguments) (o : Opt) : Option Given :=
  (a.given.lookup o).or (a.fromVariables.lookup o)

def testOptions (a : VerbArguments) : TestOptions where
  grep := (a.value? .grep).bind Given.text?
  timeoutMs := (a.value? .timeout).bind Given.number?

def afterwards (a : VerbArguments) : Afterwards :=
  if (a.value? .upload).isSome then .upload
  else if (a.value? .open).isSome then .open
  else .nothing

/-- The first operand. -/
def operand (a : VerbArguments) : String := a.operands.headD ""

def command (a : VerbArguments) : Command :=
  match a.verb with
  | .lint => .lint
  | .scan => .scan a.operands (((a.value? .mode).bind Given.text?).bind modeOf?)
  | .checkStyle => .checkStyle
  | .test => .test a.testOptions
  | .testModule => .testModule a.operand a.testOptions
  | .coverage => .coverage ((a.value? .report).bind Given.text?) a.afterwards a.testOptions
  | .show => .show a.operand
  | .all => .all a.testOptions
  | .rules => .rules
  | .info => .info

end VerbArguments

namespace Arguments

/-- What an option is given that may stand before and after the verb. -/
def shared? (a : Arguments) (o : Opt) : Option Given :=
  (a.verb.bind fun v => v.given.lookup o).or (a.given.lookup o)

def commandLine (a : Arguments) : CommandLine where
  versionOnly := (a.given.lookup .versionOnly).isSome
  config := (a.shared? .config).bind Given.text?
  chdir := (a.shared? .chdir).bind Given.text?
  quiet := (a.shared? .quiet).isSome
  verbose := ((a.shared? .verbose).bind Given.times?).getD 0
  color := colorOf ((a.shared? .color).bind Given.text?)
  json := (a.shared? .json).isSome
  command := a.verb.map VerbArguments.command

end Arguments

/-- Reads a command line. -/
def read (env : Environment) (args : List String) : Except Refusal CommandLine :=
  (readArguments env args).map Arguments.commandLine

end CommandLine

end BuildGate
