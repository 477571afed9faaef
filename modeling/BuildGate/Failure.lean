import BuildGate.Glob.Fault
import BuildGate.Pattern.Fault

/-!
# Failures

A `Failure` is the cause why a step of the gate did not succeed. Its message and its exit status are
functions of the cause.

**Results.**
* `exitCode_ne_zero`: no failure ends with the status of success.
-/
namespace BuildGate

/-- Why a file or a program could not be used. -/
inductive IoFault where
  | notFound
  | permissionDenied
  | notADirectory
  | isADirectory
  | invalidData
  | invalidInput
  | tooManyLinks
  | nameTooLong
  | alreadyExists
  | directoryNotEmpty
  /-- A program that is no executable. -/
  | execFormat
  | other
  deriving Repr, DecidableEq

/-- The fault in the words of the operating system, with its number behind. -/
def IoFault.message : IoFault → String
  | notFound => "No such file or directory (os error 2)"
  | permissionDenied => "Permission denied (os error 13)"
  | notADirectory => "Not a directory (os error 20)"
  | isADirectory => "Is a directory (os error 21)"
  | invalidData => "stream did not contain valid UTF-8"
  | invalidInput => "file name contained an unexpected NUL byte"
  | tooManyLinks => "Too many levels of symbolic links (os error 40)"
  | nameTooLong => "File name too long (os error 36)"
  | alreadyExists => "File exists (os error 17)"
  | directoryNotEmpty => "Directory not empty (os error 39)"
  | execFormat => "Exec format error (os error 8)"
  | other => "other error"

/-- Why a step failed. -/
inductive Failure where
  | read (path : String) (cause : IoFault)
  | pattern (pattern : String) (reason : Glob.Reason)
  | io (path : String) (cause : IoFault)
  | unsafeClean (path root : String)
  | invalidModule (name : String)
  | invalidRule (pattern : String) (reason : Pattern.Reason)
  | styleViolations (count : Nat)
  | toolSpawn (tool : String) (cause : IoFault)
  /-- A tool that ended with a status, or by a signal. -/
  | toolFailed (tool : String) (code : Option Int)
  | combined (failures : List Failure)
  deriving Repr, Inhabited

namespace Failure

/-- The words for the code with which a tool ended, or for its end without one. -/
def describeExit : Option Int → String
  | none => "a signal"
  | some code => "exit code " ++ toString code

mutual

def message : Failure → String
  | read path _ => "failed to read " ++ path
  | pattern p _ => "invalid glob pattern `" ++ p ++ "`"
  | io path _ => "failed to prepare " ++ path
  | unsafeClean path root =>
    "refusing to remove " ++ path ++ ": not a directory inside " ++ root
  | invalidModule name => "invalid module name `" ++ name ++ "`"
  | invalidRule p _ => "invalid style rule pattern `" ++ p ++ "`"
  | styleViolations count =>
    "style rule validation failed (" ++ toString count ++ " violation(s))"
  | toolSpawn tool _ => "failed to run " ++ tool
  | toolFailed tool code => tool ++ " exited with " ++ describeExit code
  | combined failures => joined failures

/-- The messages of `combined` failures, with a semicolon between them. -/
def joined : List Failure → String
  | [] => ""
  | [f] => f.message
  | f :: rest => f.message ++ "; " ++ joined rest

end

/-- What lies behind a failure whose `message` does not say it. -/
def detail : Failure → Option String
  | read _ cause | io _ cause | toolSpawn _ cause => some cause.message
  | pattern _ reason => some reason.message
  | invalidRule p reason => some (reason.render p)
  | _ => none

/-- The `message`, and the `detail` if there is one. -/
def fullMessage (f : Failure) : String :=
  match f.detail with
  | some d => f.message ++ ": " ++ d
  | none => f.message

/-- One failure for a list of them: none for none, the failure itself for one, and else `combined`.
-/
def combine : List Failure → Option Failure
  | [] => none
  | [f] => some f
  | failures => some (combined failures)

mutual

/-- The exit status for a failure: the code of `toolFailed` as it was reported, and 1 for everything
else. Of `combined` failures the first one decides. -/
def exitCode : Failure → Int
  | toolFailed _ (some code) => if code = 0 then 1 else code
  | combined failures => firstExitCode failures
  | _ => 1

def firstExitCode : List Failure → Int
  | [] => 1
  | f :: _ => f.exitCode

end

mutual

theorem exitCode_ne_zero : (f : Failure) → f.exitCode ≠ 0
  | toolFailed _ (some code) => by
    unfold exitCode
    split
    · decide
    · assumption
  | combined failures => by
    unfold exitCode
    exact firstExitCode_ne_zero failures
  | toolFailed _ none | read _ _ | pattern _ _ | io _ _ | unsafeClean _ _ | invalidModule _
  | invalidRule _ _ | styleViolations _ | toolSpawn _ _ => by simp [exitCode]

theorem firstExitCode_ne_zero : (fs : List Failure) → firstExitCode fs ≠ 0
  | [] => by simp [firstExitCode]
  | f :: _ => by
    unfold firstExitCode
    exact exitCode_ne_zero f

end

end Failure

end BuildGate
