import BuildGate.Environment
import BuildGate.FileTree.Directory
import BuildGate.Host.Program
import BuildGate.Host.Script

/-!
# The shell

Carries out scripts on a file tree. A script ends with the status of its last command, with the one
it exits with, or by the signal that it sends to itself.
-/
namespace BuildGate.Host

/-- How a script ended before its last command. -/
inductive Ended where
  | exited
  | signalled
  deriving Repr, DecidableEq

/-- A shell while it carries out a script. -/
structure Shell where
  /-- The tree, in which the shell stands at the working directory. -/
  tree : FileTree
  env : Environment := {}
  /-- The name of the script, and its arguments. -/
  name : String := "sh"
  args : List String := []
  /-- What is left to read. -/
  input : Input := .ok ""
  out : String := ""
  err : String := ""
  status : Nat := 0
  ended : Option Ended := none

namespace Shell

/-- How the shell begins a message of its own. -/
def complaint (words : String) : String := "sh: 1: " ++ words ++ "\n"

/-! ## Words -/

/-- The process by which the shell is known to its scripts. -/
def ownProcess : String := "1"

/-- The value of a parameter that is no list. -/
def parameter (s : Shell) (name : String) : String :=
  if name = "$" then ownProcess
  else if name = "?" then toString s.status
  else if name = "#" then toString s.args.length
  else
    match name.toNat? with
    | some 0 => s.name
    | some n => (s.args[n - 1]?).getD ""
    | none => (s.env.get? name).getD ""

/-- Words while parts are added to them: those that are complete, and the one that may grow. -/
structure Fields where
  done : List String := []
  open? : Option String := none

namespace Fields

def grow (f : Fields) (s : String) : Fields := { f with open? := some (f.open?.getD "" ++ s) }

def close (f : Fields) : Fields := ⟨f.done ++ f.open?.toList, none⟩

/-- Adds texts, of which each but the last one ends a word. -/
def growAll (f : Fields) : List String → Fields
  | [] => f
  | [s] => f.grow s
  | s :: rest => (f.grow s).close.growAll rest

def isBreak (c : Char) : Bool := c == ' ' || c == '\t' || c == '\n'

/-- Adds a text whose blanks separate words. -/
def growSplit (f : Fields) (s : String) : Fields :=
  s.toList.foldl (fun f c => if isBreak c then f.close else f.grow (String.singleton c)) f

end Fields

/-- The words that one word of a script gives. -/
def expand (s : Shell) (w : Word) : List String :=
  (w.foldl
    (fun f p =>
      match p with
      | .text t => f.grow t
      | .param "@" true => f.growAll s.args
      | .param "*" true => f.grow (" ".intercalate s.args)
      | .param "@" false | .param "*" false => f.growSplit (" ".intercalate s.args)
      | .param name true => f.grow (s.parameter name)
      | .param name false => f.growSplit (s.parameter name))
    ({} : Fields)).close.done

/-! ## Commands -/

/-- The signals that a process may send, by number and by name. Nothing else ends the shell. -/
def signals : List String :=
  ["1", "2", "3", "6", "9", "13", "14", "15", "HUP", "INT", "QUIT", "ABRT", "KILL", "PIPE", "ALRM",
    "TERM"]

/-- A signal without what may stand before its name. -/
def signalName (s : String) : String := if s.startsWith "SIG" then String.ofList (s.toList.drop 3) else s

/-- Whether arguments ask that the shell be killed. -/
def killsItself (args : List String) : Bool :=
  match args with
  | [p] => p == ownProcess
  | ["-s", sig, p] => p == ownProcess && signals.contains (signalName sig)
  | [sig, p] => p == ownProcess && signals.contains (signalName (String.ofList (sig.toList.drop 1)))
  | _ => false

def write (s : Shell) (w : Written) : Shell × Written := ({ s with status := w.status }, w)

def fail (s : Shell) (status : Nat) (words : String) : Shell × Written :=
  s.write { err := complaint words, status }

/-- A change of the tree, which may go wrong and leave a part of it done. -/
abbrev Change := FileTree → String → FileTree × Option IoFault

/-- A change that is done as a whole or not at all. -/
def Change.ofExcept (f : FileTree → String → Except IoFault FileTree) : Change := fun t path =>
  match f t path with
  | .ok t => (t, none)
  | .error cause => (t, some cause)

/-- Changes the tree for each path, and complains of what goes wrong. -/
def changeEach (s : Shell) (what : String) (f : Change) (paths : List String) : Shell × Written :=
  let (t, w) := paths.foldl
    (fun ((t, w) : FileTree × Written) path =>
      match f t path with
      | (t, none) => (t, w)
      | (t, some cause) =>
        (t, { w with
          err := w.err ++ what ++ " '" ++ path ++ "': " ++ plainCause cause ++ "\n", status := 1 }))
    (s.tree, {})
  { s with tree := t }.write w

/-- Carries out a command that is given by its words. -/
def command (s : Shell) : List String → Shell × Written
  | [] => ({ s with status := 0 }, {})
  | ":" :: _ | "true" :: _ => s.write {}
  | "false" :: _ => s.write { status := 1 }
  | "echo" :: args =>
    match args with
    | "-n" :: rest => s.write (echo ⟨false, true⟩ rest)
    | _ => s.write (echo ⟨true, true⟩ args)
  | "pwd" :: _ => s.write { out := FileTree.pathOf s.tree.workingDir ++ "\n" }
  | "cat" :: args =>
    let (s', w) := s.write (cat s.tree s.input args)
    (if args.isEmpty || args.contains "-" then { s' with input := .ok "" } else s', w)
  | "exit" :: args =>
    match args with
    | [] => ({ s with ended := some .exited }, { status := s.status })
    | n :: _ =>
      match n.toNat? with
      | some k => ({ s with status := k % 256, ended := some .exited }, { status := k % 256 })
      | none =>
        let (s', w) := s.fail 2 ("exit: Illegal number: " ++ n)
        ({ s' with ended := some .exited }, w)
  | "kill" :: args =>
    if killsItself args then ({ s with ended := some .signalled }, {})
    else s.fail 1 "kill: No such process"
  | "cd" :: args =>
    let target := args.headD ((s.env.get? "HOME").getD "")
    match s.tree.enter target with
    | Except.ok t => ({ s with tree := t, status := 0 }, {})
    | Except.error _ => s.fail 2 ("cd: can't cd to " ++ target)
  | "mkdir" :: args =>
    if args.contains "-p" then
      s.changeEach "mkdir: cannot create directory" FileTree.makeDirAll (args.filter (· ≠ "-p"))
    else s.changeEach "mkdir: cannot create directory" (.ofExcept FileTree.makeDir) args
  | "touch" :: args =>
    s.changeEach "touch: cannot touch"
      (.ofExcept fun t path => if t.exists path then .ok t else t.writeFile path .empty) args
  | "rm" :: args =>
    let has (c : Char) := args.any fun a => a.startsWith "-" && a.toList.contains c
    s.changeEach "rm: cannot remove"
      (.ofExcept fun t path =>
        if has 'f' && !t.hasEntry path then .ok t
        else if has 'r' then t.removeAll path
        else t.removeFile path)
      (args.filter fun a => !a.startsWith "-")
  | name :: _ => s.fail 127 (name ++ ": not found")

/-! ## Redirections -/

/-- Where a stream goes. -/
inductive Sink where
  | out
  | err
  | file (path : String)
  | nowhere
  deriving Repr, DecidableEq

structure Sinks where
  out : Sink := .out
  err : Sink := .err

namespace Sinks

/-- Where a stream of a number goes. -/
def get? (k : Sinks) (stream : Nat) : Option Sink :=
  if stream = 1 then some k.out else if stream = 2 then some k.err else none

def set (k : Sinks) (stream : Nat) (sink : Sink) : Sinks :=
  if stream = 1 then { k with out := sink } else if stream = 2 then { k with err := sink } else k

end Sinks

/-- The file that swallows everything and holds nothing. -/
def nullFile : String := "/dev/null"

/-- Opens what a redirection names, or complains. -/
def redirect (s : Shell) (k : Sinks) : Redirect → Except String (Shell × Sinks)
  | .input file =>
    let path := (s.expand file).headD ""
    if path = nullFile then .ok ({ s with input := .ok "" }, k)
    else
      match s.tree.find path with
      | .ok (.file bytes) => .ok ({ s with input := .ok (textOf bytes) }, k)
      | .ok _ => .ok ({ s with input := .error .isADirectory }, k)
      | .error _ => .error ("cannot open " ++ path ++ ": No such file")
  | .output stream file append =>
    let path := (s.expand file).headD ""
    if path = nullFile then .ok (s, k.set stream .nowhere)
    else
      match
        if append ∧ s.tree.isFile path then .ok s.tree else s.tree.writeFile path .empty with
      | .ok t => .ok ({ s with tree := t }, k.set stream (.file path))
      | .error .isADirectory => .error ("cannot create " ++ path ++ ": Is a directory")
      | .error _ => .error ("cannot create " ++ path ++ ": Directory nonexistent")
  | .join stream other =>
    match ((s.expand other).headD "").toNat?.bind k.get? with
    | some sink => .ok (s, k.set stream sink)
    | none => .error "Bad fd number"

/-- Sends a text where a stream goes. -/
def send (s : Shell) (sink : Sink) (text : String) : Shell :=
  match sink with
  | .out => { s with out := s.out ++ text }
  | .err => { s with err := s.err ++ text }
  | .nowhere => s
  | .file path =>
    match s.tree.readFile path with
    | .ok bytes =>
      match s.tree.writeFile path (bytes ++ text.toUTF8) with
      | .ok t => { s with tree := t }
      | .error _ => s
    | .error _ => s

/-- Carries out a simple command. A file that it reads instead of its input is read by it alone. -/
def runSimple (s : Shell) (c : Simple) : Shell :=
  match c.redirects.foldlM (fun (s, k) r => s.redirect k r) (s, ({} : Sinks)) with
  | .error words => { s with err := s.err ++ complaint words, status := 2 }
  | .ok (opened, k) =>
    let (after, w) := opened.command (c.words.flatMap s.expand)
    let readsFile := c.redirects.any fun
      | .input _ => true
      | _ => false
    let after := if readsFile then { after with input := s.input } else after
    (after.send k.out w.out).send k.err w.err

/-- Carries out the commands of a pipe. All but the last one run in a shell of their own, of which
only what they write and how they change the tree is left. -/
def runPipe (s : Shell) : List Simple → Shell
  | [] => s
  | [c] => s.runSimple c
  | c :: rest =>
    let inner := { s with out := "" }.runSimple c
    let s' : Shell :=
      { s with
        tree := { inner.tree with workingDir := s.tree.workingDir }
        err := inner.err
        input := .ok inner.out }
    s'.runPipe rest

/-- Carries out a script. -/
def runScript (s : Shell) : Script → Shell
  | [] => s
  | (joint, pipe) :: rest =>
    if s.ended.isSome then s
    else
      let runs :=
        match joint with
        | .always => true
        | .ifOk => s.status == 0
        | .ifFailed => s.status != 0
      (if runs then s.runPipe pipe else s).runScript rest

/-- How the shell ended: its status, or nothing after a signal. -/
def exitCode (s : Shell) : Option Int := if s.ended = some .signalled then none else some s.status

/-- Carries out the text of a script. -/
def run (s : Shell) (text : String) : Shell :=
  match Script.read? text with
  | some script => s.runScript script
  | none => { s with err := s.err ++ complaint "Syntax error", status := 2 }

end Shell

end BuildGate.Host
