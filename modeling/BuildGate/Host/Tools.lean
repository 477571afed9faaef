import BuildGate.Host.Shell
import BuildGate.Tool

/-!
# Calling tools on the host

A host is a file tree on which a few programs stand. A call starts one of them in its working
directory; what else a path leads to is no program, and other names lead nowhere.

**Results.**
* `carryOut_error`: a call fails only if its input cannot be opened or its program not started.
-/
namespace BuildGate.Host

/-- A program that stands on the host. -/
inductive Program where
  | shell
  | yes
  | no
  | print
  | join
  deriving Repr, DecidableEq

namespace Program

/-- The programs by name. -/
def byName : List (String × Program) :=
  [("sh", shell), ("true", yes), ("false", no), ("echo", print), ("cat", join)]

/-- The directories in which they stand. -/
def directories : List String := ["/bin", "/usr/bin"]

/-- The program that a call names. A name without a slash is looked up among the programs. -/
def find (t : FileTree) (name : String) : Except IoFault Program :=
  if name.toList.contains '/' then
    match byName.find? fun p => directories.any fun d => Path.join d p.1 == name with
    | some (_, p) => .ok p
    | none =>
      match t.find name with
      | .ok _ => .error .permissionDenied
      | .error cause => .error cause
  else
    match byName.lookup name with
    | some p => .ok p
    | none => .error .notFound

end Program

/-- What a tool leaves behind. -/
structure Left where
  tree : FileTree
  out : String
  err : String
  code : Option Int

/-- What a program leaves that only writes. -/
def Left.ofWritten (t : FileTree) (w : Written) : Left := ⟨t, w.out, w.err, some w.status⟩

/-- Runs the shell with its arguments. -/
def runShell (env : Environment) (t : FileTree) (input : Input) (args : List String) : Left :=
  let s : Shell := { tree := t, env, input }
  let after : Shell :=
    match args with
    | "-c" :: script :: rest => ({ s with name := rest.headD "sh", args := rest.drop 1 }).run script
    | [] => ({ s with input := .ok "" }).run (input.toOption.getD "")
    | file :: rest =>
      if file.startsWith "-" then
        { s with err := "sh: 0: Illegal option " ++ file ++ "\n", status := 2 }
      else
        match t.readFile file with
        | .ok bytes => ({ s with name := file, args := rest }).run (textOf bytes)
        | .error _ => { s with err := "sh: 0: cannot open " ++ file ++ ": No such file\n", status := 2 }
  ⟨after.tree, after.out, after.err, after.exitCode⟩

/-- Runs a program in the directory at which the tree stands. -/
def Program.run (env : Environment) (t : FileTree) (input : Input) (args : List String) :
    Program → Left
  | .shell => runShell env t input args
  | .yes => .ofWritten t {}
  | .no => .ofWritten t { status := 1 }
  | .print =>
    let (style, words) := echoOptions {} args
    .ofWritten t (echo style words)
  | .join => .ofWritten t (cat t input args)

/-- Starts a call. -/
def start (env : Environment) (t : FileTree) (input : Input) (call : Invocation) :
    Except IoFault Left := do
  let there ←
    match call.workingDir with
    | some dir => t.enter dir
    | none => .ok t
  let program ← Program.find there call.program
  return program.run env there input call.args

/-- What a call reads. A directory can be opened, but not read. -/
def inputOf (t : FileTree) (call : Invocation) : Except Failure Input :=
  match call.stdin with
  | none => .ok (.ok "")
  | some path =>
    match t.find path with
    | .ok (.file bytes) => .ok (.ok (textOf bytes))
    | .ok _ => .ok (.error .isADirectory)
    | .error cause => .error (.read path cause)

/-- Carries out a call on a tree. -/
def carryOut (env : Environment) (t : FileTree) (call : Invocation) : Except Failure Left :=
  match inputOf t call with
  | .error e => .error e
  | .ok input => (start env t input call).mapError (Failure.toolSpawn call.program)

theorem carryOut_error {env : Environment} {t : FileTree} {call : Invocation} {e : Failure}
    (h : carryOut env t call = .error e) :
    (∃ path cause, call.stdin = some path ∧ e = .read path cause) ∨
      ∃ cause, e = .toolSpawn call.program cause := by
  unfold carryOut at h
  split at h
  · rename_i hi
    left
    unfold inputOf at hi
    split at hi
    · cases hi
    · rename_i path _
      split at hi
      · cases hi
      · cases hi
      · rename_i cause _
        cases hi
        cases h
        exact ⟨path, cause, by assumption, rfl⟩
  · rename_i input _
    right
    cases hs : start env t input call with
    | error cause =>
      rw [hs] at h
      cases h
      exact ⟨cause, rfl⟩
    | ok l =>
      rw [hs] at h
      cases h

/-- Carries out calls on the host. -/
def runner (env : Environment) : Runner := fun call => do
  Step.emit (.called call)
  let t ← Step.tree
  let left ← Step.ofExcept (carryOut env t call)
  Step.update fun w => { w with tree := { left.tree with workingDir := t.workingDir } }
  Step.emit (.wrote left.out left.err)
  return left.code

end BuildGate.Host
