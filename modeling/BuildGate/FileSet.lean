import BuildGate.Glob.Expression
import BuildGate.Glob.Include

/-!
# Sets of files

A set of files is a list of patterns relative to a project's root. An entry that begins with `!`
takes files away; every other one selects files. The files come in the order of the selecting
patterns, each once.

`FileSet.read` fails with the first entry that `readExcludes` cannot read, and when each can be read
but `Glob.Exclude.setFault?` finds that they do not compile together, with all of them.
-/
namespace BuildGate

/-- Entries that select files, and patterns that take files away. -/
structure FileSet where
  includes : List String
  excludes : List (List Glob.Exclude)
  deriving Repr

namespace FileSet

/-- The pattern behind the `!` of an entry that takes files away. -/
def negated? (entry : String) : Option String :=
  match entry.toList with
  | '!' :: rest => some (String.ofList rest)
  | _ => none

/-- Reads the patterns of `!` entries, up to the first that is none. -/
def readExcludes : List String → Except Failure (List (List Glob.Exclude))
  | [] => .ok []
  | entry :: rest =>
    match negated? entry with
    | none => readExcludes rest
    | some glob =>
      match Glob.Exclude.read glob with
      | .error fault => .error (.pattern entry (.exclude glob fault))
      | .ok tokens => do return tokens :: (← readExcludes rest)

/-- All `!` entries with commas between them, as they are blamed together. -/
def excludeEntries (entries : List String) : String :=
  ", ".intercalate (entries.filter fun e => (negated? e).isSome)

/-- Reads a list of entries. It fails with the first `!` entry that is no pattern, or with all of
them if `setFault?` finds that they do not compile together. -/
def read (entries : List String) : Except Failure FileSet := do
  let excludes ← readExcludes entries
  match Glob.Exclude.setFault? excludes with
  | some reason => .error (.pattern (excludeEntries entries) reason)
  | none => return ⟨entries.filter fun e => (negated? e).isNone, excludes⟩

/-- Whether one of `excludes` takes `path` away. -/
def isExcluded (s : FileSet) (path : String) : Bool :=
  s.excludes.any fun tokens => Glob.Exclude.accepts tokens path

/-- The pattern of `entry` below `root`, whose own characters are escaped. -/
def rootedPattern (root entry : String) : String := Path.join (Glob.Include.escape root) entry

/-- The files that `entry` leads to, relative to `root` where they lie below it. -/
def selected (t : FileTree) (root entry : String) : Except Failure (List String) :=
  match Glob.Include.Selector.read (rootedPattern root entry) with
  | .error (position, fault) => .error (.pattern entry (.include position fault))
  | .ok s => .ok (((s.expand t).filter t.isFile).map fun p => (Path.stripPrefix? root p).getD p)

/-- Keeps the first of the texts that are `Path.same`. -/
def distinctPaths (paths : List String) : List String :=
  (paths.foldl
    (fun (acc : List (List Path.Component) × List String) p =>
      let key := Path.components p
      if acc.1.contains key then acc else (key :: acc.1, p :: acc.2))
    ([], [])).2.reverse

/-- Collects what each entry of `includes` leads to, up to the first that is no pattern. -/
def selectedAll (t : FileTree) (root : String) : List String → Except Failure (List String)
  | [] => .ok []
  | entry :: rest => do
    let files ← selected t root entry
    return files ++ (← selectedAll t root rest)

/-- The files of the set below `root`, in the order of `includes` and each once. -/
def expand (s : FileSet) (t : FileTree) (root : String) : Except Failure (List String) := do
  let files ← selectedAll t root s.includes
  return distinctPaths (files.filter fun p => !s.isExcluded p)

end FileSet

end BuildGate
