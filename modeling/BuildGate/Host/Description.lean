import BuildGate.Data.Json
import BuildGate.Environment
import BuildGate.FileTree

/-!
# Descriptions of hosts

A host is described by a JSON object. Under `directory` stands the path of the working directory,
under `variables` the environment, and under `files` what stands at each path: the text of a file,
`null` for a directory, or an object with the target of a link under `link`. Relative paths start
from the working directory, and the directories above an entry are made.
-/
namespace BuildGate.Host

open Data

/-- Where a program runs: its variables, and the tree at its working directory. -/
structure Description where
  env : Environment := {}
  tree : FileTree := {}
  deriving DecidableEq

namespace Description

/-- The names of a path, which says nothing about the directory that it starts from. -/
def names (path : String) : Location :=
  (Path.segments path).filter fun s => s ≠ "" ∧ s ≠ "." ∧ s ≠ ".."

/-- The location of a path. -/
def location (dir : Location) (path : String) : Location :=
  (if Path.isAbsolute path then [] else dir) ++ names path

/-- Puts an entry at a location, below directories. -/
def place (t : FileTree) (loc : Location) (e : Entry) : FileTree := (t.makeDirs loc.dropLast).put loc e

/-- What an entry of a description stands for. -/
def entryOf? : Plain → Option Entry
  | .scalar _ .null => some .dir
  | .scalar _ (.text s) => some (.file s.toUTF8)
  | .table _ fields =>
    match fields.lookup "link" with
    | some (.scalar _ (.text target)) => some (.link target)
    | _ => none
  | _ => none

/-- The entries under a key; there are none if it is not there. -/
def section? (fields : List (String × Plain)) (key : String) : Option (List (String × Plain)) :=
  match fields.lookup key with
  | none => some []
  | some (.table _ es) => some es
  | some _ => none

def binding? : String × Plain → Option (String × String)
  | (name, .scalar _ (.text value)) => some (name, value)
  | _ => none

def directory? (fields : List (String × Plain)) : Option Location :=
  match fields.lookup "directory" with
  | none => some []
  | some (.scalar _ (.text path)) => some (names path)
  | some _ => none

/-- The host that an object describes. -/
def ofFields? (fields : List (String × Plain)) : Option Description := do
  let dir ← directory? fields
  let vars ← (← section? fields "variables").mapM binding?
  let files ← (← section? fields "files").mapM fun (path, d) =>
    (entryOf? d).map fun e => (location dir path, e)
  let start : FileTree := { workingDir := dir }
  return { env := ⟨vars⟩, tree := files.foldl (fun t (loc, e) => place t loc e) (start.makeDirs dir) }

/-- The host that a text describes. -/
def read? (text : String) : Option Description :=
  match Json.read? text with
  | some (.table _ fields) => ofFields? fields
  | _ => none

end Description

end BuildGate.Host
