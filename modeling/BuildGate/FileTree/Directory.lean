import BuildGate.FileTree

/-!
# Directories and single files

Making directories, entering them and removing single entries by path.
-/
namespace BuildGate.FileTree

/-- The tree with `workingDir` at `path`. -/
def enter (t : FileTree) (path : String) : Except IoFault FileTree := do
  let loc ← t.resolve path
  if t.get? loc = some .dir then return { t with workingDir := loc } else .error .notADirectory

/-- The directory and the name of the last step of `path`, which is not followed, or nothing if the
last step is no name. -/
def lastName (t : FileTree) (path : String) : Except IoFault (Option (Location × String)) := do
  let steps := (Path.segments path).filterMap stepOf
  let start := if Path.isAbsolute path then [] else t.workingDir
  match steps.getLast? with
  | some (.down name) =>
    let dir ← t.walk true maxLinks start steps.dropLast
    if t.get? dir ≠ some .dir then .error .notADirectory
    else if maxName < name.utf8ByteSize then .error .nameTooLong
    else return some (dir, name)
  | _ =>
    let _ ← t.resolve path
    return none

/-- Makes a directory at `path`, where nothing is yet. -/
def makeDir (t : FileTree) (path : String) : Except IoFault FileTree := do
  if path.toList.contains '\x00' then .error .invalidInput
  match ← t.lastName path with
  | none => .error .alreadyExists
  | some (dir, name) =>
    if (t.get? (dir ++ [name])).isSome then .error .alreadyExists
    else return t.put (dir ++ [name]) .dir

/-- Makes a directory, and those above it that are missing. What was made before something went
wrong stays. The fuel bounds the directories above. -/
def makeDirFrom : Nat → FileTree → String → FileTree × Option IoFault
  | 0, t, _ => (t, some .other)
  | fuel + 1, t, path =>
    let settle (t : FileTree) (cause : IoFault) :=
      if t.isDir path then (t, none) else (t, some cause)
    if path = "" then (t, none)
    else
      match t.makeDir path with
      | .ok t => (t, none)
      | .error .notFound =>
        match Path.parent? path with
        | none => (t, some .other)
        | some above =>
          match makeDirFrom fuel t above with
          | (t, some cause) => (t, some cause)
          | (t, none) =>
            match t.makeDir path with
            | .ok t => (t, none)
            | .error cause => settle t cause
      | .error cause => settle t cause

def makeDirAll (t : FileTree) (path : String) : FileTree × Option IoFault :=
  makeDirFrom ((Path.parts path).length + 2) t path

/-- Removes what stands at `path` and is no directory. -/
def removeFile (t : FileTree) (path : String) : Except IoFault FileTree := do
  let loc ← t.resolveWith false path
  if t.get? loc = some .dir then .error .isADirectory else return t.remove loc

/-- Removes what stands at and below `path`. -/
def removeAll (t : FileTree) (path : String) : Except IoFault FileTree := do
  return t.remove (← t.resolveWith false path)

end BuildGate.FileTree
