import BuildGate.Environment
import BuildGate.FileTree.Directory

/-!
# The log file

Entries are also written to a file when one is named: by a variable, or by the directory that a
variable or the settings name. The file and the directories above it are made before anything is
logged.
-/
namespace BuildGate.Log.File

/-- The variable that names the file. -/
def pathVariable : String := "STYLEGATE_LOG_PATH"

/-- The variable that names the directory. -/
def dirVariable : String := "STYLEGATE_LOG_DIR"

/-- The name of the file in its directory. -/
def name : String := "stylegate.log"

/-- Where the log file is: `pathVariable`, or `name` in the directory of `dirVariable` or else in
`dir`, which the settings name. Variables that are empty name nothing. -/
def place? (env : Environment) (dir : Option String) : Option String :=
  (env.nonempty? pathVariable).or
    (((env.nonempty? dirVariable).or dir).map fun d => Path.join d name)

/-- Why there is no log file. -/
inductive Fault where
  | noName (path : String)
  | directory (path : String) (cause : IoFault)
  /-- The file cannot be made where its directory is. -/
  | file (path : String) (cause : IoFault)
  deriving Repr, DecidableEq

/-- The fault in words, and its cause where there is one. -/
def Fault.messages : Fault → List String
  | noName path => ["log path has no file name: " ++ path]
  | directory path cause => ["failed to create log directory " ++ path, cause.message]
  | file path cause => ["failed to create log file " ++ path, cause.message]

/-- The directory and the name of the log file at `path`. -/
def split (path : String) : Except Fault (String × String) :=
  match Path.fileName? path with
  | none => .error (.noName path)
  | some name => .ok (((Path.parent? path).filter (· ≠ "")).getD ".", name)

/-- Makes the log file at `path`, unless it is there. What was made before something went wrong
stays. -/
def create (t : FileTree) (path : String) : FileTree × Option Fault :=
  match split path with
  | .error f => (t, some f)
  | .ok (dir, name) =>
    match t.makeDirAll dir with
    | (t, some cause) => (t, some (.directory dir cause))
    | (t, none) =>
      let file := Path.join dir name
      if t.isFile file then (t, none)
      else
        match t.writeFile file .empty with
        | .ok t => (t, none)
        | .error cause => (t, some (.file file cause))

end BuildGate.Log.File
