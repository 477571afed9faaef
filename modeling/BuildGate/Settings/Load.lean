import BuildGate.Data.Inline
import BuildGate.Data.Json
import BuildGate.Data.Toml.Document
import BuildGate.Data.Yaml.Reader
import BuildGate.FileTree
import BuildGate.Settings.Reader
import BuildGate.Settings.Sources

/-!
# Loading settings

Settings are laid over each other, the later ones on top: the defaults, the user's file, the files
of the project, explicit files, and variables of the environment. The files of the project are those
of the nearest directory that has any, from the one where the search starts upwards.

**Results.**
* `projectFiles_mem`: every file of the project that is found is a file.
* `load_nothing`: without files and variables the settings are the defaults.
-/
namespace BuildGate.Settings

open Data

/-- What to load: the user's file if `user`, the files of a project if there is a directory to
`search` from, and `explicitFiles`. -/
structure Request where
  /-- Whether the user's own file counts. -/
  user : Bool := true
  /-- Where the search for files of the project starts. -/
  search : Option String := none
  /-- An entry of a directory above which no project reaches. -/
  marker : Option String := some ".git"
  explicitFiles : List String := []
  deriving Repr, DecidableEq

/-! ## Finding files -/

/-- The ends of the names of configuration files, in the order of preference. -/
def extensions : List String := ["toml", "yaml", "yml", "json"]

/-- The format of a file by the end of its name. -/
def formatOf (path : String) : Format :=
  match Path.extension? path with
  | some e => if e = "yaml" ∨ e = "yml" then .yaml else if e = "json" then .json else .toml
  | none => .toml

/-- The user's own file: the first by `extensions` in `userDir?`. -/
def userFile? (t : FileTree) (env : Environment) : Option String :=
  (userDir? env).bind fun dir =>
    (extensions.map fun e => Path.join dir ("config." ++ e)).find? t.isFile

/-- The files of a project in `dir`, those that begin with a dot first. -/
def filesIn (t : FileTree) (dir : String) : List String :=
  (["." ++ appName, appName].flatMap fun name =>
    extensions.map fun e => Path.join dir (name ++ "." ++ e)).filter t.isFile

/-- Searches a directory and those above it. A directory that holds `marker` ends the search, unless
it is `start`. -/
def searchUp (t : FileTree) (marker : Option String) (start : String) : Nat → String → List String
  | 0, _ => []
  | fuel + 1, dir =>
    let found := filesIn t dir
    if !found.isEmpty then found
    else if (marker.map fun m => t.exists (Path.join dir m)).getD false && !Path.same dir start then []
    else
      match Path.parent? dir with
      | some above => searchUp t marker start fuel above
      | none => []

/-- The files of the project, searched from `start` upwards. -/
def projectFiles (t : FileTree) (marker : Option String) (start : String) : List String :=
  searchUp t marker start ((Path.components start).length + 2) start

theorem searchUp_mem (t : FileTree) (marker : Option String) (start : String) (fuel : Nat)
    (dir path : String) (h : path ∈ searchUp t marker start fuel dir) : t.isFile path = true := by
  induction fuel generalizing dir with
  | zero => simp [searchUp] at h
  | succ n ih =>
    simp only [searchUp] at h
    split at h
    · exact (List.mem_filter.1 h).2
    · split at h
      · simp at h
      · split at h
        · exact ih _ h
        · simp at h

theorem projectFiles_mem (t : FileTree) (marker : Option String) (start path : String)
    (h : path ∈ projectFiles t marker start) : t.isFile path = true :=
  searchUp_mem t marker start _ _ path h

/-- The files of `r`. -/
def sourcesOf (r : Request) (t : FileTree) (env : Environment) : Sources where
  userFile := if r.user then userFile? t env else none
  projectFiles := (r.search.map (projectFiles t r.marker)).getD []
  explicitFiles := r.explicitFiles

/-! ## Reading layers -/

/-- The data of a file with this format. -/
def parse? : Format → String → Option Plain
  | .toml => Toml.read?
  | .yaml => Yaml.read?
  | .json => Json.read?

/-- The layer that the file at `path` makes. -/
def fileLayer (t : FileTree) (path : String) : Except Fault (Datum Origin) :=
  let origin : Origin := .file path (formatOf path)
  match t.readText path with
  | .error .invalidData => .error { kind := .malformed, origin }
  | .error cause => .error { kind := .unreadable cause, origin }
  | .ok text =>
    match parse? (formatOf path) text with
    | some d => .ok (d.retag origin)
    | none => .error { kind := .malformed, origin }

/-- How the name of a variable begins that sets a value; capitals do not matter. -/
def variableStart : String := "stylegate_"

/-- A text cut at every pair of underscores. -/
def splitPairs : List Char → List (List Char)
  | [] => [[]]
  | '_' :: '_' :: rest => [] :: splitPairs rest
  | c :: rest =>
    match splitPairs rest with
    | [] => [[c]]
    | p :: ps => (c :: p) :: ps

/-- A text cut at every dot. -/
def splitDots : List Char → List (List Char)
  | [] => [[]]
  | c :: rest =>
    if c = '.' then [] :: splitDots rest
    else
      match splitDots rest with
      | [] => [[c]]
      | p :: ps => (c :: p) :: ps

/-- The keys to which the variable `name` leads, if it sets a value. -/
def keysOf (name : String) : Option (List String) :=
  let name := (Unicode.trim name).toList.map Char.toLower
  if variableStart.toList.isPrefixOf name then
    let rest := ".".toList.intercalate (splitPairs (name.drop variableStart.length))
    let keys := splitDots (Unicode.trim (String.ofList rest)).toList
    if keys.any List.isEmpty then none else some (keys.map String.ofList)
  else none

/-- The value `d` under `keys`. -/
def nest (keys : List String) (d : Datum Origin) : Datum Origin :=
  keys.foldr (fun k d => .table .environment [(k, d)]) d

/-- The layer that variables make, the later ones over the earlier ones. -/
def environmentLayer (env : Environment) : Datum Origin :=
  env.vars.foldl
    (fun layer (name, value) =>
      match keysOf name with
      | some keys => layer.laidOver (nest keys ((Inline.read value).retag .environment))
      | none => layer)
    (.table .environment [])

/-- Of the files that cannot be used the first and the last are reported. -/
def addFault (faults : List Fault) (f : Fault) : List Fault :=
  match faults with
  | [] => [f]
  | first :: _ => [first, f]

/-- Lays the files `paths` over each other. -/
def layFiles (t : FileTree) (paths : List String) : Except (List Fault) (Datum Origin) :=
  paths.foldl
    (fun acc path =>
      match acc, fileLayer t path with
      | .ok below, .ok layer => .ok (below.laidOver layer)
      | .ok _, .error f => .error [f]
      | .error fs, .ok _ => .error fs
      | .error fs, .error f => .error (addFault fs f))
    (.ok (.table .builtin []))

/-- The settings that the files of `s` and the variables make. -/
def readAll (s : Sources) (t : FileTree) (env : Environment) : Except LoadFailure Settings :=
  match layFiles t (s.userFile.toList ++ s.projectFiles ++ s.explicitFiles) with
  | .error faults => .error (.faulty faults)
  | .ok files => (read (files.laidOver (environmentLayer env))).mapError fun f => .faulty [f]

/-- Loads what `r` asks for. -/
def load (r : Request) (t : FileTree) (env : Environment) : Except LoadFailure (Settings × Sources) :=
  let sources := sourcesOf r t env
  (readAll sources t env).map (·, sources)

/-- Without files and variables the settings are the defaults. -/
theorem load_nothing : load { user := false } {} {} = .ok ({}, {}) := rfl

/-- Loads what `r` asks for, of which a file has to be a part: the user's, one of the project, or an
explicit one, whether it is there or not. -/
def loadOrFail (r : Request) (t : FileTree) (env : Environment) :
    Except LoadFailure (Settings × Sources) :=
  let hasUser := r.user && (userFile? t env).isSome
  let hasProject := r.search.any fun start => !(projectFiles t r.marker start).isEmpty
  let hasExplicit := !r.explicitFiles.isEmpty
  if !hasUser && !hasProject && !hasExplicit then .error .notFound else load r t env

namespace LoadFailure

/-- The failure in words, for a reader in `cwd`. -/
def message (cwd : String) : LoadFailure → String
  | notFound => "no configuration file found"
  | faulty faults => "invalid configuration: " ++ "\n".intercalate (faults.map (Fault.message cwd))

end LoadFailure

end BuildGate.Settings
