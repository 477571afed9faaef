import BuildGate.Failure
import BuildGate.Path

/-!
# File trees

A `FileTree` is a file system as a value: what stands at each location, and the directory that
relative paths start from. A location is the list of names from the root. Paths are resolved as a
file system does it, following symbolic links, of which one resolution takes at most forty.

Names are texts. A tree has no place for a name whose bytes are not UTF-8, nor has an environment or a
command line one for such a value, so no function here says what becomes of it.

**Results.**
* `get?_remove`: removing a location removes what is at and below it and nothing else.
-/
namespace BuildGate

/-- The names from the root to an entry. -/
abbrev Location := List String

/-- What stands at a `Location`. -/
inductive Entry where
  | dir
  | file (bytes : ByteArray)
  | link (target : String)

instance : DecidableEq Entry
  | .dir, .dir => isTrue rfl
  | .file a, .file b =>
    if h : a.data = b.data then isTrue (congrArg Entry.file (ByteArray.ext h))
    else isFalse fun e => h (by cases e; rfl)
  | .link s, .link t =>
    if h : s = t then isTrue (congrArg Entry.link h) else isFalse fun e => h (by cases e; rfl)
  | .dir, .file _ | .dir, .link _ | .file _, .dir | .file _, .link _ | .link _, .dir
  | .link _, .file _ => isFalse nofun

/-- A file system. The root is always there and is not listed. -/
structure FileTree where
  entries : List (Location × Entry) := []
  workingDir : Location := []
  deriving DecidableEq

namespace FileTree

def get? (t : FileTree) (loc : Location) : Option Entry :=
  if loc.isEmpty then some .dir else t.entries.lookup loc

/-! ## Resolving paths -/

/-- One step of a path: a name, `.` or `..`. -/
inductive Step where
  | here
  | up
  | down (name : String)
  deriving Repr, DecidableEq

def stepOf (segment : String) : Option Step :=
  if segment = "" then none
  else if segment = "." then some .here
  else if segment = ".." then some .up
  else some (.down segment)

/-- The steps of a path; a slash at the end asks for a directory as a last `.` does. -/
def stepsOf (path : String) : List Step :=
  (Path.segments path).filterMap stepOf ++
    if path.toList.getLast? = some '/' then [.here] else []

/-- The number of symbolic links that one resolution may follow. -/
def maxLinks : Nat := 40

/-- The most bytes of a name. -/
def maxName : Nat := 255

/-- The most bytes of a path. -/
def maxPath : Nat := 4095

/-- Takes steps from `loc`, at which something stands that is no link, and has followed `links`
links. The last link is followed only if `followLast` says so. -/
def walk (t : FileTree) (followLast : Bool) (links : Nat) (loc : Location) :
    List Step → Except IoFault Location
  | [] => .ok loc
  | s :: todo =>
    if t.get? loc ≠ some .dir then .error .notADirectory
    else
      match s with
      | .here => walk t followLast links loc todo
      | .up => walk t followLast links loc.dropLast todo
      | .down name =>
        if maxName < name.utf8ByteSize then .error .nameTooLong
        else
          match t.get? (loc ++ [name]) with
          | none => .error .notFound
          | some (.link target) =>
            if todo = [] ∧ followLast = false then .ok (loc ++ [name])
            else
              match links with
              | 0 => .error .tooManyLinks
              | links + 1 =>
                walk t followLast links (if Path.isAbsolute target then [] else loc)
                  (stepsOf target ++ todo)
          | some _ => walk t followLast links (loc ++ [name]) todo
termination_by todo => (links, todo.length)

def resolveWith (t : FileTree) (followLast : Bool) (path : String) : Except IoFault Location :=
  if path.toList.contains '\x00' then .error .invalidInput
  else if path = "" then .error .notFound
  else if maxPath < path.utf8ByteSize then .error .nameTooLong
  else t.walk followLast maxLinks (if Path.isAbsolute path then [] else t.workingDir) (stepsOf path)

/-- The location that `path` leads to, all links followed. -/
def resolve (t : FileTree) (path : String) : Except IoFault Location := t.resolveWith true path

/-- What stands where `path` leads. -/
def find (t : FileTree) (path : String) : Except IoFault Entry := do
  match t.get? (← t.resolve path) with
  | some e => return e
  | none => .error .notFound

def «exists» (t : FileTree) (path : String) : Bool := (t.find path).isOk

def isFile (t : FileTree) (path : String) : Bool :=
  match t.find path with
  | .ok (.file _) => true
  | _ => false

def isDir (t : FileTree) (path : String) : Bool :=
  match t.find path with
  | .ok .dir => true
  | _ => false

/-- Whether something stands at `path`, be it a link that leads nowhere. -/
def hasEntry (t : FileTree) (path : String) : Bool := (t.resolveWith false path).isOk

/-! ## Reading -/

def readFile (t : FileTree) (path : String) : Except IoFault ByteArray := do
  match ← t.find path with
  | .file bytes => return bytes
  | _ => .error .isADirectory

/-- The text of the file at `path`, which must be UTF-8. -/
def readText (t : FileTree) (path : String) : Except IoFault String := do
  match String.fromUTF8? (← t.readFile path) with
  | some text => return text
  | none => .error .invalidData

/-- The path from the root to `loc`. -/
def pathOf (loc : Location) : String := "/" ++ "/".intercalate loc

/-- The path without links, `.` and `..` that leads where `path` does. -/
def canonical (t : FileTree) (path : String) : Except IoFault String := do
  return pathOf (← t.resolve path)

/-- The names in the directory `loc`, ascending. -/
def children (t : FileTree) (loc : Location) : List String :=
  (t.entries.filterMap fun e =>
    match e.1.getLast? with
    | some name => if e.1.dropLast = loc then some name else none
    | none => none).mergeSort (· ≤ ·)

/-! ## Changing -/

/-- Removes what stands at and below `loc`. -/
def remove (t : FileTree) (loc : Location) : FileTree :=
  { t with entries := t.entries.filter fun e => !loc.isPrefixOf e.1 }

theorem lookup_filter {α β : Type} [BEq α] [LawfulBEq α] (p : α → Bool) (l : List (α × β)) (a : α) :
    (l.filter fun e => p e.1).lookup a = if p a then l.lookup a else none := by
  induction l with
  | nil => simp
  | cons e rest ih =>
    obtain ⟨k, v⟩ := e
    by_cases ha : a = k
    · subst ha
      by_cases h : p a <;> simp [h, ih]
    · have ha' : (a == k) = false := by simpa using ha
      by_cases h : p k <;> simp [h, List.lookup_cons, ha', ih]

theorem get?_remove (t : FileTree) (loc at_ : Location) (h : at_ ≠ []) :
    (t.remove loc).get? at_ = if loc.isPrefixOf at_ then none else t.get? at_ := by
  simp only [get?, remove, List.isEmpty_iff, h, if_false]
  rw [lookup_filter (fun l => !loc.isPrefixOf l)]
  by_cases hp : loc.isPrefixOf at_ <;> simp [hp]

/-- Puts `e` at `loc`, whose parent is there. -/
def put (t : FileTree) (loc : Location) (e : Entry) : FileTree :=
  { t with entries := t.entries.filter (·.1 != loc) ++ [(loc, e)] }

/-- Makes the directory `loc` and those above it; what stands there already stays. -/
def makeDirs (t : FileTree) (loc : Location) : FileTree :=
  (List.range loc.length).foldl
    (fun t i =>
      let here := loc.take (i + 1)
      if (t.get? here).isSome then t else t.put here .dir)
    t

/-- Removes the directory at `path` with everything in it. -/
def removeDirAll (t : FileTree) (path : String) : Except IoFault FileTree := do
  let loc ← t.resolveWith false path
  match t.get? loc with
  | some .dir => return t.remove loc
  | some (.link _) => return t.remove loc
  | some (.file _) => .error .notADirectory
  | none => .error .notFound

/-- Where a file would be made: the last name of `path` in an existing directory. -/
def locateNew (t : FileTree) (path : String) : Except IoFault Location := do
  match (stepsOf path).getLast? with
  | some (.down name) =>
    let dir ← t.walk true maxLinks (if Path.isAbsolute path then [] else t.workingDir)
      (stepsOf path).dropLast
    if t.get? dir = some .dir then return dir ++ [name] else .error .notADirectory
  | _ => .error .isADirectory

/-- Makes the file at `path` or replaces its content. -/
def writeFile (t : FileTree) (path : String) (bytes : ByteArray) : Except IoFault FileTree :=
  match t.resolve path with
  | .ok loc =>
    match t.get? loc with
    | some (.file _) => .ok (t.put loc (.file bytes))
    | _ => .error .isADirectory
  | .error .notFound => do return t.put (← t.locateNew path) (.file bytes)
  | .error e => .error e

/-- Everything below `loc`, each with a slash after a directory and an `@` after a link, in the
order of their bytes. -/
def listing (t : FileTree) (loc : Location) : List String :=
  (t.entries.filterMap fun (at_, e) =>
    if loc.isPrefixOf at_ ∧ at_ ≠ loc then
      let path := "/".intercalate (at_.drop loc.length)
      some (match e with
        | .dir => path ++ "/"
        | .file _ => path
        | .link _ => path ++ "@")
    else none).mergeSort (· ≤ ·)

end FileTree

end BuildGate
