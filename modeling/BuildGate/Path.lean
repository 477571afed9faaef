/-!
# Paths as texts

A path is a text whose parts are separated by slashes. Two texts name one path when they have the
same components: repeated slashes, a slash at the end, and `.` anywhere but at the start of a
relative path do not count. Nothing here looks at a file system.

**Results.**
* `segments_ne_nil`: a text has at least one part.
-/
namespace BuildGate.Path

/-- A component of a path. -/
inductive Component where
  | root
  | here
  | up
  | name (text : String)
  deriving Repr, DecidableEq, Hashable

/-- The parts of a text between slashes. -/
def splitSlash : List Char → List (List Char)
  | [] => [[]]
  | c :: rest =>
    if c = '/' then [] :: splitSlash rest
    else
      match splitSlash rest with
      | [] => [[c]]
      | p :: ps => (c :: p) :: ps

theorem splitSlash_ne_nil (cs : List Char) : splitSlash cs ≠ [] := by
  cases cs with
  | nil => simp [splitSlash]
  | cons c rest =>
    unfold splitSlash
    split
    · simp
    · split <;> simp

def segments (path : String) : List String := (splitSlash path.toList).map String.ofList

theorem segments_ne_nil (path : String) : segments path ≠ [] := by
  simp [segments, splitSlash_ne_nil]

def isAbsolute (path : String) : Bool := path.toList.head? == some '/'

/-- A part of a path, and the component it stands for unless it does not count. -/
abbrev Part := String × Option Component

def partOf (segment : String) : Part :=
  (segment,
    if segment = "" ∨ segment = "." then none
    else if segment = ".." then some .up
    else some (.name segment))

/-- The parts of `path` after the root, of which `.` counts only where a relative path starts with
it. -/
def parts (path : String) : List Part :=
  if isAbsolute path then (segments path).tail.map partOf
  else
    match segments path with
    | "." :: rest => (".", some .here) :: rest.map partOf
    | segs => segs.map partOf

def components (path : String) : List Component :=
  (if isAbsolute path then [Component.root] else []) ++ (parts path).filterMap (·.2)

/-- The text of parts that do not begin with a root. -/
def ofParts (ps : List Part) : String := "/".intercalate (ps.map (·.1))

/-- Drops parts that do not count from the end. -/
def trimEnd (ps : List Part) : List Part := (ps.reverse.dropWhile (·.2.isNone)).reverse

/-- Drops parts that do not count from the start. -/
def trimStart (ps : List Part) : List Part := ps.dropWhile (·.2.isNone)

/-- `path` below `base`, or `path` itself if it is absolute. An empty `path` leaves a slash at the
end. -/
def join (base path : String) : String :=
  if isAbsolute path then path
  else if base.isEmpty ∨ base.toList.getLast? = some '/' then base ++ path
  else base ++ "/" ++ path

/-- The path without its last component; nothing has no parent, nor has the root. -/
def parent? (path : String) : Option String :=
  match trimEnd (parts path) with
  | [] => none
  | ps =>
    let rest := ofParts (trimEnd ps.dropLast)
    some (if isAbsolute path then "/" ++ rest else rest)

/-- The last component, if it is a name. -/
def fileName? (path : String) : Option String :=
  match (components path).getLast? with
  | some (.name n) => some n
  | _ => none

/-- What follows the last dot of a file name that does not begin with it. -/
def extensionOf (name : String) : Option String :=
  let cs := name.toList
  let after := (cs.reverse.takeWhile (· != '.')).reverse
  if after.length + 1 < cs.length then some (String.ofList after) else none

def extension? (path : String) : Option String := (fileName? path).bind extensionOf

/-- Drops parts up to and with the given number of those that count, the others having no component.
-/
def dropCounted : Nat → List Part → List Part
  | 0, ps => ps
  | _ + 1, [] => []
  | n + 1, p :: ps => if p.2.isSome then dropCounted n ps else dropCounted (n + 1) ps

/-- What remains of `path` below `base`, whose components must be the first ones of `path`. -/
def stripPrefix? (base path : String) : Option String :=
  let cs := components path
  let bs := components base
  if bs.isPrefixOf cs then
    match bs with
    | [] =>
      let rest := ofParts (trimEnd (parts path))
      some (if isAbsolute path then "/" ++ rest else rest)
    | _ =>
      let counted := if isAbsolute base then bs.length - 1 else bs.length
      some (ofParts (trimEnd (trimStart (dropCounted counted (parts path)))))
  else none

/-- Whether the components of `path` begin with those of `base`. -/
def startsWith (path base : String) : Bool := (components base).isPrefixOf (components path)

/-- Whether `a` and `b` have the same components. -/
def same (a b : String) : Bool := components a == components b

/-- The shortest text of a path. -/
def ofComponents : List Component → String
  | .root :: rest => "/" ++ "/".intercalate (rest.map text)
  | cs => "/".intercalate (cs.map text)
where
  text : Component → String
    | .root => ""
    | .here => "."
    | .up => ".."
    | .name n => n

def normal (path : String) : String := ofComponents (components path)

end BuildGate.Path
