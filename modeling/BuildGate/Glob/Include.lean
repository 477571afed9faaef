import BuildGate.Glob.Fault
import BuildGate.FileTree

/-!
# Patterns that select files

A pattern of this kind is expanded on a file tree, component by component. A star stands for any
characters of a name, a question mark and a class for one; `**` as a whole component stands for any
number of directories, links to directories included. Names come in ascending order, and a directory
before what is in it.
-/
namespace BuildGate.Glob

/-- A token of a pattern that selects files. -/
inductive Include where
  | char (c : Char)
  | any
  | many
  | recursive
  | cls (negated : Bool) (ranges : List (Char × Char))
  deriving Repr, DecidableEq

namespace Include

/-! ## Reading -/

/-- A fault and the place of the pattern to blame. -/
abbrev Fault := Nat × IncludeFault

/-- The ranges of a class, single characters among them. -/
def rangesOf : List Char → List (Char × Char)
  | lo :: '-' :: hi :: rest => (lo, hi) :: rangesOf rest
  | c :: rest => (c, c) :: rangesOf rest
  | [] => []

/-- A class whose opening bracket has been passed: its ranges and what follows it. The first
character of a class never closes it. -/
def readClass (rest : List Char) : Option (Include × List Char) :=
  let (negated, body) := match rest with
    | '!' :: body => (true, body)
    | body => (false, body)
  match body with
  | [] => none
  | first :: more =>
    let inner := more.takeWhile (· != ']')
    match more.dropWhile (· != ']') with
    | [] => none
    | _ :: after => some (.cls negated (rangesOf (first :: inner)), after)

/-- Reads tokens; `pos` characters are passed and `before` is the last one of them. -/
def readTokens : Nat → (pos : Nat) → (before : Option Char) → List Char →
    Except Fault (List Include)
  | 0, _, _, _ => .ok []
  | _ + 1, _, _, [] => .ok []
  | fuel + 1, pos, before, c :: rest =>
    match c with
    | '?' => do return .any :: (← readTokens fuel (pos + 1) (some '?') rest)
    | '*' =>
      let more := rest.takeWhile (· == '*')
      let after := rest.dropWhile (· == '*')
      let stop := pos + 1 + more.length
      match more.length with
      | 0 => do return .many :: (← readTokens fuel stop (some '*') after)
      | 1 =>
        if before.isSome ∧ before ≠ some '/' then .error (pos - 1, .recursiveWildcards)
        else
          match after with
          | [] => .ok [.recursive]
          | '/' :: after => do
            return .recursive :: (← readTokens fuel (stop + 1) (some '/') after)
          | _ => .error (stop, .recursiveWildcards)
      | _ => .error (pos + 2, .wildcards)
    | '[' =>
      match readClass rest with
      | none => .error (pos, .invalidRange)
      | some (token, after) => do
        let passed := 1 + (rest.length - after.length)
        return token :: (← readTokens fuel (pos + passed) (some ']') after)
    | c => do return .char c :: (← readTokens fuel (pos + 1) (some c) rest)

/-- The tokens of `text`, which is a pattern or one of its components. -/
def read (text : String) : Except Fault (List Include) :=
  let cs := text.toList
  readTokens (cs.length + 1) 0 none cs

/-- The pattern that stands for `text` alone. -/
def escape (text : String) : String :=
  String.ofList (text.toList.flatMap fun c =>
    if "?*[]".toList.contains c then ['[', c, ']'] else [c])

/-! ## Matching a name -/

/-- Whether tokens match all of a name. -/
def accepts : List Include → List Char → Bool
  | [], cs => cs.isEmpty
  | .many :: ts, [] => accepts ts []
  | .many :: ts, c :: cs => accepts ts (c :: cs) || accepts (.many :: ts) cs
  | .recursive :: ts, [] => accepts ts []
  | .recursive :: ts, c :: cs => accepts ts (c :: cs) || accepts (.recursive :: ts) cs
  | .any :: ts, _ :: cs => accepts ts cs
  | .char d :: ts, c :: cs => c == d && accepts ts cs
  | .cls negated ranges :: ts, c :: cs =>
    (ranges.any fun r => r.1 ≤ c && c ≤ r.2) != negated && accepts ts cs
  | _ :: _, [] => false
termination_by ts cs => ts.length + cs.length

/-- The text that tokens stand for, if they stand for one only. -/
def literal? : List Include → Option (List Char)
  | [] => some []
  | .char c :: ts => (literal? ts).map (c :: ·)
  | _ :: _ => none

/-! ## Expanding on a tree -/

/-- A pattern by components. -/
structure Selector where
  /-- The directory where the expansion starts. -/
  scope : String
  components : List (List Include)
  /-- Whether the pattern ends in a slash. -/
  onlyDirs : Bool

/-- The pieces of a text between slashes, without an empty last one. -/
def pieces (cs : List Char) : List (List Char) :=
  let ps := Path.splitSlash cs
  if ps.getLast? = some [] then ps.dropLast else ps

/-- Reads components one by one; one that is none by itself is a fault, though the whole pattern may
be none. -/
def readComponents : List (List Char) → Except Fault (List (List Include))
  | [] => .ok []
  | p :: rest => do
    let ts ← read (String.ofList p)
    return ts :: (← readComponents rest)

def Selector.read (pattern : String) : Except Fault Selector := do
  let _ ← Include.read pattern
  let cs := pattern.toList
  let rooted := Path.isAbsolute pattern
  let body := if rooted then cs.drop 1 else cs
  let components ← readComponents (pieces body)
  return {
    scope := if rooted then "/" else "."
    components := if body.isEmpty then components ++ [[]] else components
    onlyDirs := cs.getLast? == some '/' }

/-- A path the expansion has come to, and whether a directory is there. -/
structure Place where
  path : String
  isDir : Bool

def Place.at (t : FileTree) (path : String) : Place := ⟨path, t.isDir path⟩

/-- Whether a path is the current directory, which is left out of the paths below it. -/
def isHere (path : String) : Bool := Path.components path == [.here]

/-- A place that is still to be looked at: with the components its own name and those below are to
match, or with none when it is known to match. -/
abbrev Pending := Place × Option (List (List Include))

/-- The places below a place that come next, in order. A component without wildcards (`literal?`) is
looked up; any other is matched against the names in the directory, and against `.` and `..` only if
it begins with a dot. -/
def below (t : FileTree) : List (List Include) → Place → List Pending
  | [], _ => []
  | ts :: more, p =>
    let add (path : String) : List Pending :=
      let next := Place.at t path
      if more.isEmpty then [(next, none)] else below t more next
    let under (name : String) : String := if isHere p.path then name else Path.join p.path name
    match literal? ts with
    | some cs =>
      let name := String.ofList cs
      let isSpecial := name = "." ∨ name = ".."
      if (isSpecial ∧ p.isDir) ∨ (¬ isSpecial ∧ t.hasEntry (under name)) then add (under name) else []
    | none =>
      if p.isDir then
        let specials := if ts.head? = some (.char '.') then
            ["..", "."].filter fun name => accepts ts name.toList
          else []
        let names := match t.resolve p.path with
          | .ok loc => t.children loc
          | .error _ => []
        specials.flatMap (fun name => add (Path.join p.path name)) ++
          names.map fun name => (Place.at t (under name), some (ts :: more))
      else []

def isRecursive (ts : List Include) : Bool := ts == [.recursive]

/-- Drops all but the last of the `**` that stand first. -/
def lastRecursive : List (List Include) → List (List Include)
  | a :: b :: more => if isRecursive b then lastRecursive (b :: more) else a :: b :: more
  | cs => cs

/-- The paths that a pending place leads to, in order. Each level either goes down into a directory
or uses up a component, which bounds the `fuel`. -/
def visit (t : FileTree) (onlyDirs : Bool) : Nat → Pending → List String
  | 0, _ => []
  | _ + 1, (p, none) => if onlyDirs ∧ !p.isDir then [] else [p.path]
  | fuel + 1, (p, some cs) =>
    let own : List (List Include) → List String
      | [] => []
      | ts :: more =>
        match Path.fileName? p.path with
        | none => []
        | some name =>
          if accepts ts name.toList then
            if more.isEmpty then if onlyDirs ∧ !p.isDir then [] else [p.path]
            else (below t more p).flatMap (visit t onlyDirs fuel)
          else []
    if (cs.head?.any isRecursive) then
      let cs := lastRecursive cs
      let more := cs.drop 1
      if p.isDir then
        let deeper := (below t cs p).flatMap (visit t onlyDirs fuel)
        if more.isEmpty then p.path :: deeper else own more ++ deeper
      else own more
    else own cs

/-- The paths that `s` selects in `t`, directories among them, in order. No path that resolves goes
down further than there are entries, once for each link it may follow. -/
def Selector.expand (t : FileTree) (s : Selector) : List String :=
  let depth := s.components.length + (FileTree.maxLinks + 1) * (t.entries.length + 1) + 1
  (below t s.components (Place.at t s.scope)).flatMap (visit t s.onlyDirs depth)

end Include

end BuildGate.Glob
