import BuildGate.Data.Reading
import BuildGate.Data.Yaml.Place

/-!
# YAML: scalars

A scalar stands in quotes, plainly, or in a block of its own. In all but literal blocks the end of a
line counts as a blank, and lines without text between two lines count as ends of lines.
-/
namespace BuildGate.Data.Yaml

/-! ## Ends of lines between words -/

/-- What stands between two words: blanks on one line, or the first end of a line and the further
ones. -/
structure Folds where
  blanks : List Char := []
  /-- Whether a line has ended. -/
  broken : Bool := false
  first : List Char := []
  more : List Char := []
  deriving Repr, DecidableEq

namespace Folds

/-- The text that joins two words. -/
def joined (f : Folds) : List Char :=
  if !f.broken then f.blanks
  else if f.first.head? = some '\n' then if f.more.isEmpty then [' '] else f.more
  else f.first ++ f.more

end Folds

/-- Takes what stands between two words. A line of a plain scalar must not begin with a tab before
the given column. -/
def folds (indent : Nat) (f : Folds) : Nat → Scan Folds
  | 0 => pure f
  | fuel + 1 => do
    match ← Scan.peek with
    | none => return f
    | some c =>
      if isBlank c then
        if f.broken ∧ c = '\t' ∧ (← Scan.place).column < indent then Scan.refuse
        Scan.skip
        folds indent (if f.broken then f else { f with blanks := f.blanks ++ [c] }) fuel
      else if isBreak c then
        let line ← Scan.takeLine
        folds indent
          (if f.broken then { f with more := f.more ++ line }
          else { f with blanks := [], broken := true, first := line })
          fuel
      else return f

/-! ## In quotes -/

/-- The characters that stand for others after a backslash. -/
def escapes : List (Char × Char) :=
  [('0', '\x00'), ('a', '\x07'), ('b', '\x08'), ('t', '\t'), ('\t', '\t'), ('n', '\n'),
    ('v', '\x0b'), ('f', '\x0c'), ('r', '\r'), ('e', '\x1b'), (' ', ' '), ('"', '"'), ('/', '/'),
    ('\\', '\\'), ('N', '\u0085'), ('_', '\u00a0'), ('L', '\u2028'), ('P', '\u2029')]

/-- A code point of a fixed number of digits. -/
def codePoint : Nat → Nat → Scan Char
  | 0, n => (scalarOf n : Option Char)
  | k + 1, n => do
    match ← Scan.peek with
    | some c =>
      match digitOf 16 c with
      | some d =>
        Scan.skip
        codePoint k (16 * n + d)
      | none => Scan.refuse
    | none => Scan.refuse

/-- A backslash and what follows it. -/
def escaped : Scan Char := do
  Scan.skip
  match ← Scan.peek with
  | none => Scan.refuse
  | some c =>
    Scan.skip
    match escapes.lookup c with
    | some e => return e
    | none =>
      if c = 'x' then codePoint 2 0
      else if c = 'u' then codePoint 4 0
      else if c = 'U' then codePoint 8 0
      else Scan.refuse

/-- A word in quotes, and whether an escaped end of a line ends it. -/
def quotedWord (quote : Char) : Nat → Scan (List Char × Bool)
  | 0 => Scan.refuse
  | fuel + 1 => do
    let more (c : Char) : Scan (List Char × Bool) := do
      let (word, broken) ← quotedWord quote fuel
      return (c :: word, broken)
    match ← Scan.peek with
    | none => return ([], false)
    | some c =>
      if isBlank c || isBreak c then return ([], false)
      else if c = '\'' ∧ quote = '\'' ∧ (← Scan.peekAt 1) = some '\'' then
        Scan.skip
        Scan.skip
        more '\''
      else if c = quote then return ([], false)
      else if c = '\\' ∧ quote = '"' then
        if ((← Scan.peekAt 1).map isBreak).getD false then
          Scan.skip
          Scan.skipLine
          return ([], true)
        else do more (← escaped)
      else
        Scan.skip
        more c

/-- The words of a scalar in quotes, up to the closing one. -/
def quotedWords (quote : Char) : Nat → Scan (List Char)
  | 0 => Scan.refuse
  | fuel + 1 => do
    if (← Scan.place).isMarker then Scan.refuse
    if (← Scan.peek).isNone then Scan.refuse
    let (word, broken) ← quotedWord quote (← Scan.bound)
    if (← Scan.peek) = some quote then
      Scan.skip
      return word
    let f ← folds 0 { broken } (← Scan.bound)
    return word ++ f.joined ++ (← quotedWords quote fuel)

/-- A scalar in quotes. -/
def quotedScalar (quote : Char) : Scan String := do
  Scan.skip
  return String.ofList (← quotedWords quote (← Scan.bound))

/-! ## Plain -/

/-- Whether a character ends a plain scalar in a list or table in brackets. -/
def isFlowMark (c : Char) : Bool :=
  c == ',' || c == '[' || c == ']' || c == '\x7b' || c == '\x7d'

/-- A word of a plain scalar. -/
def plainWord (flow : Bool) : Nat → Scan (List Char)
  | 0 => pure []
  | fuel + 1 => do
    match ← Scan.peek with
    | none => return []
    | some c =>
      let after ← Scan.peekAt 1
      if isBlank c || isBreak c then return []
      if flow && c == ':' && (after.map fun a => a == '?' || isFlowMark a).getD false then Scan.refuse
      if (c == ':' && isGap after) || (flow && isFlowMark c) then return []
      Scan.skip
      return c :: (← plainWord flow fuel)

/-- The words of a plain scalar, and whether it ends with the end of a line. `indent` is the column
in which its lines may begin. -/
def plainWords (flow : Bool) (indent : Nat) (before : Folds) : Nat → Scan (List Char × Bool)
  | 0 => pure ([], before.broken)
  | fuel + 1 => do
    let p ← Scan.place
    if p.isMarker || p.at? 0 == some '#' then return ([], before.broken)
    let word ← plainWord flow (← Scan.bound)
    let (text, between) :=
      if word.isEmpty then ([], before) else (before.joined ++ word, ({} : Folds))
    if !((← Scan.peek).map fun c => isBlank c || isBreak c).getD false then
      return (text, between.broken)
    let f ← folds indent between (← Scan.bound)
    if !flow ∧ (← Scan.place).column < indent then return (text, f.broken)
    let (more, broken) ← plainWords flow indent f fuel
    return (text ++ more, broken)

def plainScalar (flow : Bool) (indent : Nat) : Scan (String × Bool) := do
  let (text, broken) ← plainWords flow indent {} (← Scan.bound)
  return (String.ofList text, broken)

/-! ## Blocks -/

/-- What becomes of the line ends behind a block. -/
inductive Chomp where
  | strip
  | clip
  | keep
  deriving Repr, DecidableEq

def chompMark : Scan (Option Chomp) := do
  match ← Scan.peek with
  | some '+' => Scan.skip; return some .keep
  | some '-' => Scan.skip; return some .strip
  | _ => return none

/-- The number of columns by which a block is indented, if that is stated. -/
def indentMark : Scan (Option Nat) := do
  match ← Scan.peek with
  | some c =>
    match digitOf 10 c with
    | some 0 => Scan.refuse
    | some d => Scan.skip; return some d
    | none => return none
  | none => return none

/-- The marks behind the sign of a block, in either order. -/
def blockMarks : Scan (Chomp × Option Nat) := do
  match ← chompMark with
  | some c => return (c, ← indentMark)
  | none =>
    match ← indentMark with
    | some i => return ((← chompMark).getD .clip, some i)
    | none => return (.clip, none)

/-- Takes lines without text; the result holds their ends and the greatest column that blanks
reached. The indentation may not be known yet. -/
def emptyLines (indent : Option Nat) (widest : Nat) : Nat → Scan (List Char × Nat)
  | 0 => pure ([], widest)
  | fuel + 1 => do
    Scan.skipBlanksTo indent
    let column := (← Scan.place).column
    let widest := max widest column
    if (indent.map fun i => decide (column < i)).getD true && (← Scan.peek) == some '\t' then Scan.refuse
    if ((← Scan.peek).map isBreak).getD false then
      let line ← Scan.takeLine
      let (lines, widest) ← emptyLines indent widest fuel
      return (line ++ lines, widest)
    else return ([], widest)

/-- The lines of a block. `first` is the end of the line before, `more` are the ends of the lines
without text after that, and `blank` says whether the line before began with a blank. -/
def blockLines (literal : Bool) (indent : Nat) (first more : List Char) (blank : Bool) :
    Nat → Scan (List Char × List Char × List Char)
  | 0 => pure ([], first, more)
  | fuel + 1 => do
    let p ← Scan.place
    if p.column ≠ indent ∨ p.rest.isEmpty then return ([], first, more)
    let isBlankLine := ((← Scan.peek).map isBlank).getD false
    let join :=
      if !literal && first.head? == some '\n' && !blank && !isBlankLine then
        if more.isEmpty then [' '] else more
      else first ++ more
    let line ← Scan.takeWhile fun c => !isBreak c
    let first' ← Scan.takeLine
    let (more', _) ← emptyLines (some indent) 0 (← Scan.bound)
    let (text, tail) ← blockLines literal indent first' more' isBlankLine fuel
    return (join ++ line ++ text, tail)

/-- A scalar in a block, inside one that is indented to a column. -/
def blockScalar (literal : Bool) (parent : Int) : Scan String := do
  Scan.skip
  let (chomp, stated) ← blockMarks
  Scan.lineRest
  let indent := stated.map fun i => if 0 ≤ parent then parent.toNat + i else i
  let (more, widest) ← emptyLines indent 0 (← Scan.bound)
  let indent := indent.getD (max (max widest (parent + 1).toNat) 1)
  let (text, first, more) ← blockLines literal indent [] more false (← Scan.bound)
  return String.ofList (text ++ match chomp with
    | .strip => []
    | .clip => first
    | .keep => first ++ more)

end BuildGate.Data.Yaml
