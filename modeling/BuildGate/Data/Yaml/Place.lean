/-!
# YAML: places in a text

Indentation carries meaning in YAML, so reading keeps the line and the column of the next character.
A `Scan` takes characters from the front of what is left, or refuses the text.
-/
namespace BuildGate.Data.Yaml

/-- What is left of a text, and where that is. -/
structure Place where
  rest : List Char
  index : Nat := 0
  line : Nat := 0
  column : Nat := 0
  deriving Repr, DecidableEq

abbrev Scan (α : Type) := StateT Place Option α

/-- Whether a text may hold a character. -/
def isAllowed (c : Char) : Bool :=
  let n := c.toNat
  n = 0x9 || n = 0xA || n = 0xD || (0x20 ≤ n && n ≤ 0x7E) || n = 0x85 || (0xA0 ≤ n && n ≤ 0xFFFD) ||
    0x10000 ≤ n

def isBlank (c : Char) : Bool := c == ' ' || c == '\t'

/-- Whether a character ends a line. -/
def isBreak (c : Char) : Bool :=
  c == '\n' || c == '\r' || c == '\u0085' || c == '\u2028' || c == '\u2029'

def isBreakOrEnd : Option Char → Bool
  | none => true
  | some c => isBreak c

/-- Whether a word ends here. -/
def isGap : Option Char → Bool
  | none => true
  | some c => isBlank c || isBreak c

/-- Whether a character may stand in a name. -/
def isNameChar (c : Char) : Bool := c.isAlphanum || c == '_' || c == '-'

namespace Place

/-- The character at a distance from the next one. -/
def at? (p : Place) (i : Nat) : Option Char := (p.rest.drop i).head?

/-- The place after the next character. -/
def skip (p : Place) : Place :=
  match p.rest with
  | [] => p
  | _ :: rest => { p with rest, index := p.index + 1, column := p.column + 1 }

/-- The place after the end of a line, which may be a pair of characters. -/
def skipLine (p : Place) : Place :=
  match p.rest with
  | '\r' :: '\n' :: rest => { rest, index := p.index + 2, line := p.line + 1, column := 0 }
  | _ :: rest => { rest, index := p.index + 1, line := p.line + 1, column := 0 }
  | [] => p

/-- What the end of a line adds to a text. -/
def lineBreak (p : Place) : List Char :=
  match p.at? 0 with
  | some c => if c = '\u2028' ∨ c = '\u2029' then [c] else if isBreak c then ['\n'] else []
  | none => []

/-- Whether a marker of documents stands here. -/
def isMarker (p : Place) : Bool :=
  p.column = 0 && (p.rest.take 3 == ['-', '-', '-'] || p.rest.take 3 == ['.', '.', '.']) &&
    isGap (p.at? 3)

end Place

namespace Scan

def refuse {α : Type} : Scan α := fun _ => none

def place : Scan Place := fun p => some (p, p)

def peek : Scan (Option Char) := fun p => some (p.rest.head?, p)

/-- The character at a distance from the next one. -/
def peekAt (i : Nat) : Scan (Option Char) := fun p => some (p.at? i, p)

def skip : Scan Unit := fun p => some ((), p.skip)

def skipLine : Scan Unit := fun p => some ((), p.skipLine)

/-- Takes the end of a line as the text it stands for. -/
def takeLine : Scan (List Char) := fun p =>
  if isBreakOrEnd (p.at? 0) ∧ p.rest ≠ [] then some (p.lineBreak, p.skipLine) else some ([], p)

/-- Takes characters of one line as long as they are of a kind. -/
def takeWhile (f : Char → Bool) : Scan (List Char) := fun p =>
  let taken := p.rest.takeWhile f
  some (taken,
    { p with
      rest := p.rest.dropWhile f
      index := p.index + taken.length
      column := p.column + taken.length })

def skipWhile (f : Char → Bool) : Scan Unit := do let _ ← takeWhile f

/-- Takes blanks up to a column, or all of them if none is given. -/
def skipBlanksTo (column : Option Nat) : Scan Unit := fun p =>
  let blanks := (p.rest.takeWhile (· == ' ')).length
  let n := match column with
    | none => blanks
    | some c => min blanks (c - p.column)
  some ((), { p with rest := p.rest.drop n, index := p.index + n, column := p.column + n })

/-- Takes a given character. -/
def char (c : Char) : Scan Unit := do
  if (← peek) = some c then skip else refuse

/-- The rest of a line on which only a comment may stand. -/
def lineRest : Scan Unit := do
  skipWhile isBlank
  if (← peek) = some '#' then skipWhile fun c => !isBreak c
  if isBreakOrEnd (← peek) then skipLine else refuse

/-- A bound for loops that take a character in each round. -/
def bound : Scan Nat := fun p => some (p.rest.length + 1, p)

end Scan

end BuildGate.Data.Yaml
