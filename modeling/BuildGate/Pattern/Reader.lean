import BuildGate.Pattern.ClassReader

/-!
# Reading a pattern

`read` turns the text of a pattern into its tree, or says what is wrong with it. Parts, branches and
groups are read from left to right, so of several faults the first in the text is reported; only the
limit on nesting is checked after the whole text was read.
-/
namespace BuildGate.Pattern

open Source (fail)

/-! ## Repetitions -/

/-- A last part that a repetition may follow. -/
def isRepeatable : Written → Bool
  | .empty => false
  | .flags _ => false
  | _ => true

/-- Splits the parts read so far, the last one first, for a repetition operator. -/
def takeOperand (s : Source) : List Written → Except Fault (Written × List Written)
  | w :: rest => if isRepeatable w then .ok (w, rest) else fail s.here .repetitionMissing
  | [] => fail s.here .repetitionMissing

/-- A question mark after a repetition turns its greed around. -/
def readGreed (s : Source) : Bool × Source :=
  if s.char = '?' then (false, s.bump) else (true, s)

/-- The digits of a count, between which blanks are skipped where blanks are skipped at all. -/
def readDigits : Nat → Source → List Char → List Char × Source
  | 0, s, digits => (digits.reverse, s)
  | fuel + 1, s, digits =>
    if s.char.isDigit then readDigits fuel s.bumpSkip (s.char :: digits) else (digits.reverse, s)

def dropBlanks (s : Source) : Source :=
  let rest := s.rest.dropWhile Unicode.isBlank
  { s with rest, pos := s.pos + (s.rest.length - rest.length) }

/-- The greatest count that can be written. -/
def maxCount : Nat := 0xFFFFFFFF

/-- A count, with blanks around it; or the fault of one that is missing or too great, and the text
after it. -/
def readCount (s : Source) : Except Fault Nat × Source :=
  let s := dropBlanks s
  let start := s.pos
  let (digits, s) := readDigits s.rest.length s []
  let extent := s.since start
  let s := dropBlanks s
  let n := digits.foldl (fun n c => 10 * n + (c.toNat - '0'.toNat)) 0
  if digits.isEmpty then (fail extent .countDecimalEmpty, s)
  else if n ≤ maxCount then (.ok n, s)
  else (fail extent .decimalInvalid, s)

/-- The bounds of `{n}`, `{n,}` and `{n,m}`, up to the closing brace. -/
def readBounds (start : Nat) (s : Source) :
    Except Fault (Nat × Option Nat × Source) := do
  let s := s.bumpSkip
  if s.atEnd then fail (s.since start) .countUnclosed
  let (min, s) := readCount s
  if s.atEnd then fail (s.since start) .countUnclosed
  if s.char = ',' then
    let s := s.bumpSkip
    if s.atEnd then fail (s.since start) .countUnclosed
    if s.char = '}' then return (← min, none, s)
    else
      let min ← min
      let (max, s) := readCount s
      return (min, some (← max), s)
  else
    let n ← min
    return (n, some n, s)

/-- A repetition in braces of the last part. -/
def readCounted (s : Source) (parts : List Written) :
    Except Fault (List Written × Source) := do
  let start := s.pos
  let (operand, parts) ← takeOperand s parts
  let (min, max, s) ← readBounds start s
  if s.atEnd ∨ s.char ≠ '}' then fail (s.since start) .countUnclosed
  let (greedy, s) := readGreed s.bumpSkip
  if max.any (· < min) then fail (s.since start) .countInvalid
  return (.repetition (s.since start) min max greedy operand :: parts, s)

/-- A repetition by `?`, `*` or `+` of the last part. -/
def readUncounted (s : Source) (parts : List Written) :
    Except Fault (List Written × Source) := do
  let start := s.pos
  let (operand, parts) ← takeOperand s parts
  let (min, max) : Nat × Option Nat := match s.char with
    | '?' => (0, some 1)
    | '*' => (0, none)
    | _ => (1, none)
  let (greedy, s) := readGreed s.bump
  return (.repetition (s.since start) min max greedy operand :: parts, s)

/-! ## Groups -/

def flagOf : Char → Option Flag
  | 'i' => some .caseInsensitive
  | 'm' => some .multiLine
  | 's' => some .dotMatchesNewLine
  | 'U' => some .swapGreed
  | 'u' => some .unicode
  | 'R' => some .crlf
  | 'x' => some .ignoreBlanks
  | _ => none

/-- A setting of flags, up to its colon or closing bracket. The items come with their extents, the
last one first. -/
def readFlags : Nat → Source → List (FlagItem × Extent) → Except Fault (List FlagItem × Source)
  | 0, s, _ => fail s.here .flagUnexpectedEnd
  | fuel + 1, s, items =>
    if s.char = ':' ∨ s.char = ')' then
      match items with
      | (.negation, extent) :: _ => fail extent .flagDanglingNegation
      | _ => .ok ((items.map (·.1)).reverse, s)
    else do
      let (item, repeated) ←
        if s.char = '-' then pure (FlagItem.negation, FaultKind.flagRepeatedNegation)
        else
          match flagOf s.char with
          | some f => pure (.flag f, .flagDuplicate)
          | none => fail s.here .flagUnrecognized
      match items.lookup item with
      | some first => .error ⟨repeated, s.here, some first⟩
      | none =>
        let after := s.bump
        if after.atEnd then fail ⟨after.pos, after.pos⟩ .flagUnexpectedEnd
        else readFlags fuel after ((item, s.here) :: items)

/-- Whether a character may stand in the name of a group. -/
def isNameChar (isFirst : Bool) (c : Char) : Bool :=
  c == '_' || Unicode.isAlphabetic c ||
    (!isFirst && (c == '.' || c == '[' || c == ']' || Unicode.isNumeric c))

/-- The characters of a group's name up to the closing angle. -/
def readNameChars : Nat → Source → List Char → Except Fault (List Char × Source)
  | 0, s, name => .ok (name.reverse, s)
  | fuel + 1, s, name =>
    if s.atEnd then .ok (name.reverse, s)
    else if s.char = '>' then .ok (name.reverse, s)
    else if isNameChar name.isEmpty s.char then readNameChars fuel s.bump (s.char :: name)
    else fail s.here .groupNameInvalid

/-- The name of a group, which no earlier group may have. -/
def readName (s : Source) : Except Fault Source := do
  if s.atEnd then fail (s.since s.pos) .groupNameUnexpectedEnd
  let start := s.pos
  let (name, s) ← readNameChars s.rest.length s []
  if s.atEnd then fail (s.since s.pos) .groupNameUnexpectedEnd
  let extent := s.since start
  let s := s.bump
  let name := String.ofList name
  if name.isEmpty then fail extent .groupNameEmpty
  match s.names.lookup name with
  | some first => .error ⟨.groupNameDuplicate, extent, some first⟩
  | none => return { s with names := (name, extent) :: s.names }

/-- What an opening bracket begins: a group, or a setting of flags that is complete. -/
inductive Opening where
  | group (kind : GroupKind)
  | setting (items : List FlagItem)

def readOpening (s : Source) : Except Fault (Opening × Source) := do
  let opening := s.here
  let start := s.pos
  let s := s.bumpSkip
  for text in ["?=", "?!", "?<=", "?<!"] do
    if let some after := s.bumpIf text then
      fail (after.since start) .unsupportedLookAround
  match (s.bumpIf "?P<").orElse fun _ => s.bumpIf "?<" with
  | some s =>
    let s ← readName s
    return (.group .capturing, s)
  | none =>
    match s.bumpIf "?" with
    | none => return (.group .capturing, s)
    | some inner =>
      if inner.atEnd then fail opening .groupUnclosed
      let (items, after) ← readFlags (inner.rest.length + 1) inner []
      if after.char = ')' then
        if items.isEmpty then fail ⟨s.pos, inner.pos⟩ .repetitionMissing
        return (.setting items, after.bump)
      return (.group (.flagged items), after.bump)

/-! ## The whole pattern -/

/-- A branch, from its parts, the last one first. -/
def concatOf (start : Nat) (s : Source) : List Written → Written
  | [] => .empty
  | [w] => w
  | parts => .concat (s.since start) parts.reverse

/-- A group or the whole pattern, from its branches, the last one first. -/
def alternationOf (start : Nat) (s : Source) : List Written → Written
  | [] => .empty
  | [w] => w
  | branches => .alternation (s.since start) branches.reverse

/-- Reads parts and branches up to the bracket that closes the group opened at `opening`, or up to
the end of the text where no group is open. Every step passes over a character. -/
def readBranches (opening : Option Extent) (start : Nat) : Nat → Source → (branchStart : Nat) →
    (branches parts : List Written) → Except Fault (Written × Source)
  | 0, s, _, _, _ => fail (opening.getD s.here) .groupUnclosed
  | fuel + 1, s, branchStart, branches, parts =>
    let s := s.skip
    let finished (s : Source) : Written :=
      alternationOf start s (concatOf branchStart s parts :: branches)
    if s.atEnd then
      match opening with
      | some extent => fail extent .groupUnclosed
      | none => .ok (finished s, s)
    else
      match s.char with
      | '(' => do
        let here := s.here
        let loose := s.loose
        let (begun, s) ← readOpening s
        match begun with
        | .setting items =>
          let s := { s with loose := (flagState items .ignoreBlanks).getD s.loose }
          readBranches opening start fuel s branchStart branches (.flags items :: parts)
        | .group kind =>
          let inner := match kind with
            | .flagged items => (flagState items .ignoreBlanks).getD loose
            | .capturing => loose
          let s := { s with loose := inner }
          let (body, s) ← readBranches (some here) s.pos fuel s s.pos [] []
          let s := { s with loose }
          readBranches opening start fuel s branchStart branches
            (.group (s.since here.start) kind body :: parts)
      | ')' =>
        match opening with
        | none => fail s.here .groupUnopened
        | some _ => .ok (finished s, s.bump)
      | '|' =>
        let branch := concatOf branchStart s parts
        let s := s.bump
        readBranches opening start fuel s s.pos (branch :: branches) []
      | '[' => do
        let (cls, s) ← readClass s
        readBranches opening start fuel s branchStart branches (cls :: parts)
      | '{' => do
        let (parts, s) ← readCounted s parts
        readBranches opening start fuel s branchStart branches parts
      | '?' | '*' | '+' => do
        let (parts, s) ← readUncounted s parts
        readBranches opening start fuel s branchStart branches parts
      | _ => do
        let (p, s) ← readPrimitive s
        readBranches opening start fuel s branchStart branches (p.written :: parts)

/-- The tree of a pattern. -/
def Written.read (text : String) : Except Fault Written := do
  let s : Source := { rest := text.toList }
  let (w, _) ← readBranches none 0 (s.rest.length + 1) s 0 [] []
  match w.tooDeep nestLimit with
  | some extent => fail extent .nestLimitExceeded
  | none => return w

end BuildGate.Pattern
