import BuildGate.Pattern.Fault
import BuildGate.Unicode.Query

/-!
# Patterns as they are written

The tree of a pattern's text: groups, flags, classes and escapes as they stand there, each with the
part of the text it came from where a later check may blame it.
-/
namespace BuildGate.Pattern

/-- Switches that a pattern sets with letters. -/
inductive Flag where
  | caseInsensitive
  | multiLine
  | dotMatchesNewLine
  | swapGreed
  | unicode
  | crlf
  | ignoreBlanks
  deriving Repr, DecidableEq

/-- A setting of flags is a list of letters in order: those after the dash are switched off. -/
inductive FlagItem where
  | negation
  | flag (f : Flag)
  deriving Repr, DecidableEq

/-- Whether a setting switches a flag on or off, if it names the flag. -/
def flagState (items : List FlagItem) (f : Flag) : Option Bool :=
  go true items
where
  go : Bool → List FlagItem → Option Bool
    | _, [] => none
    | _, .negation :: rest => go false rest
    | on, .flag g :: rest => if g = f then some on else go on rest

/-- Conditions on a place, before the flags say of which kind they are. -/
inductive WrittenLook where
  | startLine
  | endLine
  | startText
  | endText
  | wordBoundary
  | notWordBoundary
  | wordStart
  | wordEnd
  | wordStartHalf
  | wordEndHalf
  deriving Repr, DecidableEq

/-- The classes with a letter of their own. -/
inductive ShortClass where
  | digit
  | space
  | word
  deriving Repr, DecidableEq

/-- Operations between two parts of a bracketed class. -/
inductive ClassOp where
  | intersection
  | difference
  | symmetricDifference
  deriving Repr, DecidableEq

/-- A character of a pattern; `byte` when it was given as two hexadecimal digits. -/
structure Literal where
  char : Char
  byte : Bool
  extent : Extent
  deriving Repr, DecidableEq

/-- What stands in brackets. -/
inductive ClassItem where
  | empty
  | literal (l : Literal)
  | range (lo hi : Literal)
  | posix (extent : Extent) (s : Charset) (negated : Bool)
  | unicode (extent : Extent) (query : Unicode.Query) (negated : Bool)
  | short (extent : Extent) (cls : ShortClass) (negated : Bool)
  | bracket (extent : Extent) (negated : Bool) (body : ClassItem)
  | union (extent : Extent) (items : List ClassItem)
  | operation (extent : Extent) (op : ClassOp) (lhs rhs : ClassItem)
  deriving Repr, Inhabited

inductive GroupKind where
  | capturing
  | flagged (items : List FlagItem)
  deriving Repr, DecidableEq

/-- A pattern as it is written. -/
inductive Written where
  | empty
  | flags (items : List FlagItem)
  | literal (l : Literal)
  | dot (extent : Extent)
  | look (l : WrittenLook)
  | short (extent : Extent) (cls : ShortClass) (negated : Bool)
  | unicode (extent : Extent) (query : Unicode.Query) (negated : Bool)
  | bracket (extent : Extent) (negated : Bool) (body : ClassItem)
  | repetition (extent : Extent) (min : Nat) (max : Option Nat) (greedy : Bool) (body : Written)
  | group (extent : Extent) (kind : GroupKind) (body : Written)
  | alternation (extent : Extent) (branches : List Written)
  | concat (extent : Extent) (parts : List Written)
  deriving Repr, Inhabited

/-! ## Depth -/

mutual

/-- The first part of a class that nests deeper than `room` allows, if there is one. -/
def ClassItem.tooDeep (room : Nat) : ClassItem → Option Extent
  | .bracket extent _ body => if room = 0 then some extent else body.tooDeep (room - 1)
  | .union extent items => if room = 0 then some extent else ClassItem.anyTooDeep (room - 1) items
  | .operation extent _ lhs rhs =>
    if room = 0 then some extent
    else (lhs.tooDeep (room - 1)).or (rhs.tooDeep (room - 1))
  | _ => none

def ClassItem.anyTooDeep (room : Nat) : List ClassItem → Option Extent
  | [] => none
  | i :: rest => (i.tooDeep room).or (ClassItem.anyTooDeep room rest)

end

mutual

/-- The first part of a pattern that nests deeper than `room` allows, if there is one. -/
def Written.tooDeep (room : Nat) : Written → Option Extent
  | .bracket extent _ body => if room = 0 then some extent else body.tooDeep (room - 1)
  | .repetition extent _ _ _ body => if room = 0 then some extent else body.tooDeep (room - 1)
  | .group extent _ body => if room = 0 then some extent else body.tooDeep (room - 1)
  | .alternation extent branches =>
    if room = 0 then some extent else Written.anyTooDeep (room - 1) branches
  | .concat extent parts => if room = 0 then some extent else Written.anyTooDeep (room - 1) parts
  | _ => none

def Written.anyTooDeep (room : Nat) : List Written → Option Extent
  | [] => none
  | w :: rest => (w.tooDeep room).or (Written.anyTooDeep room rest)

end

end BuildGate.Pattern
