import BuildGate.Pattern.Written

/-!
# Reading a pattern: the text that is left

`Source` is what a reader of patterns has before it: the characters left, how many it has passed,
whether blanks and comments between the parts are to be skipped, and the group names given so far.
-/
namespace BuildGate.Pattern

/-- The text that is left to a reader. -/
structure Source where
  rest : List Char
  pos : Nat := 0
  loose : Bool := false
  names : List (String × Extent) := []

namespace Source

def atEnd (s : Source) : Bool := s.rest.isEmpty

/-- The next character; the null character where the text has ended, which readers rule out. -/
def char (s : Source) : Char := s.rest.headD '\x00'

/-- Passes over one character. -/
def bump (s : Source) : Source :=
  match s.rest with
  | [] => s
  | _ :: rest => { s with rest, pos := s.pos + 1 }

/-- Passes over blanks, and over comments from `#` to the end of the line. -/
def skip (s : Source) : Source :=
  if s.loose then
    let rest := go false s.rest
    { s with rest, pos := s.pos + (s.rest.length - rest.length) }
  else s
where
  go : Bool → List Char → List Char
    | _, [] => []
    | true, c :: rest => if c = '\n' then go false rest else go true rest
    | false, c :: rest =>
      if Unicode.isBlank c then go false rest
      else if c = '#' then go true rest
      else c :: rest

def bumpSkip (s : Source) : Source := s.bump.skip

/-- The character after the next one. -/
def peek (s : Source) : Option Char := (s.rest.drop 1).head?

/-- The character after the next one, past blanks and comments where these are skipped. -/
def peekSkip (s : Source) : Option Char := s.bump.skip.rest.head?

/-- Passes over a text that stands next, if it does. -/
def bumpIf (s : Source) (text : String) : Option Source :=
  let cs := text.toList
  if cs.isPrefixOf s.rest then
    some { s with rest := s.rest.drop cs.length, pos := s.pos + cs.length }
  else none

/-- The extent of the next character. -/
def here (s : Source) : Extent := ⟨s.pos, s.pos + 1⟩

/-- The extent from an earlier place up to the next character. -/
def since (s : Source) (start : Nat) : Extent := ⟨start, s.pos⟩

def fail {α : Type} (extent : Extent) (kind : FaultKind) : Except Fault α :=
  .error ⟨kind, extent, none⟩

end Source

end BuildGate.Pattern
