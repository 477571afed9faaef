import BuildGate.Unicode.Property

/-!
# Places in a text

A `Cursor` is a place between two characters: the character before it, the characters after it and
the number of bytes before it. A `Look` is a condition on such a place.
-/
namespace BuildGate

/-- A place in a text, counted in bytes from its start. -/
structure Cursor where
  offset : Nat
  before : Option Char
  rest : List Char
  deriving Repr, DecidableEq

namespace Cursor

/-- The start of a text. -/
def start (text : List Char) : Cursor := ⟨0, none, text⟩

/-- The next character and the place after it. -/
def next? (c : Cursor) : Option (Char × Cursor) :=
  match c.rest with
  | [] => none
  | x :: rest => some (x, ⟨c.offset + x.utf8Size, some x, rest⟩)

/-- The characters from one place up to a later one. -/
def upTo (c d : Cursor) : List Char := c.rest.take (c.rest.length - d.rest.length)

end Cursor

/-- A condition that holds at a place or does not, without taking a character. -/
inductive Look where
  | textStart
  | textEnd
  | lineStart
  | lineEnd
  /-- Line starts and ends where a carriage return, a line feed or both in this order end a line. -/
  | lineStartCrlf
  | lineEndCrlf
  | wordBoundary (ascii : Bool)
  | notWordBoundary (ascii : Bool)
  | wordStart (ascii : Bool)
  | wordEnd (ascii : Bool)
  | wordStartHalf (ascii : Bool)
  | wordEndHalf (ascii : Bool)
  deriving Repr, DecidableEq

namespace Look

/-- Letters, digits and the underscore of ASCII. -/
def asciiWord : Charset := ⟨[(0x30, 0x39), (0x41, 0x5A), (0x5F, 0x5F), (0x61, 0x7A)]⟩

/-- Whether there is a character and it belongs to a word. -/
def inWord (ascii : Bool) (c : Option Char) : Bool :=
  c.any fun x => if ascii then asciiWord.mem x else Unicode.wordChars.mem x

def holds (l : Look) (c : Cursor) : Bool :=
  let after := c.rest.head?
  match l with
  | textStart => c.before.isNone
  | textEnd => after.isNone
  | lineStart => c.before.all (· == '\n')
  | lineEnd => after.all (· == '\n')
  | lineStartCrlf =>
    c.before.all fun b => b == '\n' || (b == '\r' && after != some '\n')
  | lineEndCrlf =>
    after.all fun a => a == '\r' || (a == '\n' && c.before != some '\r')
  | wordBoundary ascii => inWord ascii c.before != inWord ascii after
  | notWordBoundary ascii => inWord ascii c.before == inWord ascii after
  | wordStart ascii => !inWord ascii c.before && inWord ascii after
  | wordEnd ascii => inWord ascii c.before && !inWord ascii after
  | wordStartHalf ascii => !inWord ascii c.before
  | wordEndHalf ascii => !inWord ascii after

end Look

end BuildGate
