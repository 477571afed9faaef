/-!
# Reading a text

A `Reading` takes characters from the front of a text and gives a value, or refuses. What it does
not take is left for the next one.
-/
namespace BuildGate.Data

abbrev Reading (α : Type) := StateT (List Char) Option α

namespace Reading

def refuse {α : Type} : Reading α := fun _ => none

/-- The next character, which is left. -/
def peek : Reading (Option Char) := fun cs => some (cs.head?, cs)

/-- The characters that are left. -/
def remaining : Reading (List Char) := fun cs => some (cs, cs)

/-- Takes a character. -/
def next : Reading Char
  | [] => none
  | c :: rest => some (c, rest)

/-- Takes a character of a kind. -/
def one (p : Char → Bool) : Reading Char
  | [] => none
  | c :: rest => if p c then some (c, rest) else none

def char (c : Char) : Reading Unit := do let _ ← one (· == c)

/-- Takes a text if it comes next, and says whether it did. -/
def skip? (text : String) : Reading Bool := fun cs =>
  if text.toList.isPrefixOf cs then some (true, cs.drop text.length) else some (false, cs)

def text (s : String) : Reading Unit := do
  if ← skip? s then pure () else refuse

/-- Takes characters as long as they are of a kind. -/
def takeWhile (p : Char → Bool) : Reading (List Char) := fun cs =>
  some (cs.takeWhile p, cs.dropWhile p)

def skipWhile (p : Char → Bool) : Reading Unit := do let _ ← takeWhile p

/-- At least one character of a kind. -/
def takeSome (p : Char → Bool) : Reading (List Char) := do
  match ← takeWhile p with
  | [] => refuse
  | cs => return cs

/-- Gives what a reading gives, or else nothing and leaves the text as it is. -/
def optional {α : Type} (r : Reading α) : Reading (Option α) := fun cs =>
  match r cs with
  | some (a, rest) => some (some a, rest)
  | none => some (none, cs)

/-- Reads a whole text. -/
def whole {α : Type} (r : Reading α) (s : String) : Option α :=
  match r s.toList with
  | some (a, []) => some a
  | _ => none

end Reading

/-- The value of a digit of a base up to sixteen. -/
def digitOf (base : Nat) (c : Char) : Option Nat :=
  let n :=
    if '0' ≤ c ∧ c ≤ '9' then c.toNat - '0'.toNat
    else if 'a' ≤ c ∧ c ≤ 'f' then c.toNat - 'a'.toNat + 10
    else if 'A' ≤ c ∧ c ≤ 'F' then c.toNat - 'A'.toNat + 10
    else 16
  if n < base then some n else none

def isDigit (c : Char) : Bool := (digitOf 10 c).isSome

def isHex (c : Char) : Bool := (digitOf 16 c).isSome

/-- The number that digits of a base write; characters that are no digits do not count. -/
def numberOf (base : Nat) (cs : List Char) : Nat :=
  (cs.filterMap (digitOf base)).foldl (fun n d => base * n + d) 0

/-- The character of a code point, unless it is the half of a pair or too great. -/
def scalarOf (n : Nat) : Option Char := if n.isValidChar then some (Char.ofNat n) else none

end BuildGate.Data
