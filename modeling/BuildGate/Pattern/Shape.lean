import BuildGate.Pattern.Cursor

/-!
# The shape of a pattern

A `Shape` is a pattern in the form in which automata are made for it. Groups that do not capture are
gone, texts that stand side by side are one text, sequences and alternatives do not stand in their
like, alternatives of one character each are one set, and what all alternatives begin with stands once
in front of them. `Shape.seqOf`, `Shape.altOf` and `Shape.repOf` keep it in this form.
-/
namespace BuildGate.Pattern

/-- An interval of bytes. -/
abbrev ByteRange := Nat × Nat

/-- The bytes of a code point. -/
def encodeCode (n : Nat) : List Nat :=
  if n < 0x80 then [n]
  else if n < 0x800 then [0xC0 + n / 64, 0x80 + n % 64]
  else if n < 0x10000 then [0xE0 + n / 4096, 0x80 + n / 64 % 64, 0x80 + n % 64]
  else [0xF0 + n / 262144, 0x80 + n / 4096 % 64, 0x80 + n / 64 % 64, 0x80 + n % 64]

/-- The code point that bytes spell, if they spell just one. -/
def decodeCode? (bytes : List Nat) : Option Nat :=
  let n := match bytes with
    | [a] => a
    | [a, b] => a % 32 * 64 + b % 64
    | [a, b, c] => a % 16 * 4096 + b % 64 * 64 + c % 64
    | [a, b, c, d] => a % 8 * 262144 + b % 64 * 4096 + c % 64 * 64 + d % 64
    | _ => 0
  if n.isValidChar ∧ encodeCode n = bytes then some n else none

/-- A pattern as automata are made for it. -/
inductive Shape where
  | empty
  | text (bytes : List Nat)
  /-- A character of a set. -/
  | chars (s : Charset)
  /-- A byte of some intervals. -/
  | bytes (ranges : List ByteRange)
  | look (l : Look)
  | rep (min : Nat) (max : Option Nat) (greedy : Bool) (body : Shape)
  | capture (body : Shape)
  | seq (parts : List Shape)
  | alt (branches : List Shape)
  deriving Repr, Inhabited

namespace Shape

/-! ## Lengths -/

mutual

/-- The least number of bytes of a match; none where a set is empty. -/
def least : Shape → Option Nat
  | .empty => some 0
  | .text bs => some bs.length
  | .chars s => s.ranges.head?.map fun r => (encodeCode r.1).length
  | .bytes rs => rs.head?.map fun _ => 1
  | .look _ => some 0
  | .rep min _ _ body => body.least.map (· * min)
  | .capture body => body.least
  | .seq parts => leastOfParts parts
  | .alt branches => leastOfBranches branches

def leastOfParts : List Shape → Option Nat
  | [] => some 0
  | p :: rest => return (← p.least) + (← leastOfParts rest)

def leastOfBranches : List Shape → Option Nat
  | [] => none
  | [b] => b.least
  | b :: rest => return min (← b.least) (← leastOfBranches rest)

end

mutual

/-- The greatest number of bytes of a match, if there is one. -/
def most : Shape → Option Nat
  | .empty => some 0
  | .text bs => some bs.length
  | .chars s => s.ranges.getLast?.map fun r => (encodeCode r.2).length
  | .bytes rs => rs.head?.map fun _ => 1
  | .look _ => some 0
  | .rep _ max _ body => return (← max) * (← body.most)
  | .capture body => body.most
  | .seq parts => mostOfParts parts
  | .alt branches => mostOfBranches branches

def mostOfParts : List Shape → Option Nat
  | [] => some 0
  | p :: rest => return (← p.most) + (← mostOfParts rest)

def mostOfBranches : List Shape → Option Nat
  | [] => none
  | [b] => b.most
  | b :: rest => return max (← b.most) (← mostOfBranches rest)

end

/-- Whether every match takes a byte. -/
def takesSome (p : Shape) : Bool := p.least.any (0 < ·)

/-- Whether no match takes a byte. -/
def takesNone (p : Shape) : Bool := p.most == some 0

mutual

/-- Whether every match begins where a condition holds that stands in the shape. -/
def beginsWith (l : Look) : Shape → Bool
  | .look l' => l' == l
  | .rep min _ _ body => 0 < min && body.beginsWith l
  | .capture body => body.beginsWith l
  | .seq parts => partsBeginWith l parts
  | .alt branches => branchesBeginWith l branches
  | _ => false

def partsBeginWith (l : Look) : List Shape → Bool
  | [] => false
  | p :: rest => p.beginsWith l || (p.takesNone && partsBeginWith l rest)

def branchesBeginWith (l : Look) : List Shape → Bool
  | [] => true
  | b :: rest => b.beginsWith l && branchesBeginWith l rest

end

mutual

/-- Whether every match ends where a condition holds that stands in the shape. -/
def endsWith (l : Look) : Shape → Bool
  | .look l' => l' == l
  | .rep min _ _ body => 0 < min && body.endsWith l
  | .capture body => body.endsWith l
  | .seq parts => partsEndWith l parts
  | .alt branches => branchesEndWith l branches
  | _ => false

def partsEndWith (l : Look) : List Shape → Bool
  | [] => false
  | p :: rest => partsEndWith l rest || (rest.all takesNone && p.endsWith l)

def branchesEndWith (l : Look) : List Shape → Bool
  | [] => true
  | b :: rest => b.endsWith l && branchesEndWith l rest

end

/-! ## Sequences and repetitions -/

/-- The one member of a set that has only one. -/
def onlyMember : List (Nat × Nat) → Option Nat
  | [(lo, hi)] => if lo = hi then some lo else none
  | _ => none

/-- A character of a set. -/
def ofChars (s : Charset) : Shape :=
  if s.isEmpty then .bytes []
  else
    match onlyMember s.ranges with
    | some n => .text (encodeCode n)
    | none => .chars s

/-- A byte of some intervals, in ascending order. -/
def ofBytes (rs : List ByteRange) : Shape :=
  match onlyMember rs with
  | some b => .text [b]
  | none => .bytes rs

def joinTexts : List Shape → List Shape
  | [] => []
  | .text a :: rest =>
    match joinTexts rest with
    | .text b :: more => .text (a ++ b) :: more
    | more => .text a :: more
  | p :: rest => p :: joinTexts rest

/-- Parts one after the other. -/
def seqOf (parts : List Shape) : Shape :=
  let flat := parts.flatMap fun
    | .seq ps => ps
    | .empty => []
    | p => [p]
  match joinTexts flat with
  | [] => .empty
  | [p] => p
  | ps => .seq ps

/-- A repetition. A body that takes no byte is repeated at most once, and once is the body. -/
def repOf (min : Nat) (max : Option Nat) (greedy : Bool) (body : Shape) : Shape :=
  let (min, max) :=
    if body.takesNone then (Nat.min min 1, some ((max.map (Nat.min · 1)).getD 1)) else (min, max)
  if min = 0 ∧ max = some 0 then .empty
  else if min = 1 ∧ max = some 1 then body
  else .rep min max greedy body

/-! ## Alternatives -/

/-- The characters that a shape stands for, if it stands for one of a set. -/
def asChars? : Shape → Option (List (Nat × Nat))
  | .chars s => some s.ranges
  | .bytes rs => if rs.all (·.2 < 0x80) then some rs else none
  | .text bs => (decodeCode? bs).map fun n => [(n, n)]
  | _ => none

/-- The bytes that a shape stands for, if it stands for one of some intervals. -/
def asBytes? : Shape → Option (List ByteRange)
  | .chars s => if s.isAscii then some s.ranges else none
  | .bytes rs => some rs
  | .text [b] => some [(b, b)]
  | _ => none

/-- Alternatives of one character each, as one set. -/
def asSet? (branches : List Shape) : Option Shape :=
  match branches.mapM asChars?, branches.mapM asBytes? with
  | some rs, _ => some (ofChars (.ofRanges rs.flatten))
  | none, some rs => some (ofBytes (Charset.ofRanges rs.flatten).ranges)
  | none, none => none

mutual

/-- Whether two shapes are the same. Groups that capture are told apart. -/
def same : Shape → Shape → Bool
  | .empty, .empty => true
  | .text a, .text b => a == b
  | .chars s, .chars t => s == t
  | .bytes a, .bytes b => a == b
  | .look l, .look m => l == m
  | .rep min max greedy p, .rep min' max' greedy' q =>
    min == min' && max == max' && greedy == greedy' && same p q
  | .seq ps, .seq qs => sameAll ps qs
  | .alt ps, .alt qs => sameAll ps qs
  | _, _ => false

def sameAll : List Shape → List Shape → Bool
  | [], [] => true
  | p :: ps, q :: qs => same p q && sameAll ps qs
  | _, _ => false

end

/-- How many parts two sequences share at the front. -/
def sharedParts : List Shape → List Shape → Nat
  | p :: ps, q :: qs => if same p q then sharedParts ps qs + 1 else 0
  | _, _ => 0

/-- The parts of a sequence. -/
def parts? : Shape → Option (List Shape)
  | .seq ps => some ps
  | _ => none

/-- What stands at the front of all of some sequences, and what stands behind it in each. -/
def splitFront : List (List Shape) → List Shape × List (List Shape)
  | [] => ([], [])
  | ps :: rest =>
    let n := rest.foldl (fun n qs => min n (sharedParts ps qs)) ps.length
    (ps.take n, (ps :: rest).map (·.drop n))

mutual

/-- How many shapes there are in a shape. -/
def size : Shape → Nat
  | .rep _ _ _ body => body.size + 1
  | .capture body => body.size + 1
  | .seq parts => sizeOfAll parts + 1
  | .alt branches => sizeOfAll branches + 1
  | _ => 1

def sizeOfAll : List Shape → Nat
  | [] => 0
  | p :: rest => p.size + sizeOfAll rest

end

/-- Alternatives. What all of them begin with is taken in front, which leaves each of them smaller, so
their size is enough `fuel`. -/
def altFrom : (fuel : Nat) → List Shape → Shape
  | fuel, branches =>
    let flat := branches.flatMap fun
      | .alt bs => bs
      | b => [b]
    match flat, asSet? flat with
    | [], _ => .bytes []
    | [b], _ => b
    | _, some s => s
    | flat, none =>
      match fuel, (flat.mapM parts?).map splitFront with
      | fuel + 1, some (front@(_ :: _), rests) =>
        seqOf (front ++ [altFrom fuel (rests.map seqOf)])
      | _, _ => .alt flat

/-- Alternatives, the preferred one first. -/
def altOf (branches : List Shape) : Shape := altFrom (sizeOfAll branches) branches

end Shape

end BuildGate.Pattern
