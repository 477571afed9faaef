/-!
# Sets of characters

A `Charset` is a list of closed intervals of code points. Every operation here
returns the intervals in ascending order, with no two of them touching, so that
the membership test may stop at the first interval above the character.

**Results.**
* `Charset.mem_ofRange`: membership in one interval is the two comparisons.
* `Charset.mem_compl`: the complement of an ascending set holds what the set does not.
-/
namespace BuildGate

/-- A set of characters as ascending, disjoint, closed intervals of code points. -/
structure Charset where
  ranges : List (Nat × Nat)
  deriving Repr, BEq, DecidableEq, Inhabited

namespace Charset

/-- The greatest code point. -/
def lastCode : Nat := 0x10FFFF

def empty : Charset := ⟨[]⟩

def full : Charset := ⟨[(0, lastCode)]⟩

def ofRange (lo hi : Char) : Charset := ⟨[(lo.toNat, hi.toNat)]⟩

def singleton (c : Char) : Charset := ofRange c c

def isEmpty (s : Charset) : Bool := s.ranges.isEmpty

/-- Whether a code point lies in one of the ascending intervals. -/
def holds : List (Nat × Nat) → Nat → Bool
  | [], _ => false
  | (lo, hi) :: rest, n => if n < lo then false else if n ≤ hi then true else holds rest n

/-- Whether a character is in the set. -/
def mem (s : Charset) (c : Char) : Bool := holds s.ranges c.toNat

/-- Joins intervals, ascending by their lower ends, that overlap or touch. -/
def coalesce : List (Nat × Nat) → List (Nat × Nat)
  | [] => []
  | r :: rest => go r rest
where
  go : Nat × Nat → List (Nat × Nat) → List (Nat × Nat)
    | r, [] => [r]
    | (lo, hi), (lo', hi') :: rest =>
      if lo' ≤ hi + 1 then go (lo, max hi hi') rest else (lo, hi) :: go (lo', hi') rest

/-- The set with the given intervals, in any order and overlapping as they may. -/
def ofRanges (rs : List (Nat × Nat)) : Charset :=
  ⟨coalesce (rs.mergeSort fun a b => a.1 ≤ b.1)⟩

def union (a b : Charset) : Charset := ofRanges (a.ranges ++ b.ranges)

/-- The gaps between ascending intervals, from `start` up to the last code point. -/
def gaps (start : Nat) : List (Nat × Nat) → List (Nat × Nat)
  | [] => if start ≤ lastCode then [(start, lastCode)] else []
  | (lo, hi) :: rest =>
    if start < lo then (start, lo - 1) :: gaps (hi + 1) rest else gaps (hi + 1) rest

def compl (s : Charset) : Charset := ⟨gaps 0 s.ranges⟩

def inter (a b : Charset) : Charset := (a.compl.union b.compl).compl

def diff (a b : Charset) : Charset := a.inter b.compl

/-- The characters in exactly one of the two sets. -/
def symmDiff (a b : Charset) : Charset := (a.union b).diff (a.inter b)

/-- Whether every member is below U+0080. -/
def isAscii (s : Charset) : Bool := s.ranges.all fun r => r.2 < 0x80

def unions (ss : List Charset) : Charset := ofRanges (ss.flatMap ranges)

theorem mem_ofRange (lo hi c : Char) :
    (ofRange lo hi).mem c = decide (lo.toNat ≤ c.toNat ∧ c.toNat ≤ hi.toNat) := by
  simp only [mem, ofRange, holds]
  grind

theorem mem_singleton (x c : Char) : (singleton x).mem c = decide (c = x) := by
  rw [singleton, mem_ofRange, decide_eq_decide, ← Char.toNat_inj]
  omega

/-- Intervals that are not empty, in ascending order from `start` on. -/
def Ascending (start : Nat) : List (Nat × Nat) → Prop
  | [] => True
  | (lo, hi) :: rest => start ≤ lo ∧ lo ≤ hi ∧ Ascending (hi + 1) rest

theorem holds_gaps {n : Nat} (hn : n ≤ lastCode) : ∀ {rs : List (Nat × Nat)} {start : Nat},
    Ascending start rs → holds (gaps start rs) n = (decide (start ≤ n) && !holds rs n)
  | [], start, _ => by
    simp only [gaps, holds, Bool.not_false, Bool.and_true]
    split <;> simp only [holds] <;> grind
  | (lo, hi) :: rest, start, h => by
    obtain ⟨hlo, hle, hrest⟩ := h
    have ih := holds_gaps hn hrest
    simp only [gaps, holds]
    split <;> simp only [holds, ih] <;> grind

theorem mem_compl {s : Charset} (h : Ascending 0 s.ranges) (c : Char) :
    s.compl.mem c = !s.mem c := by
  have hn : c.toNat ≤ lastCode := by
    rcases c.valid with h | h
    · exact Nat.le_trans (Nat.le_of_lt h) (by decide)
    · exact Nat.le_of_lt_succ h.2
  rw [mem, compl, holds_gaps hn h, decide_eq_true (Nat.zero_le _), Bool.true_and]
  rfl

/-! ## Tables written as text -/

/-- The value of a hexadecimal digit in upper case. -/
def hexDigit (c : Char) : Nat :=
  if c.isDigit then c.toNat - '0'.toNat else c.toNat - 'A'.toNat + 10

/-- Reads a table of intervals: `41-5A AA` is the interval from U+0041 to U+005A and the single
code point U+00AA. -/
def readTable (text : String) : List (Nat × Nat) :=
  go text.toList none 0 []
where
  go : List Char → Option Nat → Nat → List (Nat × Nat) → List (Nat × Nat)
    | [], lo, n, acc => (close lo n acc).reverse
    | c :: rest, lo, n, acc =>
      if c = ' ' then go rest none 0 (close lo n acc)
      else if c = '-' then go rest (some n) 0 acc
      else go rest lo (16 * n + hexDigit c) acc
  close (lo : Option Nat) (n : Nat) (acc : List (Nat × Nat)) : List (Nat × Nat) :=
    (lo.getD n, n) :: acc

/-- The set that a table of ascending intervals describes; the empty text is the empty set. -/
def ofTable (text : String) : Charset :=
  if text.isEmpty then empty else ⟨readTable text⟩

end Charset

end BuildGate
