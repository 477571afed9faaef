import BuildGate.Pattern.Cursor
import Std.Data.HashSet

/-!
# Patterns and what they match

A `Pattern` is what a rule looks for. `Pattern.ends p c` lists the places where a match of `p` that
starts at `c` may end, the preferred one first and none twice: of two alternatives the first is
preferred, and a greedy repetition prefers to go on.

A repetition explores the places its body can reach. It opens the body at most once at each place
and passes each place between two rounds at most once, so a body that matches nothing ends its loop,
and the work stays within the square of the text's length.

**Results.**
* `head?_distinct`, `mem_of_mem_distinct`: dropping repeated places keeps the first place and
  invents none.
-/
namespace BuildGate

/-- What a rule looks for. -/
inductive Pattern where
  | empty
  /-- One character of a set. -/
  | set (s : Charset)
  | look (l : Look)
  | seq (p q : Pattern)
  | alt (p q : Pattern)
  | rep (min : Nat) (max : Option Nat) (greedy : Bool) (p : Pattern)
  /-- A group that captures: it matches where `p` does. -/
  | group (p : Pattern)
  deriving Repr, DecidableEq, Inhabited

namespace Pattern

/-! ## Places without repetition -/

/-- Keeps the first of the places with one offset. -/
def distinct : List Cursor → List Cursor
  | [] => []
  | [c] => [c]
  | cs => go cs ∅
where
  go : List Cursor → Std.HashSet Nat → List Cursor
    | [], _ => []
    | c :: rest, seen =>
      if seen.contains c.offset then go rest seen
      else c :: go rest (seen.insert c.offset)

theorem head?_distinct (cs : List Cursor) : (distinct cs).head? = cs.head? := by
  unfold distinct
  split
  · rfl
  · rfl
  · cases cs <;> simp [distinct.go, Std.HashSet.contains_empty]

theorem mem_of_mem_go {c : Cursor} : ∀ {cs : List Cursor} {seen : Std.HashSet Nat},
    c ∈ distinct.go cs seen → c ∈ cs
  | [], _, h => by simp [distinct.go] at h
  | d :: rest, seen, h => by
    unfold distinct.go at h
    split at h
    · exact List.mem_cons_of_mem _ (mem_of_mem_go h)
    · rcases List.mem_cons.1 h with h | h
      · exact h ▸ List.mem_cons_self
      · exact List.mem_cons_of_mem _ (mem_of_mem_go h)

theorem mem_of_mem_distinct {c : Cursor} {cs : List Cursor} (h : c ∈ distinct cs) : c ∈ cs := by
  unfold distinct at h
  split at h
  · exact h
  · exact h
  · exact mem_of_mem_go h

/-! ## Repetition -/

/-- How far a repetition has come: the places where its body was opened, the places between two
rounds, and the ends found, the last one first. -/
structure Rounds where
  opened : Std.HashSet Nat := ∅
  passed : Std.HashSet Nat := ∅
  ends : List Cursor := []

/-- One round or more of a body from a place. Each level of the recursion opens the body at a place
of its own, so one more than the number of places is enough `fuel`. -/
def rounds (body : Cursor → List Cursor) (greedy : Bool) : Nat → Cursor → Rounds → Rounds
  | 0, _, r => r
  | fuel + 1, c, r =>
    if r.opened.contains c.offset then r
    else
      (body c).foldl
        (fun r d =>
          if r.passed.contains d.offset then r
          else
            let r := { r with passed := r.passed.insert d.offset }
            if greedy then
              let r := rounds body greedy fuel d r
              { r with ends := d :: r.ends }
            else rounds body greedy fuel d { r with ends := d :: r.ends })
        { r with opened := r.opened.insert c.offset }

/-- The ends of one round or more from any of the given places. -/
def oneOrMore (body : Cursor → List Cursor) (greedy : Bool) (cs : List Cursor) : List Cursor :=
  (cs.foldl (fun r c => rounds body greedy (c.rest.length + 2) c r) {}).ends.reverse

/-- How far a bounded repetition has come: the places reached with a number of rounds left. -/
structure BoundedRounds where
  reached : Std.HashSet (Nat × Nat) := ∅
  ends : List Cursor := []

/-- At most `left` rounds of a body from a place. -/
def upToRounds (body : Cursor → List Cursor) (greedy : Bool) :
    Nat → Cursor → BoundedRounds → BoundedRounds
  | 0, c, r => { r with ends := c :: r.ends }
  | left + 1, c, r =>
    if r.reached.contains (left, c.offset) then r
    else
      let r := { r with reached := r.reached.insert (left, c.offset) }
      if greedy then
        let r := (body c).foldl (fun r d => upToRounds body greedy left d r) r
        { r with ends := c :: r.ends }
      else
        (body c).foldl (fun r d => upToRounds body greedy left d r)
          { r with ends := c :: r.ends }

/-- The ends of no round up to `left` rounds from any of the given places. -/
def atMost (body : Cursor → List Cursor) (greedy : Bool) (left : Nat) (cs : List Cursor) :
    List Cursor :=
  distinct ((cs.foldl (fun r c => upToRounds body greedy left c r) {}).ends.reverse)

/-- The ends of exactly `n` rounds from any of the given places. -/
def exactly (body : Cursor → List Cursor) : Nat → List Cursor → List Cursor
  | 0, cs => cs
  | n + 1, cs => if cs.isEmpty then [] else exactly body n (distinct (cs.flatMap body))

/-- The ends of a repetition: without an upper bound the last required round is the first of those
that go on, and no required round at all is one round or more, or nothing. -/
def repeats (body : Cursor → List Cursor) (min : Nat) (max : Option Nat) (greedy : Bool)
    (c : Cursor) : List Cursor :=
  match max, min with
  | some m, _ => atMost body greedy (m - min) (exactly body min [c])
  | none, 0 =>
    distinct (if greedy then oneOrMore body greedy [c] ++ [c] else c :: oneOrMore body greedy [c])
  | none, n + 1 => oneOrMore body greedy (exactly body n [c])

/-! ## Matching -/

/-- The places where a match that starts at a place may end, the preferred one first. -/
def ends : Pattern → Cursor → List Cursor
  | empty, c => [c]
  | set s, c =>
    match c.next? with
    | some (x, d) => if s.mem x then [d] else []
    | none => []
  | look l, c => if l.holds c then [c] else []
  | seq p q, c => distinct ((ends p c).flatMap (ends q))
  | alt p q, c => ends p c ++ ends q c
  | rep min max greedy p, c => repeats (ends p) min max greedy c
  | group p, c => ends p c

/-- A match: where it starts and where it ends. -/
structure Span where
  first : Cursor
  last : Cursor
  deriving Repr, DecidableEq

namespace Span

def isEmpty (s : Span) : Bool := s.first.offset == s.last.offset

/-- The matched characters. -/
def text (s : Span) : List Char := s.first.upTo s.last

end Span

/-- The preferred match with the least start, from a place on: the place has the given bytes and the
given character before it. -/
def search (p : Pattern) : (offset : Nat) → (before : Option Char) → List Char → Option Span
  | offset, before, [] => (p.ends ⟨offset, before, []⟩).head?.map fun e => ⟨⟨offset, before, []⟩, e⟩
  | offset, before, x :: rest =>
    match (p.ends ⟨offset, before, x :: rest⟩).head? with
    | some e => some ⟨⟨offset, before, x :: rest⟩, e⟩
    | none => search p (offset + x.utf8Size) (some x) rest

/-- The preferred match with the least start at or after a place. -/
def findFrom (p : Pattern) (c : Cursor) : Option Span := search p c.offset c.before c.rest

def find (p : Pattern) (text : List Char) : Option Span := p.findFrom (.start text)

/-- Matches from a place on that do not overlap. A match of no character where the last match ended
is passed over. -/
def findAllFrom (p : Pattern) : Nat → Cursor → (lastEnd : Option Nat) → List Span
  | 0, _, _ => []
  | fuel + 1, c, lastEnd =>
    match p.findFrom c with
    | none => []
    | some m =>
      if m.isEmpty && lastEnd == some m.last.offset then
        match c.next? with
        | none => []
        | some (_, d) => findAllFrom p fuel d lastEnd
      else m :: findAllFrom p fuel m.last (some m.last.offset)

/-- Every match in turn, none overlapping the one before. A search either takes a character or finds
nothing where the last match ended, so twice the number of places is enough fuel. -/
def findAll (p : Pattern) (text : List Char) : List Span :=
  p.findAllFrom (2 * text.length + 2) (.start text) none

/-- The pattern of a text taken literally. -/
def ofText : List Char → Pattern
  | [] => empty
  | [c] => set (.singleton c)
  | c :: rest => seq (set (.singleton c)) (ofText rest)

end Pattern

end BuildGate
