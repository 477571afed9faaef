import BuildGate.Pattern.Fault
import BuildGate.Pattern.Shape
import Std.Data.TreeMap

/-!
# The size of a compiled pattern

Patterns are compiled to two automata on bytes, one that reads a text forwards and one that reads it
backwards. `Shape.automatonBytes` counts the memory of the states of one shape and
`Pattern.automataBytes` that of an automaton for several, neither of which is built; patterns that
take more than `sizeLimit` in either direction are too big.

Every state takes 32 bytes. A state with a choice of bytes takes 8 more for each interval of bytes,
and a state with a choice of next states 4 more for each of them.
-/
namespace BuildGate.Pattern

/-! ## Sets as sequences of bytes -/

/-- The greatest code points of one, two, three and four bytes. -/
def lastOfWidth : List Nat := [0x7F, 0x7FF, 0xFFFF, 0x10FFFF]

/-- Splits an interval of code points, at most once, so that its parts come closer to a sequence of
byte intervals each: at the surrogates, where the number of bytes changes, and where trailing bytes
do not run over all their values. -/
def splitOnce (lo hi : Nat) : Option ((Nat × Nat) × (Nat × Nat)) :=
  if lo < 0xE000 ∧ 0xD7FF < hi then some ((lo, 0xD7FF), (0xE000, hi))
  else
    match lastOfWidth.find? fun m => lo ≤ m && m < hi with
    | some m => some ((lo, m), (m + 1, hi))
    | none =>
      if hi < 0x80 then none
      else
        [64, 4096, 262144].findSome? fun unit =>
          if lo / unit = hi / unit then none
          else if lo % unit ≠ 0 then
            let cut := lo / unit * unit + unit
            some ((lo, cut - 1), (cut, hi))
          else if hi % unit ≠ unit - 1 then
            let cut := hi / unit * unit
            some ((lo, cut - 1), (cut, hi))
          else none

/-- The sequences of byte intervals that spell an interval of code points, in order. -/
def byteSequences : Nat → Nat × Nat → List (List ByteRange)
  | 0, _ => []
  | fuel + 1, (lo, hi) =>
    if hi < lo then []
    else
      match splitOnce lo hi with
      | some (a, b) => byteSequences fuel a ++ byteSequences fuel b
      | none => [(encodeCode lo).zip (encodeCode hi)]

/-- The sequences of byte intervals that spell the characters of a set. -/
def Charset.byteSequences (s : Charset) : List (List ByteRange) :=
  s.ranges.flatMap (Pattern.byteSequences 32)

/-! ## Memory -/

def stateBytes : Nat := 32
def transitionBytes : Nat := 8
def alternateBytes : Nat := 4

/-- The states of an automaton that is built from sequences in ascending order, in which equal
remainders are shared: each is a list of byte intervals with the state they lead to. -/
structure SharedStates where
  states : Std.TreeMap (List Nat) Nat := ∅
  bytes : Nat := 0

/-- A list of byte intervals and states as numbers, by which it is found. -/
def nodeKey (node : List (ByteRange × Nat)) : List Nat :=
  node.flatMap fun ((lo, hi), target) => [lo, hi, target]

/-- The number of a state, which is made if there is none like it. State 0 is the last one. -/
def SharedStates.add (st : SharedStates) (node : List (ByteRange × Nat)) : Nat × SharedStates :=
  match st.states[nodeKey node]? with
  | some i => (i, st)
  | none =>
    let i := st.states.size + 1
    (i, ⟨st.states.insert (nodeKey node) i, st.bytes + stateBytes + transitionBytes * node.length⟩)

/-- Groups sequences by their first interval: those with one first interval stand together. -/
def groupFirst : List (List ByteRange) → List (ByteRange × List (List ByteRange))
  | [] => []
  | [] :: rest => groupFirst rest
  | (r :: tail) :: rest =>
    match groupFirst rest with
    | (r', tails) :: more =>
      if r = r' then (r, tail :: tails) :: more else (r, [tail]) :: (r', tails) :: more
    | [] => [(r, [tail])]

/-- The state that reads one of the sequences; a sequence has at most `width` intervals. -/
def shareForward (width : Nat) (seqs : List (List ByteRange)) (st : SharedStates) :
    Nat × SharedStates :=
  match width with
  | 0 => (0, st)
  | width + 1 =>
    if seqs.all (·.isEmpty) then (0, st)
    else
      let (node, st) := (groupFirst seqs).foldl
        (fun (acc : List (ByteRange × Nat) × SharedStates) g =>
          let (target, st) := shareForward width g.2 acc.2
          ((g.1, target) :: acc.1, st))
        ([], st)
      st.add node.reverse

/-- The states that read the sequences backwards, in which equal beginnings are shared. -/
def shareBackward (seqs : List (List ByteRange)) : Nat :=
  let made : Std.TreeMap (List Nat) Nat := seqs.foldl
    (fun made seq =>
      (seq.foldl
        (fun (acc : Nat × Std.TreeMap (List Nat) Nat) r =>
          let key := [acc.1, r.1, r.2]
          match acc.2[key]? with
          | some i => (i, acc.2)
          | none =>
            let i := acc.2.size + 1
            (i, acc.2.insert key i))
        (0, made)).2)
    ∅
  made.size * stateBytes

/-- The memory of the states for a byte of some intervals. -/
def byteSetBytes (rs : List ByteRange) : Nat := 2 * stateBytes + transitionBytes * rs.length

/-- The memory of the states for one character of a set. -/
def charSetBytes (backward : Bool) (s : Charset) : Nat :=
  if s.isAscii then byteSetBytes s.ranges
  else
    let seqs := Charset.byteSequences s
    if backward then 2 * stateBytes + alternateBytes * seqs.length + shareBackward seqs
    else stateBytes + (shareForward 5 seqs {}).2.bytes

/-- The memory of a state with a choice of `n` next states. -/
def choiceBytes (n : Nat) : Nat := stateBytes + alternateBytes * n

/-- The memory of the states of a repetition whose body takes `body` bytes. -/
def repetitionBytes (body : Nat) (takes : Bool) (min : Nat) (max : Option Nat) : Nat :=
  let choice := choiceBytes 2
  match min, max with
  | 0, some 1 => choice + body + stateBytes
  | 0, none => if takes then choice + body else 2 * choice + body + stateBytes
  | n, none => n * body + choice
  | n, some m =>
    let required := if n = 0 then stateBytes else n * body
    if n = m then required else required + stateBytes + (m - n) * (choice + body)

/-! ## Alternatives of texts -/

/-- The texts that are read on from one state, in order: a text that ends there closes a chunk, and
those behind it begin the next one. An end is counted once while nothing is read on. -/
structure Chunks where
  ends : Nat := 0
  closed : List (List (List Nat)) := []
  current : List (List Nat) := []

def Chunks.add (c : Chunks) : List Nat → Chunks
  | [] =>
    if c.ends ≠ 0 ∧ c.current.isEmpty ∧ c.closed.all (·.isEmpty) then c
    else { ends := c.ends + 1, closed := c.closed ++ [c.current] }
  | text => { c with current := c.current ++ [text] }

/-- The chunks in which there is a text. -/
def Chunks.filled (c : Chunks) : List (List (List Nat)) :=
  (c.closed ++ [c.current]).filter (!·.isEmpty)

/-- What is behind each first byte of some texts: texts with one first byte are put together. -/
def tailsByFirst (texts : List (List Nat)) : List (List (List Nat)) :=
  (texts.foldl
    (fun (groups : Std.TreeMap Nat (List (List Nat))) text =>
      match text with
      | [] => groups
      | b :: tail => groups.alter b fun tails => some (tail :: tails.getD []))
    ∅).values.map List.reverse

/-- The memory of the states that tell texts apart byte by byte. A text has fewer bytes than
`fuel`. -/
def trieBytes : (fuel : Nat) → List (List Nat) → Nat
  | 0, _ => 0
  | fuel + 1, texts =>
    if texts.all (·.isEmpty) then 0
    else
      let chunks := texts.foldl Chunks.add {}
      chunks.filled.foldl
        (fun sum chunk =>
          let tails := tailsByFirst chunk
          let first := if tails.length = 1 then stateBytes
            else stateBytes + transitionBytes * tails.length
          tails.foldl (fun sum texts => sum + trieBytes fuel texts) (sum + first))
        (choiceBytes (chunks.filled.length + chunks.ends))

/-- The texts of alternatives that are all texts. -/
def Shape.texts? (branches : List Shape) : Option (List (List Nat)) :=
  branches.mapM fun
    | .text bs => some bs
    | _ => none

/-! ## Whole patterns -/

mutual

/-- The memory of the states of a shape. A group that captures has a state at either end, forwards
only. -/
def Shape.automatonBytes (backward : Bool) : Shape → Nat
  | .empty => stateBytes
  | .text bs => stateBytes * bs.length
  | .chars s => charSetBytes backward s
  | .bytes rs => byteSetBytes rs
  | .look _ => stateBytes
  | .rep min max _ body => repetitionBytes (body.automatonBytes backward) body.takesSome min max
  | .capture body => body.automatonBytes backward + if backward then 0 else 2 * stateBytes
  | .seq parts => Shape.statesBytes backward parts
  | .alt branches =>
    match Shape.texts? branches with
    | some texts =>
      let texts := if backward then texts.map List.reverse else texts
      stateBytes + trieBytes ((texts.map List.length).foldl max 0 + 1) texts
    | none => choiceBytes branches.length + stateBytes + Shape.statesBytes backward branches

def Shape.statesBytes (backward : Bool) : List Shape → Nat
  | [] => 0
  | p :: rest => p.automatonBytes backward + Shape.statesBytes backward rest

end

/-- The memory of the states in front of patterns: none of them is a loop over the text before a
match if every match begins where the text does (ends where it does, backwards). -/
def frontBytes (backward : Bool) (shapes : List Shape) : Nat :=
  let isAnchored := shapes.all fun p =>
    if backward then p.endsWith .textEnd else p.beginsWith .textStart
  if isAnchored then stateBytes else choiceBytes 2 + byteSetBytes [(0, 255)]

/-- The memory of the automaton that looks for several patterns at once. -/
def automataBytes (backward : Bool) (shapes : List Shape) : Nat :=
  let ends := if backward then stateBytes else 3 * stateBytes
  let choice := if shapes.length < 2 then 0 else choiceBytes shapes.length + stateBytes
  frontBytes backward shapes + choice + Shape.statesBytes backward shapes + shapes.length * ends

/-- Whether a pattern is a choice of so many texts that no automaton of this kind is made for it. -/
def isManyTexts : Shape → Bool
  | .alt branches => (Shape.texts? branches).isSome && 3000 ≤ branches.length
  | _ => false

/-- Whether either automaton for several patterns takes more than the limit. -/
def areTooBig (shapes : List Shape) : Bool :=
  !(shapes.length = 1 && shapes.all isManyTexts) &&
    (sizeLimit < automataBytes false shapes || sizeLimit < automataBytes true shapes)

end BuildGate.Pattern
