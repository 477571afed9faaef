import BuildGate.Pattern.Source
import BuildGate.Pattern.Cursor

/-!
# Reading escapes and bracketed classes

An escape is one character of a pattern, a class with a letter of its own or a condition; which of
these may stand in brackets, and which may end a range, is decided after it is read.
-/
namespace BuildGate.Pattern

open Source (fail)

/-- One item that is neither a group nor a bracketed class nor a repetition. -/
inductive Primitive where
  | literal (l : Literal)
  | look (extent : Extent) (l : WrittenLook)
  | dot (extent : Extent)
  | short (extent : Extent) (cls : ShortClass) (negated : Bool)
  | unicode (extent : Extent) (query : Unicode.Query) (negated : Bool)

namespace Primitive

def extent : Primitive → Extent
  | literal l => l.extent
  | look e _ => e
  | dot e => e
  | short e _ _ => e
  | unicode e _ _ => e

def written : Primitive → Written
  | literal l => .literal l
  | look _ l => .look l
  | dot e => .dot e
  | short e cls negated => .short e cls negated
  | unicode e query negated => .unicode e query negated

/-- As an item of a class; conditions are none. -/
def classItem : Primitive → Except Fault ClassItem
  | literal l => .ok (.literal l)
  | short e cls negated => .ok (.short e cls negated)
  | unicode e query negated => .ok (.unicode e query negated)
  | p => fail p.extent .classEscapeInvalid

/-- As an end of a range; only characters are. -/
def rangeEnd : Primitive → Except Fault Literal
  | literal l => .ok l
  | p => fail p.extent .classRangeLiteral

end Primitive

/-! ## Escapes -/

/-- Characters with a meaning in patterns, which an escape takes away. -/
def isMeta (c : Char) : Bool := "\\.+*?()|[]\x7b\x7d^$#&-~".toList.contains c

/-- Characters that an escape leaves as they are. -/
def isEscapable (c : Char) : Bool :=
  isMeta c || (c.toNat < 0x80 && !c.isAlphanum && c != '<' && c != '>')

def isHexDigit (c : Char) : Bool :=
  c.isDigit || ('a' ≤ c && c ≤ 'f') || ('A' ≤ c && c ≤ 'F')

/-- The value of hexadecimal digits, of either case. -/
def hexValue (cs : List Char) : Nat :=
  cs.foldl (fun n c => 16 * n + Charset.hexDigit c.toUpper) 0

/-- The character with a number, if there is one. -/
def charOfCode (n : Nat) : Option Char :=
  if h : n.isValidChar then some (Char.ofNatAux n h) else none

/-- The digits of `\xHH`, `\uHHHH` and `\UHHHHHHHH`. -/
def readHexDigits (start : Nat) (byte : Bool) : Nat → Source → List Char →
    Except Fault (Literal × Source)
  | 0, s, digits =>
    match charOfCode (hexValue digits.reverse) with
    | some c => .ok (⟨c, byte, s.since start⟩, s)
    | none => fail ⟨start + 2, s.pos⟩ .escapeHexInvalid
  | n + 1, s, digits =>
    if s.atEnd then fail (s.since s.pos) .escapeUnexpectedEnd
    else if !isHexDigit s.char then fail s.here .escapeHexInvalidDigit
    else readHexDigits start byte n s.bumpSkip (s.char :: digits)

/-- The digits of `\x{...}` and its like, after the opening brace. -/
def readHexBrace (start open_ : Nat) : Nat → Source → List Char → Except Fault (Literal × Source)
  | 0, s, _ => fail (s.since open_) .escapeUnexpectedEnd
  | fuel + 1, s, digits =>
    let s := s.bumpSkip
    if s.atEnd then fail (s.since open_) .escapeUnexpectedEnd
    else if s.char = '}' then
      let close := s.pos
      let s := s.bumpSkip
      if digits.isEmpty then fail (s.since open_) .escapeHexEmpty
      else
        match charOfCode (hexValue digits.reverse) with
        | some c => .ok (⟨c, false, s.since start⟩, s)
        | none => fail ⟨open_ + 1, close⟩ .escapeHexInvalid
    else if !isHexDigit s.char then fail s.here .escapeHexInvalidDigit
    else readHexBrace start open_ fuel s (s.char :: digits)

def readHex (start : Nat) (s : Source) : Except Fault (Literal × Source) :=
  let digits := match s.char with
    | 'x' => 2
    | 'u' => 4
    | _ => 8
  let byte := s.char = 'x'
  let s := s.bumpSkip
  if s.atEnd then fail (s.since start) .escapeUnexpectedEnd
  else if s.char = '{' then readHexBrace start s.pos (s.rest.length + 1) s []
  else readHexDigits start byte digits s []

/-- The name between the braces of `\p{...}`. -/
def readClassName (start : Nat) : Nat → Source → List Char → Except Fault (String × Source)
  | 0, s, _ => fail (s.since start) .escapeUnexpectedEnd
  | fuel + 1, s, name =>
    let s := s.bumpSkip
    if s.atEnd then fail (s.since start) .escapeUnexpectedEnd
    else if s.char = '}' then .ok (String.ofList name.reverse, s.bump)
    else readClassName start fuel s (s.char :: name)

/-- The first place where a text stands in another: what is before it and what is after it. -/
def cutAt (mark : String) (text : String) : Option (String × String) :=
  match text.splitOn mark with
  | before :: after@(_ :: _) => some (before, mark.intercalate after)
  | _ => none

/-- The query of a name: `!=`, `:` and `=` part a property from its value, the first of these marks
that the name holds in this order. -/
def queryOf (name : String) : Unicode.Query :=
  match (cutAt "!=" name).orElse fun _ => (cutAt ":" name).orElse fun _ => cutAt "=" name with
  | some (property, value) => .value property value
  | none => .name name

def readUnicodeClass (start : Nat) (s : Source) : Except Fault (Primitive × Source) :=
  let negated := s.char = 'P'
  let s := s.bumpSkip
  if s.atEnd then fail (s.since start) .escapeUnexpectedEnd
  else if s.char = '{' then do
    let (name, s) ← readClassName start (s.rest.length + 1) s []
    return (.unicode (s.since start) (queryOf name) negated, s)
  else if s.char = '\\' then fail s.here .unicodeClassInvalid
  else
    let name := toString s.char
    let s := s.bumpSkip
    .ok (.unicode (s.since start) (.name name) negated, s)

/-- The name of a special word boundary, as far as its letters go. -/
def readBoundaryName : Nat → Source → List Char → String × Source
  | 0, s, name => (String.ofList name.reverse, s)
  | fuel + 1, s, name =>
    if !s.atEnd && (s.char.isAlpha || s.char == '-') then
      readBoundaryName fuel s.bumpSkip (s.char :: name)
    else (String.ofList name.reverse, s)

/-- A word boundary: `\b`, or `\b{start}` and its like. A brace after which no letter stands is
left to be read as a repetition. -/
def readWordBoundary (start : Nat) (s : Source) : Except Fault (WrittenLook × Source) :=
  if s.atEnd || s.char != '{' then .ok (.wordBoundary, s)
  else
    let inner := s.bumpSkip
    if inner.atEnd then fail (inner.since start) .specialBoundaryUnexpectedEnd
    else if !(inner.char.isAlpha || inner.char == '-') then .ok (.wordBoundary, s)
    else
      let (name, after) := readBoundaryName inner.rest.length inner []
      if after.atEnd || after.char != '}' then
        fail (after.since s.pos) .specialBoundaryUnclosed
      else
        match name with
        | "start" => .ok (.wordStart, after.bump)
        | "end" => .ok (.wordEnd, after.bump)
        | "start-half" => .ok (.wordStartHalf, after.bump)
        | "end-half" => .ok (.wordEndHalf, after.bump)
        | _ => fail ⟨inner.pos, after.pos⟩ .specialBoundaryUnrecognized

def shortClassOf : Char → Option (ShortClass × Bool)
  | 'd' => some (.digit, false)
  | 's' => some (.space, false)
  | 'w' => some (.word, false)
  | 'D' => some (.digit, true)
  | 'S' => some (.space, true)
  | 'W' => some (.word, true)
  | _ => none

/-- The control characters with a letter of their own. -/
def controlOf : Char → Option Char
  | 'a' => some '\x07'
  | 'f' => some '\x0C'
  | 't' => some '\t'
  | 'n' => some '\n'
  | 'r' => some '\r'
  | 'v' => some '\x0B'
  | _ => none

def lookOf : Char → Option WrittenLook
  | 'A' => some .startText
  | 'z' => some .endText
  | 'B' => some .notWordBoundary
  | '<' => some .wordStart
  | '>' => some .wordEnd
  | _ => none

/-- What a backslash and the characters after it stand for. -/
def readEscape (s : Source) : Except Fault (Primitive × Source) :=
  let start := s.pos
  let s := s.bump
  if s.atEnd then fail (s.since start) .escapeUnexpectedEnd
  else
    let c := s.char
    if c.isDigit then fail ⟨start, s.here.stop⟩ .unsupportedBackreference
    else if c = 'x' ∨ c = 'u' ∨ c = 'U' then do
      let (l, s) ← readHex start s
      return (.literal { l with extent := s.since start }, s)
    else if c = 'p' ∨ c = 'P' then readUnicodeClass start s
    else
      let after := s.bump
      let extent := after.since start
      match shortClassOf c with
      | some (cls, negated) => .ok (.short extent cls negated, after)
      | none =>
        if isEscapable c then .ok (.literal ⟨c, false, extent⟩, after)
        else
          match controlOf c, lookOf c with
          | some control, _ => .ok (.literal ⟨control, false, extent⟩, after)
          | none, some l => .ok (.look extent l, after)
          | none, none =>
            if c = 'b' then do
              let (l, s) ← readWordBoundary start after
              return (.look (s.since start) l, s)
            else fail extent .escapeUnrecognized

/-- One item outside brackets. -/
def readPrimitive (s : Source) : Except Fault (Primitive × Source) :=
  match s.char with
  | '\\' => readEscape s
  | '.' => .ok (.dot s.here, s.bump)
  | '^' => .ok (.look s.here .startLine, s.bump)
  | '$' => .ok (.look s.here .endLine, s.bump)
  | c => .ok (.literal ⟨c, false, s.here⟩, s.bump)

/-! ## Classes -/

/-- The classes with a name between `[:` and `:]`. -/
def posixClass : String → Option Charset
  | "alnum" => some ⟨[(0x30, 0x39), (0x41, 0x5A), (0x61, 0x7A)]⟩
  | "alpha" => some ⟨[(0x41, 0x5A), (0x61, 0x7A)]⟩
  | "ascii" => some ⟨[(0x00, 0x7F)]⟩
  | "blank" => some ⟨[(0x09, 0x09), (0x20, 0x20)]⟩
  | "cntrl" => some ⟨[(0x00, 0x1F), (0x7F, 0x7F)]⟩
  | "digit" => some ⟨[(0x30, 0x39)]⟩
  | "graph" => some ⟨[(0x21, 0x7E)]⟩
  | "lower" => some ⟨[(0x61, 0x7A)]⟩
  | "print" => some ⟨[(0x20, 0x7E)]⟩
  | "punct" => some ⟨[(0x21, 0x2F), (0x3A, 0x40), (0x5B, 0x60), (0x7B, 0x7E)]⟩
  | "space" => some ⟨[(0x09, 0x0D), (0x20, 0x20)]⟩
  | "upper" => some ⟨[(0x41, 0x5A)]⟩
  | "word" => some Look.asciiWord
  | "xdigit" => some ⟨[(0x30, 0x39), (0x41, 0x46), (0x61, 0x66)]⟩
  | _ => none

/-- A class with a name, if the next characters are one. -/
def readPosixClass (s : Source) : Option (ClassItem × Source) := do
  let start := s.pos
  let s ← s.bumpIf "[:"
  let (negated, s) := match s.bumpIf "^" with
    | some s => (true, s)
    | none => (false, s)
  let name := s.rest.takeWhile (· != ':')
  let s := { s with rest := s.rest.drop name.length, pos := s.pos + name.length }
  let s ← s.bumpIf ":]"
  let cls ← posixClass (String.ofList name)
  return (.posix (s.since start) cls negated, s)

def readClassPrimitive (s : Source) : Except Fault (Primitive × Source) :=
  if s.char = '\\' then readEscape s else .ok (.literal ⟨s.char, false, s.here⟩, s.bump)

/-- A class that is being read: its opening, the parts before the last operation, that operation,
and the items after it, the last one first. -/
structure OpenClass where
  start : Nat
  opening : Extent
  negated : Bool
  left : Option (ClassItem × ClassOp) := none
  items : List ClassItem := []
  itemsStart : Nat

namespace OpenClass

/-- The items after the last operation as one item. -/
def lastPart (o : OpenClass) (s : Source) : ClassItem :=
  match o.items with
  | [] => .empty
  | [i] => i
  | items => .union ⟨o.itemsStart, s.pos⟩ items.reverse

/-- All that has been read, with the operations grouped from the left. -/
def body (o : OpenClass) (s : Source) : ClassItem :=
  match o.left with
  | none => o.lastPart s
  | some (lhs, op) => .operation ⟨o.start, s.pos⟩ op lhs (o.lastPart s)

def push (o : OpenClass) (i : ClassItem) : OpenClass := { o with items := i :: o.items }

def operate (o : OpenClass) (op : ClassOp) (before after : Source) : OpenClass :=
  { o with left := some (o.body before, op), items := [], itemsStart := after.pos }

end OpenClass

/-- Dashes at the start of a class, which stand for themselves. -/
def readDashes (opening : Extent) : Nat → Source → List ClassItem →
    Except Fault (List ClassItem × Source)
  | 0, s, items => .ok (items, s)
  | fuel + 1, s, items =>
    if s.char = '-' then
      let item := .literal ⟨'-', false, s.here⟩
      let s := s.bumpSkip
      if s.atEnd then fail opening .classUnclosed
      else readDashes opening fuel s (item :: items)
    else .ok (items, s)

/-- The opening of a class: its bracket, the sign of denial, and the dashes or the closing bracket
that stand for themselves because they come first. -/
def openClass (s : Source) : Except Fault (OpenClass × Source) := do
  let start := s.pos
  let s := s.bumpSkip
  if s.atEnd then fail (s.since start) .classUnclosed
  let negated := s.char = '^'
  let s := if negated then s.bumpSkip else s
  if s.atEnd then fail (s.since start) .classUnclosed
  let itemsStart := s.pos
  let (items, s) ← readDashes (s.since start) s.rest.length s []
  let (items, s) ←
    if items.isEmpty ∧ s.char = ']' then
      let item := ClassItem.literal ⟨']', false, s.here⟩
      let s := s.bumpSkip
      if s.atEnd then fail (s.since start) .classUnclosed else pure ([item], s)
    else pure (items, s)
  return ({ start, opening := ⟨start, s.pos⟩, negated, items, itemsStart }, s)

/-- One character or class, or a range of characters. -/
def readClassRange (opening : Extent) (s : Source) : Except Fault (ClassItem × Source) := do
  let (lo, s) ← readClassPrimitive s
  let s := s.skip
  if s.atEnd then fail opening .classUnclosed
  if s.char != '-' || s.peekSkip == some ']' || s.peekSkip == some '-' then
    return (← lo.classItem, s)
  let s := s.bumpSkip
  if s.atEnd then fail opening .classUnclosed
  let (hi, s) ← readClassPrimitive s
  let l ← lo.rangeEnd
  let h ← hi.rangeEnd
  if l.char ≤ h.char then return (.range l h, s)
  else fail ⟨l.extent.start, h.extent.stop⟩ .classRangeInvalid

/-- The rest of a class whose enclosing classes are `outer`, the innermost first. Every step passes
over a character. -/
def readClassItems : Nat → Source → OpenClass → List OpenClass → Except Fault (Written × Source)
  | 0, _, o, _ => fail o.opening .classUnclosed
  | fuel + 1, s, o, outer =>
    let s := s.skip
    if s.atEnd then fail o.opening .classUnclosed
    else
      match s.char with
      | '[' =>
        match readPosixClass s with
        | some (item, s) => readClassItems fuel s (o.push item) outer
        | none => do
          let (inner, s) ← openClass s
          readClassItems fuel s inner (o :: outer)
      | ']' =>
        let body := o.body s
        let s := s.bump
        match outer with
        | [] => .ok (.bracket (s.since o.start) o.negated body, s)
        | o' :: outer =>
          readClassItems fuel s (o'.push (.bracket (s.since o.start) o.negated body)) outer
      | c =>
        let operation : Option ClassOp :=
          if s.peek = some c then
            match c with
            | '&' => some .intersection
            | '-' => some .difference
            | '~' => some .symmetricDifference
            | _ => none
          else none
        match operation with
        | some op =>
          let after := s.bump.bump
          readClassItems fuel after (o.operate op s after) outer
        | none => do
          let (item, s) ← readClassRange o.opening s
          readClassItems fuel s (o.push item) outer

/-- A bracketed class. -/
def readClass (s : Source) : Except Fault (Written × Source) := do
  let (o, after) ← openClass s
  readClassItems (s.rest.length + 1) after o []

end BuildGate.Pattern
