import BuildGate.Pattern.Reader
import BuildGate.Pattern.Basic
import BuildGate.Pattern.Shape

/-!
# From the written pattern to its meaning

A setting of flags holds up to the end of the group it stands in. Under `i` characters and classes
are closed under simple case folding before a class is denied; without `u` classes are sets of
bytes, and a pattern that could match a part of a character is refused, because texts are UTF-8.
-/
namespace BuildGate.Pattern

/-- The flags in force at a part of a pattern. -/
structure Flags where
  caseInsensitive : Bool := false
  multiLine : Bool := false
  dotMatchesNewLine : Bool := false
  swapGreed : Bool := false
  unicode : Bool := true
  crlf : Bool := false
  deriving Repr, DecidableEq

namespace Flags

/-- The flags after a setting. -/
def set (fl : Flags) (items : List FlagItem) : Flags :=
  let state (f : Flag) (old : Bool) : Bool := (flagState items f).getD old
  { caseInsensitive := state .caseInsensitive fl.caseInsensitive
    multiLine := state .multiLine fl.multiLine
    dotMatchesNewLine := state .dotMatchesNewLine fl.dotMatchesNewLine
    swapGreed := state .swapGreed fl.swapGreed
    unicode := state .unicode fl.unicode
    crlf := state .crlf fl.crlf }

/-- A set closed under case folding if the flags ask for it. -/
def fold (fl : Flags) (s : Charset) : Charset :=
  if fl.caseInsensitive then
    if fl.unicode then Unicode.foldCase s else Unicode.foldAsciiCase s
  else s

end Flags

open Source (fail)

/-! ## Classes -/

/-- A class of bytes, denied or not: denial takes it beyond ASCII, where it could match a part of
a character. -/
def byteClass (extent : Extent) (negated : Bool) (s : Charset) : Except Fault Charset :=
  if negated ∨ !s.isAscii then fail extent .invalidUtf8 else .ok s

/-- Folds a class and then denies it if it is denied. -/
def finishClass (fl : Flags) (extent : Extent) (negated : Bool) (s : Charset) :
    Except Fault Charset :=
  let s := fl.fold s
  if fl.unicode then .ok (if negated then s.compl else s) else byteClass extent negated s

def queryFault : Unicode.QueryFault → FaultKind
  | .noProperty => .propertyNotFound
  | .noValue => .propertyValueNotFound

/-- The set of `\p{...}` or of its denial. -/
def unicodeClass (fl : Flags) (extent : Extent) (query : Unicode.Query) (negated : Bool) :
    Except Fault Charset :=
  if !fl.unicode then fail extent .unicodeNotAllowed
  else
    match Unicode.classNamed query with
    | .ok s => finishClass fl extent negated s
    | .error e => fail extent (queryFault e)

def shortSet (unicode : Bool) : ShortClass → Charset
  | .digit => if unicode then Unicode.decimalDigits else ⟨[(0x30, 0x39)]⟩
  | .space => if unicode then Unicode.blanks else ⟨[(0x09, 0x0D), (0x20, 0x20)]⟩
  | .word => if unicode then Unicode.wordChars else Look.asciiWord

/-- The set of a class with a letter of its own, which folding leaves as it is. -/
def shortClass (fl : Flags) (extent : Extent) (cls : ShortClass) (negated : Bool) :
    Except Fault Charset :=
  let s := shortSet fl.unicode cls
  if fl.unicode then .ok (if negated then s.compl else s) else byteClass extent negated s

/-- A character in a class: among bytes only ASCII is one. -/
def classChar (fl : Flags) (l : Literal) : Except Fault Char :=
  if fl.unicode ∨ l.char.toNat < 0x80 then .ok l.char
  else if l.byte then fail l.extent .invalidUtf8
  else fail l.extent .unicodeNotAllowed

mutual

/-- The set of what stands in brackets, before the brackets' own folding and denial. -/
def classSet (fl : Flags) : ClassItem → Except Fault Charset
  | .empty => .ok .empty
  | .literal l => do return .singleton (← classChar fl l)
  | .range lo hi => do return .ofRange (← classChar fl lo) (← classChar fl hi)
  | .posix extent s negated => finishClass fl extent negated s
  | .unicode extent query negated => unicodeClass fl extent query negated
  | .short extent cls negated => shortClass fl extent cls negated
  | .bracket extent negated body => do finishClass fl extent negated (← classSet fl body)
  | .union _ items => do return .unions (← classSets fl items)
  | .operation _ op lhs rhs => do
    let l ← classSet fl lhs
    let r ← classSet fl rhs
    let l := fl.fold l
    let r := fl.fold r
    match op with
    | .intersection => return l.inter r
    | .difference => return l.diff r
    | .symmetricDifference => return l.symmDiff r

def classSets (fl : Flags) : List ClassItem → Except Fault (List Charset)
  | [] => .ok []
  | i :: rest => do return (← classSet fl i) :: (← classSets fl rest)

end

/-! ## Parts -/

/-- What a part of a pattern matches, and the shape automata are made from. -/
structure Part where
  pattern : Pattern
  shape : Shape
  deriving Repr

namespace Part

def empty : Part := ⟨.empty, .empty⟩

/-- A character of a set of code points. -/
def chars (s : Charset) : Part := ⟨.set s, .ofChars s⟩

/-- A character of a set among bytes, which is a set of ASCII characters. -/
def asciiChars (s : Charset) : Part := ⟨.set s, .ofBytes s.ranges⟩

/-- A character of a set under some flags. -/
def set (fl : Flags) (s : Charset) : Part := if fl.unicode then chars s else asciiChars s

def look (l : Look) : Part := ⟨.look l, .look l⟩

def capture (p : Part) : Part := ⟨.group p.pattern, .capture p.shape⟩

/-- A repetition. None at all is the empty pattern, one is the body, and a body that takes no byte is
needed at most once. -/
def repetition (min : Nat) (max : Option Nat) (greedy : Bool) (p : Part) : Part :=
  let shape := Shape.repOf min max greedy p.shape
  if max = some 0 then ⟨.empty, shape⟩
  else
    let (min, max) :=
      if p.shape.takesNone then (Nat.min min 1, some ((max.map (Nat.min · 1)).getD 1))
      else (min, max)
    if min = 1 ∧ max = some 1 then ⟨p.pattern, shape⟩ else ⟨.rep min max greedy p.pattern, shape⟩

/-- Patterns one after the other. -/
def chain (join : Pattern → Pattern → Pattern) : List Pattern → Pattern
  | [] => .empty
  | [p] => p
  | p :: rest => join p (chain join rest)

/-- Parts one after the other. -/
def seq (parts : List Part) : Part :=
  ⟨chain .seq (parts.map (·.pattern)), .seqOf (parts.map (·.shape))⟩

/-- Alternatives, the preferred one first. -/
def alt (branches : List Part) : Part :=
  ⟨chain .alt (branches.map (·.pattern)), .altOf (branches.map (·.shape))⟩

end Part

/-- A character outside classes. Two hexadecimal digits above ASCII are a byte without `u`. -/
def literalPart (fl : Flags) (l : Literal) : Except Fault Part :=
  if !fl.unicode ∧ l.byte ∧ 0x7F < l.char.toNat then fail l.extent .invalidUtf8
  else if fl.caseInsensitive ∧ (fl.unicode ∨ l.char.toNat < 0x80) then
    .ok (.set fl (fl.fold (.singleton l.char)))
  else .ok (.chars (.singleton l.char))

/-- The characters a dot stands for. -/
def dotSet (fl : Flags) : Charset :=
  if fl.dotMatchesNewLine then .full
  else if fl.crlf then (Charset.unions [.singleton '\n', .singleton '\r']).compl
  else (Charset.singleton '\n').compl

def lookUnder (fl : Flags) (l : WrittenLook) : Look :=
  let ascii := !fl.unicode
  match l with
  | .startLine =>
    if fl.multiLine then if fl.crlf then .lineStartCrlf else .lineStart else .textStart
  | .endLine => if fl.multiLine then if fl.crlf then .lineEndCrlf else .lineEnd else .textEnd
  | .startText => .textStart
  | .endText => .textEnd
  | .wordBoundary => .wordBoundary ascii
  | .notWordBoundary => .notWordBoundary ascii
  | .wordStart => .wordStart ascii
  | .wordEnd => .wordEnd ascii
  | .wordStartHalf => .wordStartHalf ascii
  | .wordEndHalf => .wordEndHalf ascii

mutual

/-- The meaning of a part, and the flags in force after it. -/
def meaning (fl : Flags) : Written → Except Fault (Part × Flags)
  | .empty => .ok (.empty, fl)
  | .flags items => .ok (.empty, fl.set items)
  | .literal l => do return (← literalPart fl l, fl)
  | .dot extent => if fl.unicode then .ok (.chars (dotSet fl), fl) else fail extent .invalidUtf8
  | .look l => .ok (.look (lookUnder fl l), fl)
  | .short extent cls negated => do return (.set fl (← shortClass fl extent cls negated), fl)
  | .unicode extent query negated => do
    return (.set fl (← unicodeClass fl extent query negated), fl)
  | .bracket extent negated body => do
    return (.set fl (← finishClass fl extent negated (← classSet fl body)), fl)
  | .repetition _ min max greedy body => do
    let (p, after) ← meaning fl body
    return (p.repetition min max (greedy != fl.swapGreed), after)
  | .group _ kind body => do
    match kind with
    | .capturing =>
      let (p, _) ← meaning fl body
      return (p.capture, fl)
    | .flagged items =>
      let (p, _) ← meaning (fl.set items) body
      return (p, fl)
  | .alternation _ branches => do
    let (ps, fl) ← meanings fl branches
    return (.alt ps, fl)
  | .concat _ parts => do
    let (ps, fl) ← meanings fl parts
    return (.seq ps, fl)

/-- The meanings of parts in turn, each under the flags that the one before left. -/
def meanings (fl : Flags) : List Written → Except Fault (List Part × Flags)
  | [] => .ok ([], fl)
  | w :: rest => do
    let (p, fl) ← meaning fl w
    let (ps, fl) ← meanings fl rest
    return (p :: ps, fl)

end

end BuildGate.Pattern
