/-!
# What is wrong with a pattern

A `Fault` says why a text is no pattern and which part of the text is to blame. A pattern can also be
well formed and too big, which has no place in the text.
-/
namespace BuildGate.Pattern

/-- A part of a pattern, in characters from its start. -/
structure Extent where
  start : Nat
  stop : Nat
  deriving Repr, DecidableEq, Inhabited

inductive FaultKind where
  | classEscapeInvalid
  | classRangeInvalid
  | classRangeLiteral
  | classUnclosed
  | decimalInvalid
  | escapeHexEmpty
  | escapeHexInvalid
  | escapeHexInvalidDigit
  | escapeUnexpectedEnd
  | escapeUnrecognized
  | flagDanglingNegation
  | flagDuplicate
  | flagRepeatedNegation
  | flagUnexpectedEnd
  | flagUnrecognized
  | groupNameDuplicate
  | groupNameEmpty
  | groupNameInvalid
  | groupNameUnexpectedEnd
  | groupUnclosed
  | groupUnopened
  | nestLimitExceeded
  | countInvalid
  | countDecimalEmpty
  | countUnclosed
  | repetitionMissing
  | specialBoundaryUnclosed
  | specialBoundaryUnrecognized
  | specialBoundaryUnexpectedEnd
  | unicodeClassInvalid
  | unsupportedBackreference
  | unsupportedLookAround
  | unicodeNotAllowed
  | invalidUtf8
  | propertyNotFound
  | propertyValueNotFound
  deriving Repr, DecidableEq

/-- How deep groups, repetitions, classes and their like may nest. -/
def nestLimit : Nat := 250

def FaultKind.message : FaultKind → String
  | classEscapeInvalid => "invalid escape sequence found in character class"
  | classRangeInvalid => "invalid character class range, the start must be <= the end"
  | classRangeLiteral => "invalid range boundary, must be a literal"
  | classUnclosed => "unclosed character class"
  | decimalInvalid => "decimal literal invalid"
  | escapeHexEmpty => "hexadecimal literal empty"
  | escapeHexInvalid => "hexadecimal literal is not a Unicode scalar value"
  | escapeHexInvalidDigit => "invalid hexadecimal digit"
  | escapeUnexpectedEnd => "incomplete escape sequence, reached end of pattern prematurely"
  | escapeUnrecognized => "unrecognized escape sequence"
  | flagDanglingNegation => "dangling flag negation operator"
  | flagDuplicate => "duplicate flag"
  | flagRepeatedNegation => "flag negation operator repeated"
  | flagUnexpectedEnd => "expected flag but got end of regex"
  | flagUnrecognized => "unrecognized flag"
  | groupNameDuplicate => "duplicate capture group name"
  | groupNameEmpty => "empty capture group name"
  | groupNameInvalid => "invalid capture group character"
  | groupNameUnexpectedEnd => "unclosed capture group name"
  | groupUnclosed => "unclosed group"
  | groupUnopened => "unopened group"
  | nestLimitExceeded =>
    "exceed the maximum number of nested parentheses/brackets (" ++ toString nestLimit ++ ")"
  | countInvalid => "invalid repetition count range, the start must be <= the end"
  | countDecimalEmpty => "repetition quantifier expects a valid decimal"
  | countUnclosed => "unclosed counted repetition"
  | repetitionMissing => "repetition operator missing expression"
  | specialBoundaryUnclosed =>
    "special word boundary assertion is either unclosed or contains an invalid character"
  | specialBoundaryUnrecognized =>
    "unrecognized special word boundary assertion, valid choices are: start, end, start-half or " ++
     "end-half"
  | specialBoundaryUnexpectedEnd =>
    "found either the beginning of a special word boundary or a bounded repetition on a \\b with " ++
     "an opening brace, but no closing brace"
  | unicodeClassInvalid => "invalid Unicode character class"
  | unsupportedBackreference => "backreferences are not supported"
  | unsupportedLookAround =>
    "look-around, including look-ahead and look-behind, is not supported"
  | unicodeNotAllowed => "Unicode not allowed here"
  | invalidUtf8 => "pattern can match invalid UTF-8"
  | propertyNotFound => "Unicode property not found"
  | propertyValueNotFound => "Unicode property value not found"

/-- A fault, the part of the text to blame and, for a repeated thing, where it stood first. -/
structure Fault where
  kind : FaultKind
  extent : Extent
  first : Option Extent := none
  deriving Repr, DecidableEq

/-- Why a text is no pattern. -/
inductive Reason where
  | malformed (fault : Fault)
  | tooBig
  deriving Repr, DecidableEq

/-- The memory that a compiled pattern may take, in bytes. -/
def sizeLimit : Nat := 10 * 1024 * 1024

/-! ## The message with the pattern and its marks -/

/-- The lines of a text and the position each starts at. A last line without characters counts only
for its marks. -/
def numbered (cs : List Char) : List (Nat × List Char) :=
  go cs 0 0 []
where
  go : List Char → Nat → Nat → List Char → List (Nat × List Char)
    | [], start, _, line => [(start, line.reverse)]
    | c :: rest, start, pos, line =>
      if c = '\n' then (start, line.reverse) :: go rest (pos + 1) (pos + 1) []
      else go rest start (pos + 1) (c :: line)

/-- The marks under a line that starts at `start`. -/
def marks (start : Nat) (extents : List Extent) : List Char :=
  extents.foldl (fun line e =>
    line ++ List.replicate (e.start - start - line.length) ' ' ++
      List.replicate (max 1 (e.stop - e.start)) '^') []

def padLeft (width : Nat) (s : String) : String :=
  String.ofList (List.replicate (width - s.length) ' ') ++ s

/-- The pattern line by line, with numbers when there are several, and the marks of a fault. -/
def annotate (pattern : List Char) (f : Fault) : String :=
  let lines := numbered pattern
  let shown :=
    if lines.length > 1 ∧ (lines.getLast?.map (·.2)) = some [] then lines.dropLast else lines
  let extents := match f.first with
    | some e => if e.start ≤ f.extent.start then [e, f.extent] else [f.extent, e]
    | none => [f.extent]
  let digits := if lines.length ≤ 1 then 0 else (toString lines.length).length
  let row (i : Nat) (start : Nat) (line : List Char) : String :=
    let head := if digits = 0 then "    " else padLeft digits (toString (i + 1)) ++ ": "
    let stop := start + line.length
    let here := extents.filter fun e =>
      start ≤ e.start && e.start ≤ stop && e.stop ≤ stop + 1
    let under :=
      if here.isEmpty then ""
      else String.ofList (List.replicate (if digits = 0 then 4 else digits + 2) ' ') ++
        String.ofList (marks start here) ++ "\n"
    head ++ String.ofList line ++ "\n" ++ under
  String.join ((shown.zipIdx).map fun (l, i) => row i l.1 l.2)

/-- The message of a fault of a pattern, with the pattern and the marks. -/
def Fault.render (f : Fault) (pattern : String) : String :=
  let cs := pattern.toList
  if cs.contains '\n' then
    let rule := String.ofList (List.replicate 79 '~')
    "regex parse error:\n" ++ rule ++ "\n" ++ annotate cs f ++ rule ++ "\nerror: " ++ f.kind.message
  else "regex parse error:\n" ++ annotate cs f ++ "error: " ++ f.kind.message

def Reason.render (r : Reason) (pattern : String) : String :=
  match r with
  | .malformed f => f.render pattern
  | .tooBig => "Compiled regex exceeds size limit of " ++ toString sizeLimit ++ " bytes."

end BuildGate.Pattern
