import BuildGate.CommandLine.Arguments
import BuildGate.Log
import BuildGate.Pattern.Compile
import BuildGate.Unicode.Property

/-!
# Which entries are shown

A filter is a list of directives. A directive sets a threshold for the sources whose names begin in
a given way, or for what happens inside spans of a given name or with given values. Of the
directives for sources the most specific one decides; one for spans can only show more.
-/
namespace BuildGate

/-- The least level that is shown, or nothing to show nothing. -/
abbrev Threshold := Option LogLevel

namespace Threshold

def admits : Threshold → LogLevel → Bool
  | none, _ => false
  | some least, l => least.rank ≤ l.rank

/-- The threshold that shows more. -/
def lower : Threshold → Threshold → Threshold
  | none, t | t, none => t
  | some a, some b => some (if a.rank ≤ b.rank then a else b)

/-- The levels by name. -/
def names : List (String × Threshold) :=
  [("off", none), ("error", some .error), ("warn", some .warn), ("info", some .info),
    ("debug", some .debug), ("trace", some .trace)]

/-- The threshold that a number or a name stands for; capitals do not matter. -/
def ofText? (s : String) : Option Threshold :=
  let byName := if s = "" then some (some LogLevel.error) else names.lookup s.toLower
  match CommandLine.readNumber? s with
  | some n => ((names.map (·.2))[n]?).or byName
  | none => byName

end Threshold

namespace Log

/-- What the value of a field must be. -/
inductive ValueTest where
  | exactly (text : String)
  /-- The text must end where a pattern matches it. -/
  | pattern (p : Pattern)
  deriving Repr, DecidableEq

/-- A field that a span must have, and perhaps its value. -/
structure FieldTest where
  name : String
  value : Option ValueTest := none
  deriving Repr, DecidableEq

/-- A threshold and what it is for. -/
structure Directive where
  target : Option String := none
  span : Option String := none
  fields : List FieldTest := []
  threshold : Threshold := some .trace
  deriving Repr, DecidableEq

namespace ValueTest

def holds (t : ValueTest) (text : String) : Bool :=
  match t with
  | exactly s => s == text
  | pattern p => (p.find text.toList).isSome

/-- A value is a truth value, a number or else a pattern. -/
def read? (s : String) : Option ValueTest :=
  if s = "true" ∨ s = "false" then some (exactly s)
  else
    match CommandLine.readNumber? s with
    | some n => some (exactly (toString n))
    | none =>
      match Pattern.compile s, Pattern.compile ("(?:" ++ s ++ ")\\z") with
      | .ok _, .ok p => some (pattern p)
      | _, _ => none

end ValueTest

namespace Directive

/-- Whether the directive is for spans. -/
def isForSpans (d : Directive) : Bool := d.span.isSome || !d.fields.isEmpty

def hasValues (d : Directive) : Bool := d.fields.any (·.value.isSome)

/-- Whether the directive is for sources: it names no span and no value. -/
def isForSources (d : Directive) : Bool := d.span.isNone && !d.hasValues

def aimsAt (d : Directive) (source : LogSource) : Bool :=
  d.target.all fun t => t.toList.isPrefixOf source.target.toList

/-- Whether `d` is for the span `s`, by its name and the names of its fields. -/
def covers (d : Directive) (s : LogSpan) : Bool :=
  d.aimsAt s.source && d.span.all (· == s.name) &&
    d.fields.all fun f => (s.fields.lookup f.name).isSome

/-- Whether the values of `s` are those that `d` asks for. -/
def accepts (d : Directive) (s : LogSpan) : Bool :=
  d.covers s &&
    d.fields.all fun f => f.value.all fun v => (s.fields.lookup f.name).any v.holds

/-- What makes one directive for sources more specific than another one. -/
def precedence (d : Directive) : Nat × Nat :=
  (match d.target with
    | some t => t.utf8ByteSize + 1
    | none => 0,
    d.fields.length)

/-! ## Reading -/

def isNameStart (c : Char) : Bool :=
  c == '-' || c == ':' || c == '_' || Unicode.alphabetic.mem c || (Unicode.category "N").mem c

def fieldTest? (s : List Char) : Option FieldTest :=
  if s.isEmpty then none
  else
    let name := String.ofList (s.takeWhile (· != '='))
    match s.dropWhile (· != '=') with
    | [] => some { name }
    | _ :: rest =>
      (ValueTest.read? (String.ofList (rest.takeWhile (· != '=')))).map fun v =>
        { name, value := some v }

/-- The threshold that stands after an equals sign; nothing stands for all levels. -/
def thresholdAfter (s : List Char) : Option Threshold :=
  if s.isEmpty then some (some .trace) else Threshold.ofText? (String.ofList s)

/-- The part of a text from one place to another. -/
def slice (cs : List Char) (start stop : Nat) : List Char := (cs.drop start).take (stop - start)

/-- Reads what follows a span: perhaps an equals sign and a threshold. `place` is one in `shape`,
the text without the blanks around it, but what stands there is taken from `whole`. -/
def readEnd (whole shape : List Char) (d : Directive) (place : Nat) : Option Directive :=
  match shape.drop place with
  | [] => some { d with threshold := some .trace }
  | '=' :: _ => (thresholdAfter (whole.drop (place + 1))).map fun t => { d with threshold := t }
  | _ => none

/-- Reads a span that begins at `place` of `shape`. -/
def readSpan (whole shape : List Char) (d : Directive) (place : Nat) : Option Directive :=
  let stop := place + ((shape.drop place).takeWhile fun c => c != ']' && c != '\x7b').length
  let name := String.ofList (slice whole place stop)
  match shape.drop stop with
  | ']' :: _ => readEnd whole shape { d with span := some name } (stop + 1)
  | '\x7b' :: rest =>
    let close := stop + 1 + (rest.takeWhile (· != '\x7d')).length
    match shape.drop close with
    | '\x7d' :: ']' :: _ => do
      let f ← fieldTest? (slice whole (stop + 1) close)
      readEnd whole shape
        { d with span := if name = "" then none else some name, fields := [f] } (close + 2)
    | _ => none
  | _ => none

/-- Reads a directive. -/
def read? (text : String) : Option Directive :=
  let whole := text.toList
  let shape := (Unicode.trim text).toList
  match shape with
  | [] => none
  | '[' :: _ => readSpan whole shape {} 1
  | c :: _ =>
    if isNameStart c then
      let stop := (shape.takeWhile fun c => c != '=' && c != '[').length
      let target := String.ofList (slice whole 0 stop)
      match shape.drop stop with
      | '=' :: _ =>
        (thresholdAfter (whole.drop (stop + 1))).map fun t => { target := some target, threshold := t }
      | '[' :: _ => readSpan whole shape { target := some target } (stop + 1)
      | _ =>
        match Threshold.ofText? text with
        | some t => some { threshold := t }
        | none => some { target := some text }
    else none

end Directive

/-- A filter. -/
structure Filter where
  directives : List Directive := []
  /-- Whether spans are opened whatever the directives are, because they are written down elsewhere
  as well. -/
  opensAll : Bool := false
  deriving Repr, DecidableEq

namespace Filter

/-- The filter that shows a level and what matters more. -/
def ofLevel (l : LogLevel) : Filter := { directives := [{ threshold := some l }] }

/-- A text cut at every comma, without the pieces that are empty. -/
def pieces (s : String) : List String :=
  ((s.splitOn ",").filter (· ≠ ""))

/-- Reads a filter; one directive that is wrong spoils it. -/
def read? (s : String) : Option Filter := ((pieces s).mapM Directive.read?).map fun ds => { directives := ds }

/-- Of some directives the most specific one; of equals the last one. -/
def mostSpecific (ds : List Directive) : Option Directive :=
  ds.foldl
    (fun best d =>
      match best with
      | none => some d
      | some b =>
        let (t, n) := d.precedence
        let (t', n') := b.precedence
        if t' < t ∨ (t' = t ∧ n' ≤ n) then some d else some b)
    none

/-- The threshold for a source; an entry must have the fields that a directive names. -/
def thresholdFor (f : Filter) (source : LogSource) (fields : Option (List String)) : Threshold :=
  match
    mostSpecific (f.directives.filter fun d =>
      d.isForSources && d.aimsAt source &&
        fields.all fun names => d.fields.all fun t => names.contains t.name) with
  | some d => d.threshold
  | none => none

/-- The threshold that holds inside a span by the directives for spans. -/
def inside (f : Filter) (s : LogSpan) : Threshold :=
  ((f.directives.filter fun d => d.isForSpans && d.accepts s).map (·.threshold)).foldl
    Threshold.lower none

/-- The level that spans have. -/
def spanLevel : LogLevel := .info

/-- The least level that anything can have to be shown. A span below it is not opened at all. -/
def floor (f : Filter) : Threshold :=
  if f.opensAll || f.directives.any fun d => d.isForSpans && d.hasValues then some .trace
  else (f.directives.map (·.threshold)).foldl Threshold.lower none

/-- Whether a span is shown that stands inside other spans. -/
def showsSpan (f : Filter) (outer : List LogSpan) (s : LogSpan) : Bool :=
  f.floor.admits spanLevel &&
    ((f.directives.any fun d => d.isForSpans && d.covers s) ||
      outer.any (fun o => (f.inside o).admits spanLevel) ||
      (f.thresholdFor s.source none).admits spanLevel)

/-- The spans that are shown, the outermost first. -/
def shownSpans (f : Filter) (outer : List LogSpan) : List LogSpan → List LogSpan
  | [] => []
  | s :: rest =>
    if f.showsSpan outer s then s :: f.shownSpans (outer ++ [s]) rest else f.shownSpans outer rest

/-- Whether an entry is shown. -/
def shows (f : Filter) (e : LogEntry) : Bool :=
  (f.thresholdFor e.source (some ("message" :: e.fields.map (·.1)))).admits e.level ||
    (f.shownSpans [] e.spans).any fun s => (f.inside s).admits e.level

end Filter

end Log

end BuildGate
