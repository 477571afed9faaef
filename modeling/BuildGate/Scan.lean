import BuildGate.Rule

/-!
# Scanning a text

`scan` applies rules to a text and lists the matches: rule by rule, and within a rule by offset. In
the mode of first matches each rule counts once.

**Results.**
* `scan_append`: the matches of two lists of rules are those of the first, then those of the second.
-/
namespace BuildGate

/-- How many matches a rule may contribute. -/
inductive ScanMode where
  | firstMatch
  | allOccurrences
  deriving Repr, DecidableEq

/-- A place where a rule applies, by its offset in bytes. -/
structure Match where
  message : String
  offset : Nat
  matched : String
  deriving Repr, DecidableEq

namespace Rule

/-- Where `p` matches in `text`: once, or as often as `mode` says. -/
def spans (p : Pattern) (mode : ScanMode) (text : List Char) : List Pattern.Span :=
  match mode with
  | .firstMatch => (p.find text).toList
  | .allOccurrences => p.findAll text

/-- The matches of `r` in `text`. -/
def hits (r : Rule) (mode : ScanMode) (text : String) : List Match :=
  (spans r.pattern mode text.toList).map fun s =>
    ⟨r.message, s.first.offset, String.ofList s.text⟩

end Rule

/-- The matches of `rules` in `text`, rule by rule. -/
def scan (text : String) (rules : List Rule) (mode : ScanMode) : List Match :=
  rules.flatMap fun r => r.hits mode text

theorem scan_append (text : String) (a b : List Rule) (mode : ScanMode) :
    scan text (a ++ b) mode = scan text a mode ++ scan text b mode := by
  simp [scan]

end BuildGate
