import BuildGate.Console
import BuildGate.Log.Filter

/-!
# Log lines

An entry on one line: its level, the spans in which it was made, its message and its fields. Painted
or plain, the line reads the same.
-/
namespace BuildGate.Log

/-- A level in five columns. -/
def levelText : LogLevel → String
  | .trace => "TRACE"
  | .debug => "DEBUG"
  | .info => " INFO"
  | .warn => " WARN"
  | .error => "ERROR"

def levelInk : LogLevel → Ink
  | .trace => .purple
  | .debug => .blue
  | .info => .green
  | .warn => .yellow
  | .error => .red

/-- Paints a part of a line if the line is painted. -/
def touch (painted : Bool) (i : Ink) (s : String) : String := if painted then i.stroke s else s

def fieldText (painted : Bool) (f : LogField) : String :=
  touch painted .italic f.1 ++ touch painted .dimmed "=" ++ f.2

/-- A span with its fields between braces, and a colon. -/
def spanText (painted : Bool) (s : LogSpan) : String :=
  touch painted .bold s.name ++
  (if s.fields.isEmpty then ""
    else
      touch painted .bold "\x7b" ++ " ".intercalate (s.fields.map (fieldText painted)) ++
        touch painted .bold "\x7d") ++
  touch painted .dimmed ":"

/-- The line of `e`, of which `spans` are shown. -/
def line (painted : Bool) (spans : List LogSpan) (e : LogEntry) : String :=
  " ".intercalate
    (touch painted (levelInk e.level) (levelText e.level) ::
      (if spans.isEmpty then [] else [String.join (spans.map (spanText painted))]) ++
      e.message :: e.fields.map (fieldText painted))

namespace Filter

/-- The line of `e` if `f` shows it. -/
def line? (f : Filter) (painted : Bool) (e : LogEntry) : Option String :=
  if f.shows e then some (line painted (f.shownSpans [] e.spans) e) else none

end Filter

end BuildGate.Log
