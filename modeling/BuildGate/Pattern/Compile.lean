import BuildGate.Pattern.Meaning
import BuildGate.Pattern.Size

/-!
# Compiling a pattern

A text is a pattern when it is well formed and its automata keep within the limit.
-/
namespace BuildGate.Pattern

/-- The pattern that a text stands for. -/
def compile (text : String) : Except Reason Pattern := do
  let written ← (Written.read text).mapError .malformed
  let (p, _) ← (meaning {} written).mapError .malformed
  if areTooBig [p.shape] then .error .tooBig else return p.pattern

end BuildGate.Pattern
