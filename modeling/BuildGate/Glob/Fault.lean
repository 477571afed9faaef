/-!
# What is wrong with a file pattern

Patterns that select files and patterns that take files away are read by two grammars, and each has
its own faults. Patterns that take files away can also fail together, when they are compiled.
-/
namespace BuildGate.Glob

/-- Faults of a pattern that takes files away. -/
inductive ExcludeFault where
  | unclosedClass
  | invalidRange (lo hi : Char)
  | unopenedAlternates
  | unclosedAlternates
  | danglingEscape
  deriving Repr, DecidableEq

/-- Faults of the expressions that patterns are compiled to. -/
inductive ExpressionFault where
  /-- The expression with this index nests too deep. -/
  | tooDeep (index : Nat)
  /-- The automata of the expressions are too big together. -/
  | tooBig
  deriving Repr, DecidableEq

/-- Faults of a pattern that selects files. -/
inductive IncludeFault where
  | wildcards
  | recursiveWildcards
  | invalidRange
  deriving Repr, DecidableEq

def ExcludeFault.message : ExcludeFault → String
  | unclosedClass => "unclosed character class; missing ']'"
  | invalidRange lo hi => "invalid range; '" ++ toString lo ++ "' > '" ++ toString hi ++ "'"
  | unopenedAlternates =>
    "unopened alternate group; missing '\x7b' (maybe escape '\x7d' with '[\x7d]'?)"
  | unclosedAlternates =>
    "unclosed alternate group; missing '\x7d' (maybe escape '\x7b' with '[\x7b]'?)"
  | danglingEscape => "dangling '\\'"

def ExpressionFault.message : ExpressionFault → String
  | tooDeep index => "error parsing pattern " ++ toString index
  | tooBig => "error building NFA"

def IncludeFault.message : IncludeFault → String
  | wildcards => "wildcards are either regular `*` or recursive `**`"
  | recursiveWildcards => "recursive wildcards must form a single path component"
  | invalidRange => "invalid range pattern"

/-- Why a file pattern is refused. -/
inductive Reason where
  /-- A fault of a pattern that takes files away, given without its mark. -/
  | exclude (glob : String) (fault : ExcludeFault)
  /-- A fault of the expressions of patterns that take files away, given with the expression if it is
  one by itself. -/
  | expression (alone : Option String) (fault : ExpressionFault)
  /-- A fault of a pattern that selects files, at a place of the joined pattern. -/
  | «include» (position : Nat) (fault : IncludeFault)
  /-- A reason that is given in words. -/
  | words (text : String)
  deriving Repr, DecidableEq

/-- The reason in words, without the place. -/
def Reason.cause : Reason → String
  | exclude glob fault => "error parsing glob '" ++ glob ++ "': " ++ fault.message
  | expression (some text) fault => "error parsing glob '" ++ text ++ "': " ++ fault.message
  | expression none fault => fault.message
  | «include» _ fault => fault.message
  | words text => text

def Reason.message (r : Reason) : String :=
  match r with
  | «include» position _ =>
    "Pattern syntax error near position " ++ toString position ++ ": " ++ r.cause
  | _ => r.cause

end BuildGate.Glob
