import BuildGate.CommandLine.Basic

/-!
# Colours

How text is painted on a console, and when. The program never writes to a terminal that it asks for
its abilities: colours appear where the user or the environment demands them.
-/
namespace BuildGate

/-- A way to paint text. -/
inductive Ink where
  | bold
  | dimmed
  | italic
  | underlined
  | red
  | green
  | yellow
  | blue
  | purple
  | cyan
  deriving Repr, DecidableEq

namespace Ink

/-- The number that turns the ink on. -/
def code : Ink → Nat
  | bold => 1
  | dimmed => 2
  | italic => 3
  | underlined => 4
  | red => 31
  | green => 32
  | yellow => 33
  | blue => 34
  | purple => 35
  | cyan => 36

/-- The number that turns the ink off again: a colour gives way to the usual colour, and everything
else ends all painting. -/
def offCode (i : Ink) : Nat := if 30 ≤ i.code then 39 else 0

/-- The sequence that sets a number. -/
def sequence (n : Nat) : String := "\x1b[" ++ toString n ++ "m"

/-- Paints a text. -/
def paint (i : Ink) (s : String) : String := sequence i.code ++ s ++ sequence i.offCode

/-- Paints a text and ends all painting. -/
def stroke (i : Ink) (s : String) : String := sequence i.code ++ s ++ sequence 0

end Ink

namespace Console

/-- Whether variables demand colours. One of them may take it back. -/
def isForced (env : Environment) : Bool :=
  match env.get? "FORCE_COLOR" with
  | some value =>
    if value = "false" then false
    else
      match CommandLine.readNumber? value with
      | some n => n ≠ 0
      | none => true
  | none =>
    match env.get? "CLICOLOR_FORCE" with
    | some value => value ≠ "0"
    | none => false

/-- Whether output may be in colour. -/
def mayColor (choice : ColorChoice) (env : Environment) : Bool :=
  match choice with
  | .always => true
  | .never => false
  | .auto => isForced env

/-- Paints a text if colours are wanted. -/
def paintIf (color : Bool) (i : Ink) (s : String) : String := if color then i.paint s else s

/-- Whether log lines are painted: unless a variable forbids it. -/
def paintsLog (env : Environment) : Bool := (env.nonempty? "NO_COLOR").isNone

end Console

end BuildGate
