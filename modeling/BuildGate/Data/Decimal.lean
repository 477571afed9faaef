import BuildGate.Data.Reading
import BuildGate.Data.Double

/-!
# Decimals

A decimal is a sign, digits with a point somewhere, and perhaps an exponent. Formats differ in what
they let stand before and after the point; `Decimal.read?` reads the common form, in which either
side may be empty but not both.
-/
namespace BuildGate.Data

structure Decimal where
  negative : Bool
  /-- The digits before the point. -/
  whole : List Char
  /-- The digits after it. -/
  fraction : List Char
  exponent : Int
  deriving Repr, DecidableEq

namespace Decimal

/-- The nearest floating-point number. -/
def toDouble (d : Decimal) : Double :=
  .ofDecimal d.negative (numberOf 10 (d.whole ++ d.fraction)) (d.exponent - d.fraction.length)

/-- A sign, which may be left out. -/
def sign : Reading Bool := do
  match ← Reading.peek with
  | some '-' => let _ ← Reading.next; return true
  | some '+' => let _ ← Reading.next; return false
  | _ => return false

/-- What follows the letter of an exponent. -/
def exponentPart : Reading Int := do
  let negative ← sign
  let n : Int := numberOf 10 (← Reading.takeSome isDigit)
  return if negative then -n else n

/-- An exponent with its letter, which may be left out. -/
def optionalExponent : Reading Int := do
  match ← Reading.peek with
  | some c => if c = 'e' ∨ c = 'E' then do let _ ← Reading.next; exponentPart else pure 0
  | none => return 0

def reading : Reading Decimal := do
  let negative ← sign
  let whole ← Reading.takeWhile isDigit
  let fraction ← if ← Reading.skip? "." then Reading.takeWhile isDigit else pure []
  if whole.isEmpty ∧ fraction.isEmpty then Reading.refuse
  return ⟨negative, whole, fraction, ← optionalExponent⟩

/-- Reads the common form. -/
def read? (s : String) : Option Decimal := Reading.whole reading s

end Decimal

end BuildGate.Data
