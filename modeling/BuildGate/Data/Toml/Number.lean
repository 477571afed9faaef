import BuildGate.Data.Basic
import BuildGate.Data.Decimal
import BuildGate.Word

/-!
# TOML: numbers and dates

Integers have 64 bits and a sign; they may be written in hexadecimal, octal or binary digits.
Between two digits an underscore may stand. A date, a time or both are kept as a table with one
entry, under `dateKey`.
-/
namespace BuildGate.Data.Toml

/-- Whether underscores stand only between digits. -/
def isMarked : List Char → Bool
  | [] => false
  | [c] => c != '_'
  | '_' :: _ => false
  | _ :: '_' :: '_' :: _ => false
  | _ :: '_' :: rest => isMarked rest
  | _ :: rest => isMarked rest

/-- Digits of a kind with underscores between them. -/
def marked (p : Char → Bool) : Reading (List Char) := do
  let cs ← Reading.takeWhile fun c => p c || c == '_'
  if isMarked cs then return cs.filter p else Reading.refuse

/-- Digits of a decimal number, of which a zero stands alone. -/
def wholePart : Reading (List Char) := do
  match ← marked isDigit with
  | '0' :: _ :: _ => Reading.refuse
  | ds => return ds

/-- An integer, if it has 64 bits. -/
def bounded (i : Int) : Reading Scalar :=
  if -(Word.half : Int) ≤ i ∧ i < Word.half then pure (.signed i) else Reading.refuse

def based (base : Nat) : Reading Scalar := do
  bounded (numberOf base (← marked fun c => (digitOf base c).isSome))

def exponent : Reading Int := do
  let negative ← Decimal.sign
  let n : Int := numberOf 10 (← marked isDigit)
  return if negative then -n else n

/-- A number that is too great counts as infinite only below zero. -/
def finite (x : Double) : Reading Scalar :=
  if x = .infinite false then Reading.refuse else pure (.float x)

/-- A number after its sign. -/
def unsignedNumber (negative : Bool) : Reading Scalar := do
  if ← Reading.skip? "inf" then return .float (.infinite negative)
  if ← Reading.skip? "nan" then return .float .nan
  let whole ← wholePart
  let fraction ← if ← Reading.skip? "." then marked isDigit else pure []
  match ← Reading.peek with
  | some 'e' | some 'E' =>
    let _ ← Reading.next
    finite (Decimal.toDouble ⟨negative, whole, fraction, ← exponent⟩)
  | _ =>
    if !fraction.isEmpty then finite (Decimal.toDouble ⟨negative, whole, fraction, 0⟩)
    else
      let n : Int := numberOf 10 whole
      bounded (if negative then -n else n)

def number : Reading Scalar := do
  if ← Reading.skip? "0x" then based 16
  else if ← Reading.skip? "0o" then based 8
  else if ← Reading.skip? "0b" then based 2
  else do unsignedNumber (← Decimal.sign)

/-! ## Dates -/

/-- The key under which a date is kept. -/
def dateKey : String := "$__toml_private_datetime"

/-- A number of so many digits. -/
def fixed : Nat → Nat → Reading Nat
  | 0, n => pure n
  | k + 1, n => do fixed k (10 * n + numberOf 10 [← Reading.one isDigit])

/-- A number of so many digits in a range. -/
def within (digits lo hi : Nat) : Reading Nat := do
  let n ← fixed digits 0
  if lo ≤ n ∧ n ≤ hi then return n else Reading.refuse

def isLeap (year : Nat) : Bool := year % 4 = 0 && (year % 100 ≠ 0 || year % 400 = 0)

def daysIn (year month : Nat) : Nat :=
  if month = 2 then if isLeap year then 29 else 28
  else if month = 4 ∨ month = 6 ∨ month = 9 ∨ month = 11 then 30
  else 31

def day : Reading Unit := do
  let year ← fixed 4 0
  Reading.char '-'
  let month ← within 2 1 12
  Reading.char '-'
  let _ ← within 2 1 (daysIn year month)

def time : Reading Unit := do
  let _ ← within 2 0 23
  Reading.char ':'
  let _ ← within 2 0 59
  Reading.char ':'
  let _ ← within 2 0 60
  if ← Reading.skip? "." then do let _ ← Reading.takeSome isDigit

/-- The distance from universal time. -/
def offset : Reading Unit := do
  let c ← Reading.one fun c => c == 'Z' || c == 'z' || c == '+' || c == '-'
  if c = '+' ∨ c = '-' then
    let _ ← within 2 0 23
    Reading.char ':'
    let _ ← within 2 0 59

/-- A date with or without a time, or a time. -/
def moment : Reading Unit := do
  match ← Reading.optional day with
  | some () =>
    let clock : Reading Unit := do
      let _ ← Reading.one fun c => c == 'T' || c == 't' || c == ' '
      time
      let _ ← Reading.optional offset
    let _ ← Reading.optional clock
  | none => time

/-- A date as a table; its text is what was taken. -/
def date : Reading Plain := do
  let before ← Reading.remaining
  moment
  let text := before.take (before.length - (← Reading.remaining).length)
  return Plain.ofEntries [(dateKey, Plain.ofText (String.ofList text))]

end BuildGate.Data.Toml
