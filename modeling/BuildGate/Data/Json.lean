import BuildGate.Data.Basic
import BuildGate.Data.Decimal
import BuildGate.Word

/-!
# JSON

Reads a JSON text whose value is an object. Integers that fit 64 bits stay integers, others and
numbers with a point or an exponent become floating-point numbers; zero with a sign is one of those.
Of entries under one key the last one counts. Values may be nested 127 deep.

A floating-point number is computed as its digits, rounded, times or over a power of ten, rounded;
digits that do not fit 64 bits do not count.
-/
namespace BuildGate.Data.Json

def isBlank (c : Char) : Bool := c == ' ' || c == '\t' || c == '\n' || c == '\r'

def blanks : Reading Unit := Reading.skipWhile isBlank

/-! ## Numbers -/

/-- Takes digits into an integer as long as it stays below the bound, and counts the others. -/
def accumulate (start : Nat) : List Char → Nat × Nat
  | [] => (start, 0)
  | c :: rest =>
    let n := 10 * start + (digitOf 10 c).getD 0
    if n < Word.bound then accumulate n rest else (start, rest.length + 1)

/-- A finite number times or over a power of ten, or nothing if that is too great. -/
def scale (x : Double) (exponent : Int) : Option Double :=
  match x, Double.ofDecimal false 1 (exponent.natAbs : Int) with
  | .finite s m e, .finite _ m' e' =>
    let (p, q) := Double.power 2 (if 0 ≤ exponent then e + e' else e - e')
    let r :=
      if 0 ≤ exponent then Double.ofQuotient s (m * m' * p) q
      else Double.ofQuotient s (m * p) (m' * q)
    match r with
    | .infinite _ => none
    | r => some r
  | _, _ => none

/-- The greatest power of ten that a floating-point number reaches. -/
def greatestPower : Nat := 308

/-- An integer times a power of ten. -/
def scaledInteger (negative : Bool) (digits : Nat) (exponent : Int) : Option Double :=
  let x := Double.ofDecimal negative digits 0
  if exponent.natAbs ≤ greatestPower then scale x exponent
  else if digits = 0 then some x
  else if 0 ≤ exponent then none
  else
    let y := scale x (-greatestPower)
    let rest := exponent + greatestPower
    if rest.natAbs ≤ greatestPower then y.bind (scale · rest)
    else some (.finite negative 0 Double.leastExponent)

/-- The digits before the point: a zero stands alone. -/
def wholePart : Reading (List Char) := do
  match ← Reading.takeSome isDigit with
  | '0' :: _ :: _ => Reading.refuse
  | ds => return ds

def number : Reading Scalar := do
  let negative ← Reading.skip? "-"
  let whole ← wholePart
  let fraction ← if ← Reading.skip? "." then Reading.takeSome isDigit else pure []
  let marked ← match ← Reading.peek with
    | some c => pure (c == 'e' || c == 'E')
    | none => pure false
  let exponent ← Decimal.optionalExponent
  let (digits, left) := accumulate 0 whole
  if fraction.isEmpty ∧ !marked ∧ left = 0 then
    if !negative then return .unsigned digits
    if 0 < digits ∧ digits ≤ Word.half then return .signed (-(digits : Int))
  let (digits, unused) := accumulate digits fraction
  let exponent := exponent + left - (fraction.length - unused : Nat)
  match scaledInteger negative digits exponent with
  | some x => return .float x
  | none => Reading.refuse

/-! ## Texts -/

/-- Four hexadecimal digits. -/
def unit : Reading Nat := do
  let a ← Reading.one isHex
  let b ← Reading.one isHex
  let c ← Reading.one isHex
  let d ← Reading.one isHex
  return numberOf 16 [a, b, c, d]

/-- The character of one unit, or of two that make a pair. -/
def escapedUnit : Reading Char := do
  let hi ← unit
  if 0xD800 ≤ hi ∧ hi < 0xDC00 then
    Reading.text "\\u"
    let lo ← unit
    if 0xDC00 ≤ lo ∧ lo < 0xE000 then
      return Char.ofNat (0x10000 + (hi - 0xD800) * 0x400 + (lo - 0xDC00))
    else Reading.refuse
  else (scalarOf hi : Option Char)

/-- What follows a backslash. -/
def escaped : Reading Char := do
  match ← Reading.next with
  | '"' => return '"'
  | '\\' => return '\\'
  | '/' => return '/'
  | 'b' => return '\x08'
  | 'f' => return '\x0c'
  | 'n' => return '\n'
  | 'r' => return '\r'
  | 't' => return '\t'
  | 'u' => escapedUnit
  | _ => Reading.refuse

/-- A text after its opening quote. The fuel bounds its characters. -/
def textTail : Nat → Reading (List Char)
  | 0 => Reading.refuse
  | fuel + 1 => do
    match ← Reading.next with
    | '"' => return []
    | '\\' => return (← escaped) :: (← textTail fuel)
    | c => if c.toNat < 0x20 then Reading.refuse else return c :: (← textTail fuel)

def quoted (fuel : Nat) : Reading String := do
  Reading.char '"'
  return String.ofList (← textTail fuel)

/-! ## Values -/

/-- The number of values that may stand in each other. -/
def nestLimit : Nat := 127

mutual

/-- A value, with blanks before it. The fuel bounds its parts, and `depth` how deep they nest. -/
def value (depth : Nat) : Nat → Reading Plain
  | 0 => Reading.refuse
  | fuel + 1 => do
    blanks
    match ← Reading.peek with
    | some '"' => return Plain.ofText (← quoted fuel)
    | some '[' =>
      let _ ← Reading.next
      if depth = 0 then Reading.refuse
      blanks
      if ← Reading.skip? "]" then return Plain.ofList []
      return Plain.ofList (← items (depth - 1) fuel)
    | some '\x7b' =>
      let _ ← Reading.next
      if depth = 0 then Reading.refuse
      blanks
      if ← Reading.skip? "\x7d" then return Plain.ofEntries []
      return Plain.ofEntries (← members (depth - 1) fuel)
    | some 't' => Reading.text "true"; return Plain.ofBool true
    | some 'f' => Reading.text "false"; return Plain.ofBool false
    | some 'n' => Reading.text "null"; return Plain.null
    | _ => return .scalar () (← number)

/-- The values of a list up to its bracket. -/
def items (depth : Nat) : Nat → Reading (List Plain)
  | 0 => Reading.refuse
  | fuel + 1 => do
    let d ← value depth fuel
    blanks
    if ← Reading.skip? "," then return d :: (← items depth fuel)
    Reading.char ']'
    return [d]

/-- The entries of an object up to its brace. -/
def members (depth : Nat) : Nat → Reading (List (String × Plain))
  | 0 => Reading.refuse
  | fuel + 1 => do
    blanks
    let key ← quoted fuel
    blanks
    Reading.char ':'
    let d ← value depth fuel
    blanks
    if ← Reading.skip? "," then return (key, d) :: (← members depth fuel)
    Reading.char '\x7d'
    return [(key, d)]

end

def document (fuel : Nat) : Reading Plain := do
  let d ← value nestLimit fuel
  blanks
  return d

/-- The object that a text holds. -/
def read? (text : String) : Option Plain :=
  match Reading.whole (document (2 * text.length + 2)) text with
  | some (.table t entries) => some (.table t entries)
  | _ => none

end BuildGate.Data.Json
