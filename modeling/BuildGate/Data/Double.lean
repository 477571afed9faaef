/-!
# Binary floating-point numbers

A `Double` is a number of 53 significant bits, an infinity, or no number. `ofDecimal` rounds a
decimal to the nearest one, a tie to an even significand; `text` writes the fewest digits that read
back, without an exponent. All arithmetic is exact.
-/
namespace BuildGate.Data

/-- A floating-point number; a finite one is its significand times a power of two. -/
inductive Double where
  | finite (negative : Bool) (significand : Nat) (exponent : Int)
  | infinite (negative : Bool)
  | nan
  deriving Repr, DecidableEq

namespace Double

/-- The integer nearest to a quotient, the even one of two. -/
def roundQuotient (num den : Nat) : Nat :=
  let q := num / den
  let r := num % den
  if 2 * r < den then q else if den < 2 * r then q + 1 else if q % 2 = 0 then q else q + 1

/-- A power that may be negative, as a fraction. -/
def power (base : Nat) (e : Int) : Nat × Nat :=
  if 0 ≤ e then (base.pow e.toNat, 1) else (1, base.pow (-e).toNat)

/-- The significand of a quotient for an exponent. -/
def scaled (num den : Nat) (e : Int) : Nat :=
  let (p, q) := power 2 e
  roundQuotient (num * q) (den * p)

/-- The least significand of a number that is not among the smallest: it has 53 bits. -/
def leastNormal : Nat := 0x10000000000000

/-- The exponent of the smallest numbers. -/
def leastExponent : Int := -1074

/-- The exponent of the largest numbers. -/
def greatestExponent : Int := 971

/-- The number nearest to a quotient. -/
def ofQuotient (negative : Bool) (num den : Nat) : Double :=
  if num = 0 then .finite negative 0 leastExponent
  else
    let e := max ((Nat.log2 num : Int) - Nat.log2 den - 53) leastExponent
    let e := if 2 * leastNormal ≤ scaled num den e then e + 1 else e
    let m := scaled num den e
    let (m, e) := if m = 2 * leastNormal then (leastNormal, e + 1) else (m, e)
    if greatestExponent < e then .infinite negative else .finite negative m e

/-- The number nearest to a decimal. What lies far outside the range is not computed. -/
def ofDecimal (negative : Bool) (digits : Nat) (exponent : Int) : Double :=
  let magnitude := (toString digits).length + exponent
  if digits = 0 ∨ magnitude < -330 then .finite negative 0 leastExponent
  else if 310 < magnitude then .infinite negative
  else
    let (p, q) := power 10 exponent
    ofQuotient negative (digits * p) q

/-- The digits of a positive number on a decimal grid, if a point of the grid reads back. Numbers
are counted in quarters of the last bit. -/
def digitsOn (m : Nat) (e : Int) (grid : Int) : Option Nat :=
  let (a, b) := power 2 (e - 2)
  let (p, q) := power 10 grid
  let point (c : Nat) : Nat := c * p * b
  let value (quarters : Nat) : Nat := quarters * a * q
  let low := value (if m = leastNormal ∧ leastExponent < e then 4 * m - 1 else 4 * m - 2)
  let high := value (4 * m + 2)
  let reads (c : Nat) : Bool :=
    c ≠ 0 && if m % 2 = 0 then low ≤ point c && point c ≤ high else low < point c && point c < high
  let down := value (4 * m) / (p * b)
  let up := down + 1
  match reads down, reads up with
  | false, false => none
  | true, false => some down
  | false, true => some up
  | true, true =>
    some (if value (4 * m) - point down < point up - value (4 * m) then down else up)

/-- The shortest digits of a positive number and the power of ten of the last one. -/
def shortest (m : Nat) (e : Int) : Nat × Int :=
  ((List.range 634).findSome? fun (i : Nat) =>
    let grid : Int := 309 - (i : Int)
    (digitsOn m e grid).map (·, grid)).getD (0, 0)

/-- A decimal without an exponent. -/
def positional (digits : Nat) (grid : Int) : String :=
  let ds := toString digits
  if 0 ≤ grid then ds ++ "".pushn '0' grid.toNat
  else
    let places := (-grid).toNat
    let ds := "".pushn '0' (places + 1 - ds.length) ++ ds
    let whole := ds.length - places
    String.ofList (ds.toList.take whole) ++ "." ++ String.ofList (ds.toList.drop whole)

/-- The number as text. -/
def text : Double → String
  | nan => "NaN"
  | infinite negative => if negative then "-inf" else "inf"
  | finite negative m e =>
    (if negative then "-" else "") ++
      if m = 0 then "0"
      else
        let (digits, grid) := shortest m e
        positional digits grid

end Double

end BuildGate.Data
