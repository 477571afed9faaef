import BuildGate.Charset
import BuildGate.Unicode.CaseFoldTable

/-!
# Simple case folding

A set of characters closed under folding holds, with a character, every other one that has the same
simple folding: `k` brings `K` and the Kelvin sign.
-/
namespace BuildGate.Unicode

/-- Reads a table of classes: blanks between classes, dashes between members. -/
def readClasses (text : String) : List (List Nat) :=
  go text.toList 0 [] []
where
  go : List Char → Nat → List Nat → List (List Nat) → List (List Nat)
    | [], n, cls, acc => ((n :: cls).reverse :: acc).reverse
    | c :: rest, n, cls, acc =>
      if c = ' ' then go rest 0 [] ((n :: cls).reverse :: acc)
      else if c = '-' then go rest 0 (n :: cls) acc
      else go rest (16 * n + Charset.hexDigit c) cls acc

/-- The classes of code points that fold to one another. -/
def foldClasses : List (List Nat) := readClasses caseFoldTable

/-- The members that folding brings into a set, by the given classes. -/
def foldWith (classes : List (List Nat)) (s : Charset) : Charset :=
  let new := classes.filter fun cls => cls.any (Charset.holds s.ranges)
  if new.isEmpty then s else s.union (.ofRanges (new.flatten.map fun n => (n, n)))

/-- The set closed under simple case folding. -/
def foldCase (s : Charset) : Charset := foldWith foldClasses s

/-- The set closed under the exchange of `A` to `Z` with `a` to `z`. -/
def foldAsciiCase (s : Charset) : Charset :=
  foldWith ((List.range 26).map fun i => [0x41 + i, 0x61 + i]) s

end BuildGate.Unicode
