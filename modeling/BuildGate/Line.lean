import BuildGate.Slice

/-!
# Lines of a text

Only a line feed ends a line. `locate` finds the line that holds a byte of a text: it counts the line
feeds before the byte, and takes what lies between the last of these and the first one from the byte
on. A line feed belongs to the line it ends, and an offset past the end to the last line.
-/
namespace BuildGate

/-- The `text` of a line and its `number`, counted from 1. -/
structure LineInfo where
  number : Nat
  text : String
  deriving Repr, DecidableEq

namespace Line

/-- The byte that ends a line. -/
def feed : UInt8 := 0x0A

/-- A line by its `number` and by the offsets at which it begins and ends. -/
structure Extent where
  number : Nat
  first : Nat
  last : Nat
  deriving Repr, DecidableEq

/-- The line around `offset` into `bytes`. -/
def around (bytes : List UInt8) (offset : Nat) : Extent :=
  let before := bytes.take offset
  let after := bytes.drop offset
  { number := 1 + before.count feed
    first := before.length - (before.reverse.takeWhile (· != feed)).length
    last := before.length + (after.takeWhile (· != feed)).length }

end Line

/-- The line of `text` that holds the byte at `offset`. -/
def locate (text : String) (offset : Nat) : LineInfo :=
  let line := Line.around (Slice.bytes text.toList) offset
  ⟨line.number, String.ofList ((Slice.slice? text.toList line.first line.last).getD [])⟩

end BuildGate
