/-!
# Integers of fixed width

The bounds of integers of 64 bits and, under `wide`, of 128 bits. A number without a sign is below the
bound; one with a sign is below its half, and not below minus its half.
-/
namespace BuildGate.Word

def bound : Nat := 0x10000000000000000

def half : Nat := 0x8000000000000000

def wideBound : Nat := bound * bound

def wideHalf : Nat := half * bound

end BuildGate.Word
