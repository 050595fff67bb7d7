/-
# Ranges — the integers that a word of some width can hold

Readers and filters accept only the integers of a fixed width; the four ranges they name are
here, and `contains` decides whether an integer lies in one of them.
-/

namespace Courier.Decimal

/-- The integers from `least` to `greatest`. -/
structure Range where
  least : Int
  greatest : Int
  deriving DecidableEq, Repr

/-- Whether an integer lies in the range. -/
def Range.contains (r : Range) (i : Int) : Bool :=
  r.least ≤ i && i ≤ r.greatest

/-- The signed integers of 64 bits. -/
def signed64 : Range := ⟨-9223372036854775808, 9223372036854775807⟩

/-- The natural numbers of 64 bits. -/
def unsigned64 : Range := ⟨0, 18446744073709551615⟩

/-- The signed integers of 32 bits. -/
def signed32 : Range := ⟨-2147483648, 2147483647⟩

/-- The natural numbers of 32 bits. -/
def unsigned32 : Range := ⟨0, 4294967295⟩

end Courier.Decimal
