/-!
# Shortest decimals

The fewest digits that read back as a given number. Around a binary number lies an interval of
numbers that round to it; the result is the multiple of the greatest power of ten in there, the one
nearest to the number if there are several, an even one on a tie. All of it is arithmetic on whole
numbers.
-/

namespace SignedToken.Decimal

/-! ## Binary numbers -/

/-- The positive number `mantissa * 2 ^ exponent` among its neighbours. -/
structure Binary where
  mantissa : Nat
  exponent : Int
  /-- The neighbour below is only half as far away as the one above. -/
  narrowBelow : Bool
deriving DecidableEq, Repr

def leadingBit : Nat := 0x10000000000000

def Binary.ofFloat (x : Float) : Binary :=
  let bits := x.toBits.toNat
  let fraction := bits % leadingBit
  let exponent := bits / leadingBit % 0x800
  if exponent = 0 then ⟨fraction, -1074, false⟩
  else ⟨leadingBit + fraction, (exponent : Int) - 1075, fraction = 0 && exponent > 1⟩

/-! ## The search -/

structure Scaled where
  digits : Nat
  exponent : Int
deriving DecidableEq, Repr

/-- `(n, d)` such that a quarter of `b`'s last binary place, in units of `10 ^ exponent`, is
`n / d`. -/
def Binary.quarter (b : Binary) (exponent : Int) : Nat × Nat :=
  let place := b.exponent - 2
  (Nat.pow 2 place.toNat * Nat.pow 10 (-exponent).toNat,
    Nat.pow 2 (-place).toNat * Nat.pow 10 exponent.toNat)

/-- The multiple of `10 ^ exponent` that is nearest to `b` among those that round to it. -/
def Binary.nearest? (b : Binary) (exponent : Int) : Option Scaled :=
  let (n, d) := b.quarter exponent
  let value := 4 * b.mantissa * n
  let low := (if b.narrowBelow then 4 * b.mantissa - 1 else 4 * b.mantissa - 2) * n
  let high := (4 * b.mantissa + 2) * n
  let rounds (c : Nat) : Bool :=
    if b.mantissa % 2 = 0 then low ≤ c * d && c * d ≤ high else low < c * d && c * d < high
  let below := value / d
  let above := below + 1
  match rounds below, rounds above with
  | true, true =>
    let down := value - below * d
    let up := above * d - value
    if down < up || (down == up && below % 2 == 0) then some ⟨below, exponent⟩
    else some ⟨above, exponent⟩
  | true, false => some ⟨below, exponent⟩
  | false, true => some ⟨above, exponent⟩
  | false, false => none

/-- Tries `10 ^ exponent` and the next smaller powers. -/
def Binary.search (b : Binary) : Nat → Int → Scaled
  | 0, exponent => ⟨0, exponent⟩
  | tries + 1, exponent =>
    match b.nearest? exponent with
    | some s => s
    | none => b.search tries (exponent - 1)

/-- Seventeen digits always suffice; the search starts above the number's own size. -/
def Binary.shortest (b : Binary) : Scaled :=
  b.search 25 ((b.exponent + b.mantissa.log2 + 1) * 30103 / 100000 + 1)

end SignedToken.Decimal
