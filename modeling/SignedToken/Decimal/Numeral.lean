/-!
# Numerals

The parts of a decimal numeral, and the float it is read as. Reading is quick rather than exact: as
many digits as 64 bits hold make the significand, which is scaled by one power of ten.
-/

namespace SignedToken.Decimal

/-- Sign, digits before the point, digits behind it, and the exponent's sign and digits. A missing
fraction or exponent is `none`. -/
structure Numeral where
  negative : Bool
  whole : List Nat
  fraction : Option (List Nat)
  exponent : Option (Bool × List Nat)
deriving DecidableEq, Repr

def ofDigits (digits : List Nat) : Nat := digits.foldl (fun n d => n * 10 + d) 0

/-- Appends digits to a significand for as long as it fits 64 bits, and counts those that were
taken. -/
def gather (significand : Nat) : List Nat → Nat × Nat
  | [] => (significand, 0)
  | d :: rest =>
    if significand * 10 + d < 0x10000000000000000 then
      let (s, taken) := gather (significand * 10 + d) rest
      (s, taken + 1)
    else (significand, 0)

/-- `10 ^ e`, rounded, for `e` up to 308. -/
def powerOfTen (e : Nat) : Float := Float.ofScientific 1 false e

/-- Divides by `10 ^ e`, in several steps if no float holds that power. -/
def divideByPower (f : Float) (e : Nat) : Float :=
  if e ≤ 308 then f / powerOfTen e
  else if f == 0 then f
  else divideByPower (f / powerOfTen 308) (e - 308)
termination_by e

/-- `significand * 10 ^ e`, unless that is beyond all floats. -/
def scale? (significand : Nat) (e : Int) : Option Float :=
  let f := significand.toUInt64.toFloat
  if e < 0 then some (divideByPower f e.natAbs)
  else if e ≤ 308 then
    let g := f * powerOfTen e.natAbs
    if g.isInf then none else some g
  else if f == 0 then some f
  else none

/-- Greatest exponent that is taken at its word; a larger one means zero or overflow. -/
def exponentLimit : Nat := 2147483647

namespace Numeral

def magnitude? (n : Numeral) : Option Float :=
  let (s, taken) := gather 0 n.whole
  let dropped := n.whole.length - taken
  let (s, places) := gather s (n.fraction.getD [])
  let start : Int := (dropped : Int) - places
  match n.exponent with
  | none => scale? s start
  | some (negative, digits) =>
    let e := ofDigits digits
    if e > exponentLimit then
      if s ≠ 0 ∧ !negative then none else some 0
    else scale? s (if negative then start - e else start + e)

/-- The float a numeral is read as, unless it is beyond all floats. -/
def toFloat? (n : Numeral) : Option Float :=
  n.magnitude?.map fun f => if n.negative then -f else f

/-- The whole number that a numeral without point and exponent spells. Zero with a sign spells
none. -/
def toInt? (n : Numeral) : Option Int :=
  match n.fraction, n.exponent with
  | none, none =>
    let k := ofDigits n.whole
    if !n.negative then some k
    else if k = 0 then none
    else some (-k)
  | _, _ => none

end Numeral

end SignedToken.Decimal
