/-!
# Whole numbers in text

Decimal digits, any number of leading zeros, and an optional sign.
-/

namespace SignedToken.Text

def digit? (c : Char) : Option Nat := if c.isDigit then some (c.toNat - 48) else none

def digits? : List Char → Option Nat
  | [] => none
  | cs => cs.foldlM (fun n c => (digit? c).map (n * 10 + ·)) 0

/-- A number without sign or with a plus sign, if it is at most `bound`. -/
def natural? (bound : Nat) (cs : List Char) : Option Nat :=
  let number :=
    match cs with
    | '+' :: rest => digits? rest
    | _ => digits? cs
  number.filter (· ≤ bound)

/-- A number with or without sign, if it fits 64 bits. -/
def signed64? (cs : List Char) : Option Int :=
  let number : Option Int :=
    match cs with
    | '+' :: rest => (digits? rest).map Int.ofNat
    | '-' :: rest => (digits? rest).map fun n => -(n : Int)
    | _ => (digits? cs).map Int.ofNat
  number.filter fun n => -9223372036854775808 ≤ n && n ≤ 9223372036854775807

end SignedToken.Text
