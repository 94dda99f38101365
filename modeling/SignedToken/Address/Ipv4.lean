/-!
# IPv4 addresses

Four numbers below 256, with points between them and no needless zeros.
-/

namespace SignedToken

structure Ipv4 where
  a : Nat
  b : Nat
  c : Nat
  d : Nat
deriving DecidableEq, Repr

namespace Address

def digitValue? (radix : Nat) (c : Char) : Option Nat :=
  let n := c.toNat
  let v :=
    if 48 ≤ n ∧ n ≤ 57 then some (n - 48)
    else if 65 ≤ n ∧ n ≤ 70 then some (n - 55)
    else if 97 ≤ n ∧ n ≤ 102 then some (n - 87)
    else none
  v.filter (· < radix)

/-- All the digits that come next, if there are some but at most `most`; zeros in front of others
only if `zeros` says so. -/
def number? (radix most : Nat) (zeros : Bool) (cs : List Char) : Option (Nat × List Char) :=
  let digits := cs.takeWhile fun c => (digitValue? radix c).isSome
  let rest := cs.dropWhile fun c => (digitValue? radix c).isSome
  if digits.isEmpty || most < digits.length then none
  else if !zeros && digits.head? == some '0' && 1 < digits.length then none
  else some (digits.foldl (fun n c => n * radix + (digitValue? radix c).getD 0) 0, rest)

def expect? (c : Char) : List Char → Option (List Char)
  | [] => none
  | x :: rest => if x = c then some rest else none

end Address

namespace Ipv4

def octet? (cs : List Char) : Option (Nat × List Char) :=
  (Address.number? 10 3 false cs).filter fun (n, _) => n < 256

def scan? (cs : List Char) : Option (Ipv4 × List Char) := do
  let (a, cs) ← octet? cs
  let cs ← Address.expect? '.' cs
  let (b, cs) ← octet? cs
  let cs ← Address.expect? '.' cs
  let (c, cs) ← octet? cs
  let cs ← Address.expect? '.' cs
  let (d, cs) ← octet? cs
  return (⟨a, b, c, d⟩, cs)

def text (ip : Ipv4) : String :=
  ".".intercalate ([ip.a, ip.b, ip.c, ip.d].map toString)

end Ipv4

end SignedToken
