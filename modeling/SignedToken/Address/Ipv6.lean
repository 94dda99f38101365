import SignedToken.Address.Ipv4

/-!
# IPv6 addresses

Eight groups of up to four hexadecimal digits. Two colons stand for one or more zero groups, and the
last two groups may be written as an IPv4 address.
-/

namespace SignedToken

structure Ipv6 where
  groups : List Nat
deriving DecidableEq, Repr

namespace Ipv6

/-! ## Reading -/

/-- What `item` reads, behind a colon unless it is the first. -/
def separated? {α : Type} (first : Bool) (item : List Char → Option (α × List Char))
    (cs : List Char) : Option (α × List Char) :=
  if first then item cs else (Address.expect? ':' cs).bind item

/-- Up to `limit` groups. An IPv4 address is taken where two groups have room, and ends them; the
second result says whether it did. -/
def scanGroups (first : Bool) : Nat → List Char → List Nat × Bool × List Char
  | 0, cs => ([], false, cs)
  | limit + 1, cs =>
    let v4 := if limit = 0 then none else separated? first Ipv4.scan? cs
    match v4 with
    | some (ip, rest) => ([ip.a * 256 + ip.b, ip.c * 256 + ip.d], true, rest)
    | none =>
      match separated? first (Address.number? 16 4 true) cs with
      | none => ([], false, cs)
      | some (g, rest) =>
        let (gs, v4, rest) := scanGroups false limit rest
        (g :: gs, v4, rest)

def scan? (cs : List Char) : Option (Ipv6 × List Char) :=
  let (head, endsInV4, rest) := scanGroups true 8 cs
  if head.length = 8 then some (⟨head⟩, rest)
  else if endsInV4 then none
  else do
    let rest ← Address.expect? ':' rest
    let rest ← Address.expect? ':' rest
    let (tail, _, rest) := scanGroups true (7 - head.length) rest
    return (⟨head ++ List.replicate (8 - head.length - tail.length) 0 ++ tail⟩, rest)

/-! ## Writing -/

def leadingZeros (groups : List Nat) : Nat := (groups.takeWhile (· = 0)).length

/-- Start and length of the longest run of zeros, the first of several; `start` is the place of
the list's head. -/
def longestZeros (start : Nat) : List Nat → Nat × Nat
  | [] => (start, 0)
  | g :: rest =>
    let here := leadingZeros (g :: rest)
    let (s, n) := longestZeros (start + 1) rest
    if here ≥ n then (start, here) else (s, n)

def groupsText (groups : List Nat) : String :=
  ":".intercalate (groups.map fun g => String.ofList (Nat.toDigits 16 g))

def mapped? : Ipv6 → Option Ipv4
  | ⟨[0, 0, 0, 0, 0, 0xFFFF, g, h]⟩ => some ⟨g / 256, g % 256, h / 256, h % 256⟩
  | _ => none

/-- The longest run of two or more zeros is left out. -/
def text (ip : Ipv6) : String :=
  match ip.mapped? with
  | some v4 => "::ffff:" ++ v4.text
  | none =>
    let (start, n) := longestZeros 0 ip.groups
    if n > 1 then
      groupsText (ip.groups.take start) ++ "::" ++ groupsText (ip.groups.drop (start + n))
    else groupsText ip.groups

end Ipv6

end SignedToken
