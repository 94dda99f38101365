/-!
# Base64 for URLs, without padding

Groups of three bytes as four symbols of `A–Z a–z 0–9 - _`; a shorter last group is not filled up.
Reading accepts one spelling of each byte list: no padding, no unused bit set.
-/

namespace SignedToken.Base64Url

/-! ## Symbols -/

def symbol (n : Nat) : Char :=
  if n < 26 then Char.ofNat (65 + n)
  else if n < 52 then Char.ofNat (97 + (n - 26))
  else if n < 62 then Char.ofNat (48 + (n - 52))
  else if n = 62 then '-'
  else '_'

def value? (b : UInt8) : Option Nat :=
  let n := b.toNat
  if 65 ≤ n ∧ n ≤ 90 then some (n - 65)
  else if 97 ≤ n ∧ n ≤ 122 then some (n - 97 + 26)
  else if 48 ≤ n ∧ n ≤ 57 then some (n - 48 + 52)
  else if n = 45 then some 62
  else if n = 95 then some 63
  else none

/-! ## Writing -/

def encode : List UInt8 → List Char
  | [] => []
  | [a] => [symbol (a.toNat / 4), symbol (a.toNat % 4 * 16)]
  | [a, b] =>
    [symbol (a.toNat / 4), symbol (a.toNat % 4 * 16 + b.toNat / 16), symbol (b.toNat % 16 * 4)]
  | a :: b :: c :: rest =>
    symbol (a.toNat / 4) :: symbol (a.toNat % 4 * 16 + b.toNat / 16)
      :: symbol (b.toNat % 16 * 4 + c.toNat / 64) :: symbol (c.toNat % 64) :: encode rest

/-! ## Reading -/

inductive DecodeError where
  /-- A byte that is no symbol here. -/
  | invalidSymbol (offset : Nat) (byte : UInt8)
  /-- The input stops after `length` symbols, inside a group of fewer than two. -/
  | invalidLength (length : Nat)
  /-- The last symbol sets bits that belong to no byte. -/
  | invalidLastSymbol (offset : Nat) (byte : UInt8)
  | padded
deriving DecidableEq, Repr

def DecodeError.message : DecodeError → String
  | .invalidSymbol offset byte => s!"Invalid symbol {byte.toNat}, offset {offset}."
  | .invalidLength length => s!"Invalid input length: {length}"
  | .invalidLastSymbol offset byte => s!"Invalid last symbol {byte.toNat}, offset {offset}."
  | .padded => "Invalid padding"

/-- The padding sign `=`, which other spellings of the format end with. -/
def pad : UInt8 := 61

def valueAt (offset : Nat) (b : UInt8) : Except DecodeError Nat :=
  match value? b with
  | some v => .ok v
  | none => .error (.invalidSymbol offset b)

/-- The last one to four bytes, cut at the first padding sign: symbols are collected until there
is one, after which only more padding may stand. A padding sign needs two bytes before it. -/
def finalSymbols (offset : Nat) : Nat → List UInt8 → Except DecodeError (List (UInt8 × Nat) × Bool)
  | _, [] => .ok ([], false)
  | position, b :: rest =>
    if b = pad then
      if position < 2 then .error (.invalidSymbol (offset + position) b)
      else if rest.all (· = pad) then .ok ([], true)
      else .error (.invalidSymbol (offset + position) b)
    else do
      let v ← valueAt (offset + position) b
      let (symbols, padded) ← finalSymbols offset (position + 1) rest
      return ((b, v) :: symbols, padded)

/-- The bytes of the last group. Symbols that are no byte's, too few symbols, padding and unused
bits are refused in this order. -/
def decodeFinal (offset : Nat) (bs : List UInt8) : Except DecodeError (List UInt8) := do
  let (symbols, padded) ← finalSymbols offset 0 bs
  match symbols with
  | [] => if bs.isEmpty then return [] else throw (.invalidLength offset)
  | [_] => throw (.invalidLength (offset + 1))
  | [(_, a), (last, b)] =>
    if padded then throw .padded
    else if b % 16 ≠ 0 then throw (.invalidLastSymbol (offset + 1) last)
    else return [.ofNat (a * 4 + b / 16)]
  | [(_, a), (_, b), (last, c)] =>
    if padded then throw .padded
    else if c % 4 ≠ 0 then throw (.invalidLastSymbol (offset + 2) last)
    else return [.ofNat (a * 4 + b / 16), .ofNat (b % 16 * 16 + c / 4)]
  | (_, a) :: (_, b) :: (_, c) :: (_, d) :: _ =>
    return [.ofNat (a * 4 + b / 16), .ofNat (b % 16 * 16 + c / 4), .ofNat (c % 4 * 64 + d)]

/-- Whole groups from the front for as long as something stands behind them. -/
def decodeFrom (offset : Nat) : List UInt8 → Except DecodeError (List UInt8)
  | a :: b :: c :: d :: e :: rest => do
    let a ← valueAt offset a
    let b ← valueAt (offset + 1) b
    let c ← valueAt (offset + 2) c
    let d ← valueAt (offset + 3) d
    let more ← decodeFrom (offset + 4) (e :: rest)
    return .ofNat (a * 4 + b / 16) :: .ofNat (b % 16 * 16 + c / 4) :: .ofNat (c % 4 * 64 + d)
      :: more
  | final => decodeFinal offset final

/-- A lone byte behind whole groups that is no symbol is reported before anything else. -/
def decode (bs : List UInt8) : Except DecodeError (List UInt8) :=
  match bs.getLast? with
  | some last =>
    if bs.length % 4 = 1 ∧ last ≠ pad ∧ value? last = none then
      .error (.invalidSymbol (bs.length - 1) last)
    else decodeFrom 0 bs
  | none => .ok []

end SignedToken.Base64Url
