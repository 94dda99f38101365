import SignedToken.Bytes.Utf8
import SignedToken.Decimal.Numeral
import SignedToken.Text.Ascii

/-!
# The tokens of a JSON text

Blanks, literals, numerals and strings by RFC 8259, read off the front of the remaining bytes. A
string is read in two ways: `unquote` gives what it says, `passString` only finds its end.
-/

namespace SignedToken.Json

open Ascii

def isBlank (b : UInt8) : Bool := b == 0x20 || b == 0x09 || b == 0x0A || b == 0x0D

def skipBlank (bs : List UInt8) : List UInt8 := bs.dropWhile isBlank

/-- What follows `word`, if the input starts with it. -/
def passWord : List UInt8 → List UInt8 → Option (List UInt8)
  | [], bs => some bs
  | w :: word, b :: bs => if b = w then passWord word bs else none
  | _ :: _, [] => none

/-! ## Numerals -/

def digits (bs : List UInt8) : List Nat × List UInt8 :=
  ((bs.takeWhile isDigit).map fun b => b.toNat - 0x30, bs.dropWhile isDigit)

/-- At least one digit, and no zero in front of others. -/
def wholePart (bs : List UInt8) : Option (List Nat × List UInt8) :=
  match digits bs with
  | ([], _) => none
  | (0 :: _ :: _, _) => none
  | part => some part

/-- A point with at least one digit behind it, if there is a point. -/
def fractionPart : List UInt8 → Option (Option (List Nat) × List UInt8)
  | [] => some (none, [])
  | b :: rest =>
    if b = point then
      match digits rest with
      | ([], _) => none
      | (ds, rest) => some (some ds, rest)
    else some (none, b :: rest)

def exponentSign : List UInt8 → Bool × List UInt8
  | [] => (false, [])
  | b :: rest =>
    if b = minus then (true, rest) else if b = plus then (false, rest) else (false, b :: rest)

/-- An `e` of either case with at least one digit behind it, if there is an `e`. -/
def exponentPart : List UInt8 → Option (Option (Bool × List Nat) × List UInt8)
  | [] => some (none, [])
  | b :: rest =>
    if b = 0x65 ∨ b = 0x45 then
      let (negative, rest) := exponentSign rest
      match digits rest with
      | ([], _) => none
      | (ds, rest) => some (some (negative, ds), rest)
    else some (none, b :: rest)

def unsignedNumeral (negative : Bool) (bs : List UInt8) :
    Option (Decimal.Numeral × List UInt8) := do
  let (whole, bs) ← wholePart bs
  let (fraction, bs) ← fractionPart bs
  let (exponent, bs) ← exponentPart bs
  return (⟨negative, whole, fraction, exponent⟩, bs)

def numeral : List UInt8 → Option (Decimal.Numeral × List UInt8)
  | [] => none
  | b :: rest => if b = minus then unsignedNumeral true rest else unsignedNumeral false (b :: rest)

/-! ## Strings -/

def escaped? (b : UInt8) : Option UInt8 :=
  if b = quote ∨ b = backslash ∨ b = slash then some b
  else if b = 0x62 then some 0x08
  else if b = 0x66 then some 0x0C
  else if b = 0x6E then some 0x0A
  else if b = 0x72 then some 0x0D
  else if b = 0x74 then some 0x09
  else none

def unicodeEscape : UInt8 := 0x75

def hex4? (a b c d : UInt8) : Option Nat := do
  let a ← hexValue? a
  let b ← hexValue? b
  let c ← hexValue? c
  let d ← hexValue? d
  return ((a * 16 + b) * 16 + c) * 16 + d

def isHighSurrogate (n : Nat) : Bool := 0xD800 ≤ n && n ≤ 0xDBFF

def isLowSurrogate (n : Nat) : Bool := 0xDC00 ≤ n && n ≤ 0xDFFF

/-- The bytes of a string behind its opening quote, escapes resolved, and what follows the closing
one; `done` are the bytes so far, last first. Surrogates are accepted in pairs only, bytes below
space not at all. -/
def unquoteFrom (done : List UInt8) : List UInt8 → Option (List UInt8 × List UInt8)
  | [] => none
  | b :: rest =>
    if b = quote then some (done.reverse, rest)
    else if b = backslash then
      match rest with
      | [] => none
      | e :: rest =>
        if e = unicodeEscape then
          match rest with
          | h1 :: h2 :: h3 :: h4 :: rest =>
            match hex4? h1 h2 h3 h4 with
            | none => none
            | some high =>
              if isLowSurrogate high then none
              else if isHighSurrogate high then
                match rest with
                | s :: u :: l1 :: l2 :: l3 :: l4 :: rest =>
                  match hex4? l1 l2 l3 l4 with
                  | none => none
                  | some low =>
                    if s = backslash ∧ u = unicodeEscape ∧ isLowSurrogate low then
                      let c := Char.ofNat (0x10000 + (high - 0xD800) * 0x400 + (low - 0xDC00))
                      unquoteFrom ((Utf8.encodeChar c).reverse ++ done) rest
                    else none
                | _ => none
              else unquoteFrom ((Utf8.encodeChar (Char.ofNat high)).reverse ++ done) rest
          | _ => none
        else
          match escaped? e with
          | some c => unquoteFrom (c :: done) rest
          | none => none
    else if b < 0x20 then none
    else unquoteFrom (b :: done) rest

def unquote (bs : List UInt8) : Option (String × List UInt8) := do
  let (content, rest) ← unquoteFrom [] bs
  let s ← Utf8.text? content
  return (s, rest)

/-- What follows a string's closing quote. Its escapes have to be spelled correctly, whatever they
and the other bytes stand for. -/
def passString : List UInt8 → Option (List UInt8)
  | [] => none
  | b :: rest =>
    if b = quote then some rest
    else if b = backslash then
      match rest with
      | [] => none
      | e :: rest =>
        if e = unicodeEscape then
          match rest with
          | h1 :: h2 :: h3 :: h4 :: rest =>
            if (hex4? h1 h2 h3 h4).isSome then passString rest else none
          | _ => none
        else if (escaped? e).isSome then passString rest
        else none
    else if b < 0x20 then none
    else passString rest

end SignedToken.Json
