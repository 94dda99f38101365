import SignedToken.Decimal.Shortest
import SignedToken.Json.Basic

/-!
# Writing JSON values

The compact text of a value: no blanks, members in the order in which the value holds them. Only
what has to be escaped in a string is escaped.
-/

namespace SignedToken.Json

/-! ## Numbers -/

def decimal : Int → List Char
  | .ofNat n => Nat.toDigits 10 n
  | .negSucc n => '-' :: Nat.toDigits 10 (n + 1)

/-- How floats are laid out: plainly for exponents in a range, else as one digit, point, digits
and a signed exponent. -/
structure FloatLayout where
  leastPlain : Int
  greatestPlain : Int

/-- A point is always written in the plain form, and all of 10^-5 to 10^16 is plain. -/
def floatLayout : FloatLayout := ⟨-5, 15⟩

def plainFloat (digits : List Char) (exponent : Int) : List Char :=
  if exponent < 0 then
    '0' :: '.' :: List.replicate (-exponent - 1).toNat '0' ++ digits
  else
    let places := exponent.toNat + 1
    let whole := digits.take places ++ List.replicate (places - digits.length) '0'
    let fraction := digits.drop places
    whole ++ '.' :: (if fraction.isEmpty then ['0'] else fraction)

def scientificFloat (digits : List Char) (exponent : Int) : List Char :=
  let fraction := digits.drop 1
  digits.take 1 ++ (if fraction.isEmpty then [] else '.' :: fraction)
    ++ 'e' :: (if exponent < 0 then '-' else '+') :: decimal exponent.natAbs

/-- The shortest decimal that reads back as the float. What is not a number has no text of its
own. -/
def floatText (x : Float) : List Char :=
  if x.isNaN || x.isInf then "null".toList
  else
    let negative := x.toBits ≥ 0x8000000000000000
    let text :=
      if x == 0 then plainFloat ['0'] 0
      else
        let s := (Decimal.Binary.ofFloat x).shortest
        let digits := decimal s.digits
        let exponent := s.exponent + digits.length - 1
        if floatLayout.leastPlain ≤ exponent ∧ exponent ≤ floatLayout.greatestPlain then
          plainFloat digits exponent
        else scientificFloat digits exponent
    if negative then '-' :: text else text

/-! ## Strings -/

def hexDigit (n : Nat) : Char := if n < 10 then Char.ofNat (48 + n) else Char.ofNat (87 + n)

/-- A character inside quotes: quote, backslash and all below space are escaped. -/
def quotedChar (c : Char) : List Char :=
  if c = '"' then ['\\', '"']
  else if c = '\\' then ['\\', '\\']
  else if c = '\x08' then ['\\', 'b']
  else if c = '\t' then ['\\', 't']
  else if c = '\n' then ['\\', 'n']
  else if c = '\x0c' then ['\\', 'f']
  else if c = '\r' then ['\\', 'r']
  else if c.toNat < 0x20 then
    ['\\', 'u', '0', '0', hexDigit (c.toNat / 16), hexDigit (c.toNat % 16)]
  else [c]

def quoted (s : String) : List Char := '"' :: (s.toList.flatMap quotedChar ++ ['"'])

/-! ## Values -/

def commaSeparated : List (List Char) → List Char
  | [] => []
  | [t] => t
  | t :: rest => t ++ ',' :: commaSeparated rest

mutual

def chars : Json → List Char
  | .null => "null".toList
  | .bool true => "true".toList
  | .bool false => "false".toList
  | .int n => decimal n.val
  | .float x => floatText x
  | .str s => quoted s
  | .arr items => '[' :: (commaSeparated (itemsChars items) ++ [']'])
  | .obj members => '\x7b' :: (commaSeparated (membersChars members) ++ ['\x7d'])

def itemsChars : List Json → List (List Char)
  | [] => []
  | v :: rest => chars v :: itemsChars rest

def membersChars : List (String × Json) → List (List Char)
  | [] => []
  | (k, v) :: rest => (quoted k ++ ':' :: chars v) :: membersChars rest

end

def text (v : Json) : String := String.ofList v.chars

end SignedToken.Json
