import SignedToken.Json.Basic
import SignedToken.Json.Scan

/-!
# Reading JSON values

A text is read in full: every number has to be in range, every string well-formed, and arrays and
objects nest at most `maxDepth` deep. An object whose first name is `packedName` does not stand for
itself but for the value that its text spells.
-/

namespace SignedToken.Json

open Ascii

def maxDepth : Nat := 127

/-! ## Scalars -/

/-- A numeral as a value: a whole number if it is spelled and sized like one, else a float. -/
def ofNumeral? (n : Decimal.Numeral) : Option Json :=
  match n.toInt?.bind Integer.ofInt? with
  | some i => some (.int i)
  | none => n.toFloat?.map .float

def number (bs : List UInt8) : Option (Json × List UInt8) := do
  let (n, rest) ← numeral bs
  let v ← ofNumeral? n
  return (v, rest)

def literal (word : String) (v : Json) (bs : List UInt8) : Option (Json × List UInt8) :=
  (passWord (Utf8.bytes word) bs).map (v, ·)

def scalar (bs : List UInt8) : Option (Json × List UInt8) :=
  match bs with
  | [] => none
  | b :: rest =>
    if b = quote then (unquote rest).map fun (s, rest) => (.str s, rest)
    else if b = 0x6E then literal "null" .null bs
    else if b = 0x74 then literal "true" (.bool true) bs
    else if b = 0x66 then literal "false" (.bool false) bs
    else number bs

/-! ## Arrays and objects -/

section
variable {α : Type}

/-- One item and those that follow it behind commas, up to `close`; at most `size` of them. -/
def moreItems (close : UInt8) (item : List UInt8 → Option (α × List UInt8)) :
    Nat → List UInt8 → Option (List α × List UInt8)
  | 0, _ => none
  | size + 1, bs => do
    let (v, rest) ← item bs
    match skipBlank rest with
    | [] => none
    | b :: rest =>
      if b = comma then do
        let (vs, rest) ← moreItems close item size rest
        return (v :: vs, rest)
      else if b = close then return ([v], rest)
      else none

/-- The items behind an opening bracket, and what follows the closing one. -/
def items (close : UInt8) (item : List UInt8 → Option (α × List UInt8)) (size : Nat)
    (bs : List UInt8) : Option (List α × List UInt8) :=
  match skipBlank bs with
  | [] => none
  | b :: rest => if b = close then some ([], rest) else moreItems close item size (b :: rest)

def memberName (bs : List UInt8) : Option (String × List UInt8) :=
  match skipBlank bs with
  | [] => none
  | b :: rest =>
    if b = quote then do
      let (k, rest) ← unquote rest
      match skipBlank rest with
      | [] => none
      | b :: rest => if b = colon then return (k, rest) else none
    else none

def member (item : List UInt8 → Option (α × List UInt8)) (bs : List UInt8) :
    Option ((String × α) × List UInt8) := do
  let (k, rest) ← memberName bs
  let (v, rest) ← item rest
  return ((k, v), rest)

end

/-! ## Values -/

/-- A value that nests at most `depth` deep, objects as they are written, and what follows it. No
array or object of the text has more than `size` items. -/
def value (size : Nat) : Nat → List UInt8 → Option (Json × List UInt8)
  | 0, bs => scalar (skipBlank bs)
  | depth + 1, bs =>
    match skipBlank bs with
    | [] => none
    | b :: rest =>
      if b = openBracket then
        (items closeBracket (value size depth) size rest).map fun (vs, rest) => (.arr vs, rest)
      else if b = openBrace then
        (items closeBrace (member (value size depth)) size rest).map fun (ms, rest) =>
          (.obj ms, rest)
      else scalar (b :: rest)

/-- The value that a text spells. Nothing but blanks may follow. -/
def spelled? (text : List UInt8) : Option Json :=
  match value text.length maxDepth text with
  | some (v, rest) => if (skipBlank rest).isEmpty then some v else none
  | none => none

/-! ## Packed values -/

/-- The name that marks a packed object, if it is the first one. -/
def packedName : String := "$serde_json::private::RawValue"

/-- The first value of a packed object and the members behind it. -/
def packed? : List (String × Json) → Option (Json × List (String × Json))
  | (k, v) :: rest => if k = packedName then some (v, rest) else none
  | [] => none

section
variable (read : List UInt8 → Option Json)

mutual

/-- The value with each packed object replaced by what its text is read as. There has to be a text,
and no other member. -/
def unpackWith : Json → Option Json
  | .arr items => (unpackItemsWith items).map .arr
  | .obj members =>
    match packed? members with
    | some (.str s, []) => read (Utf8.bytes s)
    | some _ => none
    | none => (unpackMembersWith members).map .obj
  | .null => some .null
  | .bool b => some (.bool b)
  | .int n => some (.int n)
  | .float x => some (.float x)
  | .str s => some (.str s)

def unpackItemsWith : List Json → Option (List Json)
  | [] => some []
  | v :: rest => do return (← unpackWith v) :: (← unpackItemsWith rest)

def unpackMembersWith : List (String × Json) → Option (List (String × Json))
  | [] => some []
  | (k, v) :: rest => do return (k, ← unpackWith v) :: (← unpackMembersWith rest)

end

end

/-- What a text is read as that is packed in others up to `size` times. -/
def readWithin : Nat → List UInt8 → Option Json
  | 0, _ => none
  | size + 1, text => (spelled? text).bind (unpackWith (readWithin size))

/-- The value that a text is read as, packed objects replaced. A text that is packed in it is
shorter than itself. -/
def read? (text : List UInt8) : Option Json := readWithin text.length text

def unpack? (v : Json) : Option Json := unpackWith read? v

def unpackMembers? (members : List (String × Json)) : Option (List (String × Json)) :=
  unpackMembersWith read? members

end SignedToken.Json
