import SignedToken.Json.Printer
import SignedToken.Text.Case

/-!
# HTTP messages

Requests and responses as the service sees them: header names in lower case, header values as
bytes, and responses with the headers that have been set so far.
-/

namespace SignedToken

structure Request where
  method : String
  target : String
  headers : List (String × List UInt8)
  body : List UInt8

structure Response where
  status : Nat
  headers : List (String × String)
  body : String
  /-- The body ends in a diagnosis whose wording is left open, so that its length is not told. -/
  openEnded : Bool := false
deriving DecidableEq

namespace Response

def json (status : Nat) (v : Json) (openEnded : Bool) : Response where
  status
  headers := [("content-type", "application/json")]
  body := v.text
  openEnded

def failure (status : Nat) (code message : String) (openEnded : Bool) : Response :=
  json status (.obj [("code", .str code), ("message", .str message)]) openEnded

end Response

namespace Http

/-! ## Header values -/

/-- Whether the bytes can be the value of a header: no control characters but the tab. -/
def isHeaderValue (bs : List UInt8) : Bool := bs.all fun b => (b ≥ 0x20 || b == 0x09) && b != 0x7F

/-- The text of a value that holds nothing but visible ASCII characters, spaces and tabs. -/
def visibleText? (bs : List UInt8) : Option (List Char) :=
  if bs.all fun b => b == 0x09 || (0x20 ≤ b && b ≤ 0x7E) then
    some (bs.map fun b => Char.ofNat b.toNat)
  else none

def sameName (a b : String) : Bool := Text.lower a == Text.lower b

def header? (headers : List (String × List UInt8)) (name : String) : Option (List UInt8) :=
  (headers.find? fun h => sameName h.1 name).map Prod.snd

/-! ## Targets -/

def afterScheme? : List Char → Option (List Char)
  | ':' :: '/' :: '/' :: rest => some rest
  | _ :: rest => afterScheme? rest
  | [] => none

/-- The path of a target: what stands in front of the query, and behind the host if there is
one. It is not decoded. -/
def path (target : String) : String :=
  let cs := target.toList.takeWhile fun c => c ≠ '?' ∧ c ≠ '#'
  match cs with
  | '/' :: _ => String.ofList cs
  | _ =>
    match afterScheme? cs with
    | none => String.ofList cs
    | some rest =>
      match rest.dropWhile (· ≠ '/') with
      | [] => "/"
      | p => String.ofList p

end Http

end SignedToken
