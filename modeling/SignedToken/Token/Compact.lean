import SignedToken.Bytes.Base64Url
import SignedToken.Bytes.Utf8
import SignedToken.Json.Printer

/-!
# The compact form

A token in one line: header, payload and signature as Base64 segments with dots between them. The
text in front of the last dot is what is signed.
-/

namespace SignedToken

/-! ## Segments -/

/-- The text in front of the last dot and the text behind it. -/
def splitLastDot? (cs : List Char) : Option (List Char × List Char) :=
  let reversed := cs.reverse
  match reversed.dropWhile (· ≠ '.') with
  | [] => none
  | _ :: before => some (before.reverse, (reversed.takeWhile (· ≠ '.')).reverse)

/-- A text cut at its last two dots, so that a header may hold dots itself. -/
structure Compact where
  message : List Char
  header : List Char
  payload : List Char
  signature : List Char
deriving DecidableEq

namespace Compact

def split? (text : String) : Option Compact := do
  let (message, signature) ← splitLastDot? text.toList
  let (header, payload) ← splitLastDot? message
  return { message, header, payload, signature }

def hasThreeSegments (c : Compact) : Bool := !c.header.contains '.'

/-- What is signed of a header and a payload. -/
def messageOf (header payload : List Char) : List Char := header ++ '.' :: payload

end Compact

/-! ## Coding -/

def Json.segment (v : Json) : List Char := Base64Url.encode (Utf8.encode v.chars)

def decodeSegment (segment : List Char) : Except Base64Url.DecodeError (List UInt8) :=
  Base64Url.decode (Utf8.encode segment)

end SignedToken
