import SignedToken.Json.Reader

/-!
# The outline of a JSON text

An array or object cut into its items, each still unread. Finding where an item ends asks for less
than reading it: numbers may be of any size, strings may hold any bytes, and nesting has no limit.
A record that knows only some names reads those and leaves the rest alone.
-/

namespace SignedToken.Json

open Ascii

/-! ## Passing over values -/

inductive Bracket where
  | array
  | object
deriving DecidableEq, Repr

def Bracket.close : Bracket → UInt8
  | .array => closeBracket
  | .object => closeBrace

def passName (bs : List UInt8) : Option (List UInt8) :=
  match skipBlank bs with
  | [] => none
  | b :: rest =>
    if b = quote then do
      let rest ← passString rest
      match skipBlank rest with
      | [] => none
      | b :: rest => if b = colon then some rest else none
    else none

def passScalar (bs : List UInt8) : Option (List UInt8) :=
  match bs with
  | [] => none
  | b :: rest =>
    if b = quote then passString rest
    else if b = 0x6E then passWord (Utf8.bytes "null") bs
    else if b = 0x74 then passWord (Utf8.bytes "true") bs
    else if b = 0x66 then passWord (Utf8.bytes "false") bs
    else (numeral bs).map Prod.snd

/-- To the value that comes next inside a bracket just opened or behind a comma. -/
def Bracket.enter (b : Bracket) (bs : List UInt8) : Option (List UInt8) :=
  match b with
  | .array => some bs
  | .object => passName bs

/-- Behind a value: closes brackets up to the next comma, and leaves those still open, the
innermost first. With none left the outermost value is over. -/
def passClosed : List Bracket → List UInt8 → Option (List Bracket × List UInt8)
  | [], bs => some ([], bs)
  | bracket :: opened, bs =>
    match skipBlank bs with
    | [] => none
    | b :: rest =>
      if b = comma then (bracket.enter rest).map (bracket :: opened, ·)
      else if b = bracket.close then passClosed opened rest
      else none

/-- A bracket just opened: either it closes at once, or its first value comes next. -/
def passOpened (bracket : Bracket) (opened : List Bracket) (bs : List UInt8) :
    Option (List Bracket × List UInt8) :=
  match skipBlank bs with
  | [] => none
  | b :: rest =>
    if b = bracket.close then passClosed opened rest
    else (bracket.enter (b :: rest)).map (bracket :: opened, ·)

/-- Passes over a value inside `opened` and all that follows it in there, at most `size` values. -/
def passFrom : Nat → List Bracket → List UInt8 → Option (List UInt8)
  | 0, _, _ => none
  | size + 1, opened, bs =>
    let next :=
      match skipBlank bs with
      | [] => none
      | b :: rest =>
        if b = openBracket then passOpened .array opened rest
        else if b = openBrace then passOpened .object opened rest
        else (passScalar (b :: rest)).bind (passClosed opened)
    match next with
    | none => none
    | some ([], rest) => some rest
    | some (bracket :: opened, rest) => passFrom size (bracket :: opened) rest

def passValue (size : Nat) (bs : List UInt8) : Option (List UInt8) := passFrom size [] bs

/-! ## Outlines -/

/-- The text from an item on, and what follows the item. -/
def uncutItem (size : Nat) (bs : List UInt8) : Option (List UInt8 × List UInt8) :=
  (passValue size bs).map (bs, ·)

/-- The members of an object or the items of an array; each is the rest of the text from it on. -/
inductive Outline where
  | members (members : List (String × List UInt8))
  | items (items : List (List UInt8))
deriving Repr

def outline? (text : List UInt8) : Option Outline := do
  let size := text.length
  let (result, rest) ←
    match skipBlank text with
    | [] => none
    | b :: rest =>
      if b = openBrace then
        (Json.items closeBrace (member (uncutItem size)) size rest).map fun (ms, rest) =>
          (Outline.members ms, rest)
      else if b = openBracket then
        (Json.items closeBracket (uncutItem size) size rest).map fun (is, rest) =>
          (Outline.items is, rest)
      else none
  if (skipBlank rest).isEmpty then return result else none

def readItem? (bs : List UInt8) : Option Json := (value bs.length (maxDepth - 1) bs).map Prod.fst

/-- The members called `name`, unread. -/
def named (name : String) (members : List (String × List UInt8)) : List (List UInt8) :=
  (members.filter (·.1 == name)).map Prod.snd

namespace Outline

/-- The texts that stand for the field at a place: by name in an object, by position in an array. -/
def texts (position : Nat) (name : String) : Outline → List (List UInt8)
  | .members ms => named name ms
  | .items is => (is[position]?).toList

/-- The number of items of an array; an object may have any number of members. -/
def hasAtMost (n : Nat) : Outline → Bool
  | .members _ => true
  | .items is => is.length ≤ n

/-- A field that may be missing, but not be there twice. -/
def field? {α : Type} (position : Nat) (name : String) (missing : Option α)
    (read : Json → Option α) (o : Outline) : Option α :=
  match o.texts position name with
  | [] => missing
  | [text] => (readItem? text).bind read
  | _ => none

end Outline

end SignedToken.Json
