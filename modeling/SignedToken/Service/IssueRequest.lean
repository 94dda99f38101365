import SignedToken.Json.Outline

/-!
# Requests for a token

The body of a request for a token is read from left to right, and the first error met counts: either
the text is no JSON there, or the value is not of the type that is wanted. Text behind the value is
not looked at.
-/

namespace SignedToken

open Json Ascii

structure IssueRequest where
  body : Json.Object := .empty
  ttlSeconds : Option Int64 := none

namespace IssueRequest

inductive ReadError where
  /-- No JSON, or nested too deep, or a number out of range. -/
  | grammar
  /-- A value of the wrong type, or a field given twice. -/
  | shape
deriving DecidableEq, Repr

def orGrammar {α : Type} : Option α → Except ReadError α
  | some a => .ok a
  | none => .error .grammar

/-- The error at a value of the wrong type. An array or object is recognized by its bracket; any
other value is read first. -/
def wrongType (bs : List UInt8) : ReadError :=
  match bs with
  | [] => .grammar
  | b :: _ =>
    if b = openBracket ∨ b = openBrace then .shape
    else if (scalar bs).isSome then .shape
    else .grammar

/-! ## Values -/

section
variable {α : Type}

/-- As `Json.moreItems`, where items may be of the wrong type. -/
def readMore (close : UInt8) (item : List UInt8 → Except ReadError (α × List UInt8)) :
    Nat → List UInt8 → Except ReadError (List α × List UInt8)
  | 0, _ => .error .grammar
  | size + 1, bs => do
    let (v, rest) ← item bs
    match skipBlank rest with
    | [] => throw .grammar
    | b :: rest =>
      if b = comma then do
        let (vs, rest) ← readMore close item size rest
        return (v :: vs, rest)
      else if b = close then return ([v], rest)
      else throw .grammar

def readList (close : UInt8) (item : List UInt8 → Except ReadError (α × List UInt8)) (size : Nat)
    (bs : List UInt8) : Except ReadError (List α × List UInt8) :=
  match skipBlank bs with
  | [] => .error .grammar
  | b :: rest => if b = close then .ok ([], rest) else readMore close item size (b :: rest)

def readMember (item : List UInt8 → Except ReadError (α × List UInt8)) (bs : List UInt8) :
    Except ReadError ((String × α) × List UInt8) := do
  let (k, rest) ← orGrammar (memberName bs)
  let (v, rest) ← item rest
  return ((k, v), rest)

end

/-- What follows the name of a packed object behind its opening brace, if it is one. -/
def behindPackedName? (bs : List UInt8) : Option (List UInt8) :=
  match memberName bs with
  | some (k, rest) => if k = packedName then some rest else none
  | none => none

/-- The packed object behind its name. A text that cannot be read counts like a value of the wrong
type. -/
def readPacked (bs : List UInt8) : Except ReadError (Json × List UInt8) :=
  match skipBlank bs with
  | [] => .error .grammar
  | b :: rest =>
    if b = quote then do
      let (s, rest) ← orGrammar (unquote rest)
      match read? (Utf8.bytes s) with
      | none => throw .shape
      | some v =>
        match skipBlank rest with
        | [] => throw .grammar
        | b :: rest => if b = closeBrace then return (v, rest) else throw .grammar
    else .error (wrongType (b :: rest))

/-- As `Json.value`, with packed objects replaced as they are met. -/
def readValue (size : Nat) : Nat → List UInt8 → Except ReadError (Json × List UInt8)
  | 0, bs => orGrammar (scalar (skipBlank bs))
  | depth + 1, bs =>
    match skipBlank bs with
    | [] => .error .grammar
    | b :: rest =>
      if b = openBracket then
        (readList closeBracket (readValue size depth) size rest).map fun (vs, rest) =>
          (.arr vs, rest)
      else if b = openBrace then
        match behindPackedName? rest with
        | some rest => readPacked rest
        | none =>
          (readList closeBrace (readMember (readValue size depth)) size rest).map fun (ms, rest) =>
            (.obj ms, rest)
      else orGrammar (scalar (b :: rest))

/-! ## Fields -/

/-- The payload: an object, and nothing else. It is not packed itself. -/
def readBody (size : Nat) (bs : List UInt8) : Except ReadError (Json.Object × List UInt8) :=
  match skipBlank bs with
  | [] => .error .grammar
  | b :: rest =>
    if b = openBrace then
      (readList closeBrace (readMember (readValue size (maxDepth - 2))) size rest).map
        fun (ms, rest) => (.ofMembers ms, rest)
    else .error (wrongType (b :: rest))

/-- The lifetime: a signed 64-bit number, or null for none. -/
def readTtl (bs : List UInt8) : Except ReadError (Option Int64 × List UInt8) :=
  match skipBlank bs with
  | [] => .error .grammar
  | b :: rest =>
    if b = openBracket ∨ b = openBrace then .error .shape
    else do
      let (v, rest) ← orGrammar (scalar (b :: rest))
      match v with
      | .null => return (none, rest)
      | .int n =>
        if n.val < 9223372036854775808 then return (some (.ofInt n.val), rest) else throw .shape
      | _ => throw .shape

structure Fields where
  body : Option Json.Object := none
  ttlSeconds : Option (Option Int64) := none

def Fields.request (f : Fields) : IssueRequest where
  body := f.body.getD .empty
  ttlSeconds := f.ttlSeconds.getD none

def Fields.has (f : Fields) (name : String) : Bool :=
  (name == "body" && f.body.isSome) || (name == "ttl_seconds" && f.ttlSeconds.isSome)

def readField (size : Nat) (f : Fields) (name : String) (bs : List UInt8) :
    Except ReadError (Fields × List UInt8) :=
  if name == "body" then do
    let (o, rest) ← readBody size bs
    return ({ f with body := some o }, rest)
  else if name == "ttl_seconds" then do
    let (t, rest) ← readTtl bs
    return ({ f with ttlSeconds := some t }, rest)
  else do
    let rest ← orGrammar (passValue size bs)
    return (f, rest)

/-- A name; that it is there twice shows before its colon does. -/
def readName (f : Fields) (bs : List UInt8) : Except ReadError (String × List UInt8) :=
  match skipBlank bs with
  | [] => .error .grammar
  | b :: rest =>
    if b = quote then do
      let (name, rest) ← orGrammar (unquote rest)
      if f.has name then throw .shape
      match skipBlank rest with
      | [] => throw .grammar
      | b :: rest => if b = colon then return (name, rest) else throw .grammar
    else .error .grammar

/-- One member and those behind it, at most as many as the first argument says. -/
def readMembers (size : Nat) : Nat → Fields → List UInt8 → Except ReadError Fields
  | 0, _, _ => .error .grammar
  | more + 1, f, bs => do
    let (name, rest) ← readName f bs
    let (f, rest) ← readField size f name rest
    match skipBlank rest with
    | [] => throw .grammar
    | b :: rest =>
      if b = comma then readMembers size more f rest
      else if b = closeBrace then return f
      else throw .grammar

/-- The array behind its bracket: payload and lifetime, which may both be missing. -/
def readItems (size : Nat) (bs : List UInt8) : Except ReadError Fields :=
  match skipBlank bs with
  | [] => .error .grammar
  | b :: rest =>
    if b = closeBracket then .ok {}
    else do
      let (o, rest) ← readBody size (b :: rest)
      match skipBlank rest with
      | [] => throw .grammar
      | b :: rest =>
        if b = closeBracket then return { body := some o }
        else if b = comma then
          let (t, rest) ← readTtl rest
          match skipBlank rest with
          | [] => throw .grammar
          | b :: _ =>
            if b = closeBracket then return { body := some o, ttlSeconds := some t }
            else throw .grammar
        else throw .grammar

/-- The request that a text spells, as an object or as an array. -/
def read (text : List UInt8) : Except ReadError IssueRequest :=
  let size := text.length
  match skipBlank text with
  | [] => .error .grammar
  | b :: rest =>
    if b = openBrace then
      match skipBlank rest with
      | [] => .error .grammar
      | b :: rest =>
        if b = closeBrace then .ok {}
        else (readMembers size size {} (b :: rest)).map Fields.request
    else if b = openBracket then (readItems size rest).map Fields.request
    else .error (wrongType (b :: rest))

end IssueRequest

end SignedToken
