import SignedToken.Claims.Basic
import SignedToken.Json.Outline

/-!
# Reading claims

Claims are read from a JSON value or straight from a text. Names other than the eight known ones
are passed over. In a value each name occurs once; in a text a known name may not occur twice.
-/

namespace SignedToken

/-! ## From a value -/

inductive ClaimsFault where
  | notAnObject
  | mismatch (m : Json.Mismatch)

def ClaimsFault.message : ClaimsFault → String
  | .notAnObject => "claims payload is not a JSON object"
  | .mismatch m => m.message

namespace Claims

/-- A text claim; it may be missing, but not null. -/
def textClaim (o : Json.Object) (name : String) : Except Json.Mismatch String :=
  match o.get? name with
  | none => .ok ""
  | some v => v.asText?

def timeClaim (o : Json.Object) (name : String) : Except Json.Mismatch Int64 :=
  match o.get? name with
  | none => .ok 0
  | some v => v.asInt64?

/-- The caller's payload; missing or null it is empty. It is not packed itself, but its entries may
be. -/
def bodyClaim (o : Json.Object) : Except Json.Mismatch Json.Object :=
  match o.get? "body" with
  | none | some .null => .ok .empty
  | some (.obj members) => (Json.asMembers? members).map .ofMembers
  | some v => .error (.type v .map)

/-- The registered claims are checked by their names in order. -/
def standardOfObject? (o : Json.Object) : Except Json.Mismatch StandardClaims := do
  let audience ← textClaim o "aud"
  let expiresAt ← timeClaim o "exp"
  let issuedAt ← timeClaim o "iat"
  let issuer ← textClaim o "iss"
  let id ← textClaim o "jti"
  let notBefore ← timeClaim o "nbf"
  let subject ← textClaim o "sub"
  return { audience, expiresAt, id, issuedAt, issuer, notBefore, subject }

/-- The payload is checked first. -/
def ofObject? (o : Json.Object) : Except Json.Mismatch Claims := do
  let body ← bodyClaim o
  let standard ← standardOfObject? o
  return { body, standard }

def ofJson? : Json → Except ClaimsFault Claims
  | .obj members =>
    match ofObject? (.ofMembers members) with
    | .ok c => .ok c
    | .error m => .error (.mismatch m)
  | _ => .error .notAnObject

/-! ## From a text -/

def registeredNames : List String := ["aud", "exp", "jti", "iat", "iss", "nbf", "sub"]

def eachAtMostOnce (names : List String) (members : List (String × Json)) : Bool :=
  names.all fun name => members.countP (·.1 == name) ≤ 1

/-- The caller's payload as it is spelled, packed entries replaced. -/
def spelledBody? (members : List (String × Json)) : Option Json.Object :=
  match members.lookup "body" with
  | none | some .null => some .empty
  | some (.obj entries) => (Json.unpackMembers? entries).map .ofMembers
  | some _ => none

def read? (text : List UInt8) : Option Claims :=
  match Json.spelled? text with
  | some (.obj members) =>
    if eachAtMostOnce ("body" :: registeredNames) members then do
      let body ← spelledBody? members
      let standard ← (standardOfObject? (.ofMembers members)).toOption
      return { body, standard }
    else none
  | _ => none

end Claims

/-- The registered claims that a text spells, as an object or as an array of up to seven values in
the order of the wire. -/
def StandardClaims.read? (text : List UInt8) : Option StandardClaims := do
  let o ← Json.outline? text
  let textField (position : Nat) (name : String) : Option String :=
    o.field? position name (some "") fun v => v.asText?.toOption
  let timeField (position : Nat) (name : String) : Option Int64 :=
    o.field? position name (some 0) fun v => v.asInt64?.toOption
  let audience ← textField 0 "aud"
  let expiresAt ← timeField 1 "exp"
  let id ← textField 2 "jti"
  let issuedAt ← timeField 3 "iat"
  let issuer ← textField 4 "iss"
  let notBefore ← timeField 5 "nbf"
  let subject ← textField 6 "sub"
  if o.hasAtMost 7 then
    return { audience, expiresAt, id, issuedAt, issuer, notBefore, subject }
  else none

end SignedToken
