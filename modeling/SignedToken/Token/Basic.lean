import SignedToken.Claims.Reading
import SignedToken.Digest.Hmac
import SignedToken.Text.Inspect
import SignedToken.Token.Compact
import SignedToken.Token.Error
import SignedToken.Token.Header
import SignedToken.Token.Payload

/-!
# Tokens

A `Token` holds a key, an algorithm, claims and expectations. It signs its own claims with
`create`, and it verifies the texts of others with `parse`, for which it only needs its key and its
expectations.
-/

namespace SignedToken

/-- What is checked of a token besides its signature. Only what is set is asked for. -/
structure Expectations where
  audience : Option String := none
  issuer : Option String := none
  requireId : Bool := false
  /-- Clock skew that is let pass on each of the times. -/
  leewaySeconds : UInt32 := 0
  skipIssuedAt : Bool := false
deriving DecidableEq, Inhabited

structure Token where
  key : List UInt8
  key_ne_nil : key ≠ []
  algorithm : Algorithm
  claims : Claims
  expectations : Expectations

/-- A token that was read. It is valid only if it was verified. -/
structure ParsedToken where
  header : Header
  claims : Claims
  signature : String
  valid : Bool

structure Rejection where
  error : TokenError
  handle : Option ParsedToken

namespace Token

/-! ## Signing -/

/-- The signature segment of a message. Without the private key that they need, the algorithms
outside the HMAC family cannot sign. -/
def sign (key : List UInt8) (algorithm : Algorithm) (message : List Char) :
    Except JwtError (List Char) :=
  match algorithm.hmac? with
  | some size => .ok (Base64Url.encode (Hmac.code size key (Utf8.encode message)))
  | none =>
    if algorithm.isElliptic then .error .invalidEcdsaKey
    else .error (.invalidRsaKey "InvalidEncoding")

def create (t : Token) : Except TokenError String :=
  let message :=
    Compact.messageOf (Header.ofAlgorithm t.algorithm).toJson.segment t.claims.toJson.segment
  match sign t.key t.algorithm message with
  | .ok signature => .ok (String.ofList (message ++ '.' :: signature))
  | .error e => .error (.signing e)

/-! ## Verifying -/

/-- The header of a text whose signature was made with the key. -/
def authenticate (key : List UInt8) (c : Compact) : Except JwtError Header := do
  let bytes ← (decodeSegment c.header).mapError JwtError.base64
  let header ← (Header.readStrictly? bytes).elim (throw .json) pure
  match header.algorithm.hmac? with
  | none => throw .invalidAlgorithm
  | some size =>
    if c.signature = Base64Url.encode (Hmac.code size key (Utf8.encode c.message)) then
      return header
    else throw .invalidSignature

/-- The value of a payload segment whose parties meet the expectations. The parties are those that
the text spells. -/
def acceptPayload (expected : Expectations) (payload : List Char) : Except JwtError Json := do
  let bytes ← (decodeSegment payload).mapError JwtError.base64
  let value ← (Json.read? bytes).elim (throw .json) pure
  let naming ← ((Json.spelled? bytes).bind Naming.ofPayload?).elim (throw .json) pure
  if !Naming.agrees expected.issuer naming.issuer then throw .invalidIssuer
  if !Naming.agrees expected.audience naming.audience then throw .invalidAudience
  return value

/-- The checks on times and id. A time that is 0 is unset and not checked. The leeway cannot lead
out of the range of 64 bits. -/
def checkClaims (expected : Expectations) (now : Instant) (c : StandardClaims) :
    Except TokenError Unit := do
  let leeway : Int := expected.leewaySeconds.toNat
  let earliest := nearest64 (now.timestamp.toInt - leeway)
  let latest := nearest64 (now.timestamp.toInt + leeway)
  if c.expiresAt ≠ 0 ∧ c.expiresAt < earliest then throw .expired
  if c.notBefore ≠ 0 ∧ latest < c.notBefore then throw .notValidYet
  if expected.skipIssuedAt = false ∧ c.issuedAt ≠ 0 ∧ latest < c.issuedAt then throw .issuedAt
  if expected.requireId ∧ c.id = "" then throw .id

def check (t : Token) (now : Instant) (text : String) : Except TokenError ParsedToken := do
  let c ← (Compact.split? text).elim (throw (.ofJwt .invalidToken)) pure
  let header ← (authenticate t.key c).mapError TokenError.ofJwt
  let value ← (acceptPayload t.expectations c.payload).mapError TokenError.ofJwt
  let claims ← (Claims.ofJson? value).mapError fun fault => TokenError.claimsInvalid fault.message
  checkClaims t.expectations now claims.standard
  return { header, claims, signature := String.ofList c.signature, valid := true }

end Token

/-- What a text says, with nothing verified. There have to be just three segments. -/
def ParsedToken.unverified? (text : String) : Option ParsedToken := do
  let c ← Compact.split? text
  if !c.hasThreeSegments then none
  let headerBytes ← (decodeSegment c.header).toOption
  let header ← Header.read? headerBytes
  let payloadBytes ← (decodeSegment c.payload).toOption
  let value ← Json.read? payloadBytes
  let claims ← (Claims.ofJson? value).toOption
  return { header, claims, signature := String.ofList c.signature, valid := false }

namespace Token

/-- The verified token, or the reason for refusing it. -/
def parse (t : Token) (now : Instant) (text : String) : Except Rejection ParsedToken :=
  match t.check now text with
  | .ok p => .ok p
  | .error error => .error { error, handle := ParsedToken.unverified? text }

def verify (t : Token) (now : Instant) (text : String) : Except TokenError Claims :=
  match t.parse now text with
  | .ok p => .ok p.claims
  | .error r => .error r.error

end Token

end SignedToken
