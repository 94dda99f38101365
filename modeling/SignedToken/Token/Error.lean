import SignedToken.Bytes.Base64Url
import SignedToken.Bytes.Utf8

/-!
# Errors

`JwtError` is what can go wrong with a token in the terms of its format, `TokenError` every way in
which building, signing or verifying one can fail.
-/

namespace SignedToken

/-! ## In the terms of the format -/

inductive JwtError where
  | invalidToken
  | invalidSignature
  | invalidEcdsaKey
  | invalidRsaKey (reason : String)
  | rsaFailedSigning
  | invalidAlgorithmName
  | invalidKeyFormat
  | missingRequiredClaim (name : String)
  | expiredSignature
  | invalidIssuer
  | invalidAudience
  | invalidSubject
  | immatureSignature
  | invalidAlgorithm
  | missingAlgorithm
  | base64 (e : Base64Url.DecodeError)
  /-- A text that is not what was to be read. Its diagnosis is open. -/
  | json
  | utf8 (e : Utf8.DecodeError)
  | crypto
deriving DecidableEq, Repr

def JwtError.message : JwtError → String
  | .invalidToken => "InvalidToken"
  | .invalidSignature => "InvalidSignature"
  | .invalidEcdsaKey => "InvalidEcdsaKey"
  | .invalidRsaKey reason => "RSA key invalid: " ++ reason
  | .rsaFailedSigning => "RsaFailedSigning"
  | .invalidAlgorithmName => "InvalidAlgorithmName"
  | .invalidKeyFormat => "InvalidKeyFormat"
  | .missingRequiredClaim name => "Missing required claim: " ++ name
  | .expiredSignature => "ExpiredSignature"
  | .invalidIssuer => "InvalidIssuer"
  | .invalidAudience => "InvalidAudience"
  | .invalidSubject => "InvalidSubject"
  | .immatureSignature => "ImmatureSignature"
  | .invalidAlgorithm => "InvalidAlgorithm"
  | .missingAlgorithm => "MissingAlgorithm"
  | .base64 e => "Base64 error: " ++ e.message
  | .json => "JSON error"
  | .utf8 e => "UTF-8 error: " ++ e.message
  | .crypto => "Crypto error: ring::error::Unspecified"

/-! ## In the terms of this library -/

inductive TokenError where
  | missingKey
  | malformed (detail : String)
  | unverifiable (detail : String)
  | signatureInvalid
  | audience
  | expired
  | issuedAt
  | issuer
  | notValidYet
  | id
  | claimsInvalid (detail : String)
  | signing (e : JwtError)
  /-- An error of the format that has no name of its own here. -/
  | jwt (e : JwtError)
deriving DecidableEq, Repr

namespace TokenError

def message : TokenError → String
  | .missingKey => "token signing key is missing"
  | .malformed detail => "token is malformed: " ++ detail
  | .unverifiable detail => "token could not be verified: " ++ detail
  | .signatureInvalid => "token signature is invalid"
  | .audience => "token audience is invalid"
  | .expired => "token has expired"
  | .issuedAt => "token used before it was issued"
  | .issuer => "token issuer is invalid"
  | .notValidYet => "token is not valid yet"
  | .id => "token id is missing"
  | .claimsInvalid detail => "token claims are invalid: " ++ detail
  | .signing e => "failed to sign token: " ++ e.message
  | .jwt e => e.message

def isConfiguration : TokenError → Bool
  | .missingKey | .signing _ => true
  | _ => false

def ofJwt (e : JwtError) : TokenError :=
  match e with
  | .invalidToken | .base64 _ | .json | .utf8 _ => .malformed e.message
  | .invalidSignature => .signatureInvalid
  | .invalidAlgorithm | .missingAlgorithm | .invalidAlgorithmName | .invalidKeyFormat
  | .invalidEcdsaKey | .invalidRsaKey _ | .crypto => .unverifiable e.message
  | .invalidAudience => .audience
  | .expiredSignature => .expired
  | .invalidIssuer => .issuer
  | .immatureSignature => .notValidYet
  | .invalidSubject | .missingRequiredClaim _ => .claimsInvalid e.message
  | .rsaFailedSigning => .jwt e

end TokenError

end SignedToken
