import SignedToken.Http
import SignedToken.Token.Error

/-!
# Refused requests

Why a request could not be authenticated, and how that is answered.
-/

namespace SignedToken

inductive AuthRejection where
  | missingAuthorization
  | invalidAuthorization
  | token (e : TokenError)
deriving DecidableEq, Repr

/-- Whether the message ends in a diagnosis whose wording is left open. -/
def TokenError.isOpenEnded : TokenError → Bool
  | .malformed detail => detail == JwtError.json.message
  | .signing e | .jwt e => e == .json
  | _ => false

namespace AuthRejection

def message : AuthRejection → String
  | .missingAuthorization => "authorization header missing"
  | .invalidAuthorization => "authorization header malformed"
  | .token e => e.message

/-- Errors of the local setup are the server's fault, all others the client's. -/
def status : AuthRejection → Nat
  | .missingAuthorization | .invalidAuthorization => 401
  | .token e => if e.isConfiguration then 500 else 401

def code : AuthRejection → String
  | .missingAuthorization | .invalidAuthorization => "AUTH_HEADER"
  | .token e =>
    if e.isConfiguration then "AUTH_CONFIG"
    else if e = .expired then "AUTH_EXPIRED"
    else "AUTH_TOKEN"

def isOpenEnded : AuthRejection → Bool
  | .token e => e.isOpenEnded
  | _ => false

def response (r : AuthRejection) : Response :=
  .failure r.status r.code r.message r.isOpenEnded

end AuthRejection

end SignedToken
