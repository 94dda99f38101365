import SignedToken.Authentication.Bearer
import SignedToken.Authentication.Rejection
import SignedToken.Draft

/-!
# Authenticated requests

The claims behind a request, from the token that its authorization header presents.
-/

namespace SignedToken

structure TokenContext where
  claims : Claims
  token : String

namespace TokenContext

def body (c : TokenContext) : Json.Object := c.claims.body

def get? (c : TokenContext) (name : String) : Option Json := c.claims.get? name

def presented? (headers : List (String × List UInt8)) : Except AuthRejection String :=
  match Http.header? headers "authorization" with
  | none => .error .missingAuthorization
  | some value =>
    match Bearer.token? value with
    | none => .error .invalidAuthorization
    | some token => .ok token

/-- Verifies the token presented. The verifier is made of a draft of the configuration, which draws
an id like any other: the state of the source of ids is returned in every case. -/
def ofHeaders {σ : Type} (config : Config) (generate : σ → String × σ) (now : Instant) (s : σ)
    (headers : List (String × List UInt8)) : Except AuthRejection TokenContext × σ :=
  match presented? headers with
  | .error r => (.error r, s)
  | .ok token =>
    match (Draft.ofConfig now generate config).build now s with
    | .error e => (.error (.token e), s)
    | .ok (verifier, s) =>
      match verifier.verify now token with
      | .error e => (.error (.token e), s)
      | .ok claims => (.ok { claims, token }, s)

end TokenContext

end SignedToken
