import SignedToken.Json.Mismatch
import SignedToken.Time.Calendar

/-!
# Claims

What a token says: the caller's own payload, and the seven registered claims. A registered claim
that is an empty text or the second 0 is unset and is not written.
-/

namespace SignedToken

/-! ## Registered claims -/

/-- The registered claims; times are seconds since the start of 1970. -/
structure StandardClaims where
  audience : String := ""
  expiresAt : Int64 := 0
  id : String := ""
  issuedAt : Int64 := 0
  issuer : String := ""
  notBefore : Int64 := 0
  subject : String := ""
deriving DecidableEq, Inhabited

namespace StandardClaims

def defaultAudience : String := "server"

def defaultIssuer : String := "app"

def defaultSubject : String := "authentication token"

def defaultLifetime : Duration := ⟨604800 * second, by decide, by decide⟩

/-- The claims of a token issued at `now` with nothing else said about it. -/
def issuedNow (now : Instant) (id : String) : StandardClaims where
  audience := defaultAudience
  expiresAt := (now.later defaultLifetime).timestamp
  id := id
  issuedAt := now.timestamp
  issuer := defaultIssuer
  notBefore := now.timestamp
  subject := defaultSubject

/-- The instant that a time claim names: none if it is unset or outside the calendar. -/
def instantOf? (seconds : Int64) : Option Instant :=
  if seconds = 0 then none else Instant.ofSeconds? seconds.toInt

def expiryInstant? (c : StandardClaims) : Option Instant := instantOf? c.expiresAt

def issueInstant? (c : StandardClaims) : Option Instant := instantOf? c.issuedAt

def startInstant? (c : StandardClaims) : Option Instant := instantOf? c.notBefore

end StandardClaims

/-! ## Claims -/

structure Claims where
  body : Json.Object := .empty
  standard : StandardClaims := {}

def Claims.get? (c : Claims) (name : String) : Option Json := c.body.get? name

/-! ## Writing -/

def Json.ofInt64 (n : Int64) : Json :=
  .int ⟨n.toInt, Int64.le_toInt n, by have := Int64.toInt_lt n; omega⟩

namespace StandardClaims

def textMember (name value : String) : List (String × Json) :=
  if value = "" then [] else [(name, .str value)]

def timeMember (name : String) (value : Int64) : List (String × Json) :=
  if value = 0 then [] else [(name, Json.ofInt64 value)]

/-- The claims that are set, in the order of the wire. -/
def members (c : StandardClaims) : List (String × Json) :=
  textMember "aud" c.audience ++ timeMember "exp" c.expiresAt ++ textMember "jti" c.id
    ++ timeMember "iat" c.issuedAt ++ textMember "iss" c.issuer ++ timeMember "nbf" c.notBefore
    ++ textMember "sub" c.subject

def toJson (c : StandardClaims) : Json := .obj c.members

end StandardClaims

/-- The payload comes first and is always there. -/
def Claims.toJson (c : Claims) : Json := .obj (("body", c.body.toJson) :: c.standard.members)

end SignedToken
