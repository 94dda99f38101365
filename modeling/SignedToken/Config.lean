import SignedToken.Algorithm
import SignedToken.Bytes.Utf8
import SignedToken.Claims.Basic
import SignedToken.Text.Blank
import SignedToken.Text.Case
import SignedToken.Text.Inspect
import SignedToken.Text.Integer

/-!
# Configuration

What a service issues and accepts, and how it is read from environment variables. Variables are
checked in a fixed order, and the first bad one is reported.
-/

namespace SignedToken

structure Config where
  secret : List UInt8
  algorithm : Algorithm := .hs256
  issuer : String := StandardClaims.defaultIssuer
  audience : String := StandardClaims.defaultAudience
  lifetime : Duration := StandardClaims.defaultLifetime
  leewaySeconds : UInt32 := 0
  enforceAudience : Bool := false
  enforceIssuer : Bool := false

inductive ConfigError where
  | missing (name : String)
  | invalid (name value : String)
deriving DecidableEq, Repr

def ConfigError.message : ConfigError → String
  | .missing name => name ++ " must be set"
  | .invalid name value => "invalid value '" ++ value ++ "' for " ++ name

namespace Config

/-- Writes `issuer` and `audience` into new tokens and refuses all others. -/
def enforcing (c : Config) (issuer audience : String) : Config :=
  { c with issuer, audience, enforceIssuer := true, enforceAudience := true }

/-! ## Variables -/

/-- The value of a variable without the blanks around it, unless nothing is left. -/
def trimmed? (value : Option String) : Option String :=
  (value.map Text.trim).filter (· ≠ "")

def signingAlgorithm? (value : String) : Option Algorithm :=
  (Algorithm.ofName? (Text.upper value)).filter fun a => a.hmac?.isSome

/-- A positive number of seconds that a duration can hold. -/
def lifetime? (value : String) : Option Duration :=
  match Text.signed64? (Text.trimChars value.toList) with
  | some n => if 0 < n then Duration.ofSeconds? n else none
  | none => none

def leeway? (value : String) : Option UInt32 :=
  (Text.natural? 4294967295 (Text.trimChars value.toList)).map .ofNat

/-- Whether a switch is on; an unset one is off, and so is one that says anything else. -/
def isOn (value : Option String) : Bool :=
  value.any fun v => ["1", "true", "yes", "on"].contains (Text.lower (Text.trim v))

/-- What `read` makes of a variable; `otherwise` if it is unset, an error if it is refused. -/
def setting {α : Type} (name : String) (value : Option String) (read : String → Option α)
    (otherwise : α) : Except ConfigError α :=
  match value with
  | none => .ok otherwise
  | some v =>
    match read v with
    | some a => .ok a
    | none => .error (.invalid name v)

def ofVariables (lookup : String → Option String) : Except ConfigError Config := do
  let secret ← (trimmed? (lookup "TOKEN_SECRET")).elim (throw (.missing "TOKEN_SECRET")) pure
  let algorithm ←
    setting "TOKEN_ALGORITHM" (trimmed? (lookup "TOKEN_ALGORITHM")) signingAlgorithm? .hs256
  let lifetime ← setting "TOKEN_TTL_SECONDS" (lookup "TOKEN_TTL_SECONDS") lifetime?
    StandardClaims.defaultLifetime
  let leewaySeconds ← setting "TOKEN_LEEWAY_SECONDS" (lookup "TOKEN_LEEWAY_SECONDS") leeway? 0
  return {
    secret := Utf8.bytes secret
    algorithm
    issuer := (trimmed? (lookup "TOKEN_ISSUER")).getD StandardClaims.defaultIssuer
    audience := (trimmed? (lookup "TOKEN_AUDIENCE")).getD StandardClaims.defaultAudience
    lifetime
    leewaySeconds
    enforceAudience := isOn (lookup "TOKEN_ENFORCE_AUDIENCE")
    enforceIssuer := isOn (lookup "TOKEN_ENFORCE_ISSUER")
  }

end Config

end SignedToken
