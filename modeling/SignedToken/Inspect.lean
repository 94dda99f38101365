import SignedToken.Draft
import SignedToken.Json.Inspect

/-!
# Tokens as a developer sees them

Records of this library with all of their fields but the secret ones.
-/

namespace SignedToken

open Text (inspectRecord inspectOption inspectBool quoted redacted)

def StandardClaims.inspect (c : StandardClaims) : String :=
  inspectRecord "StandardClaims" [
    ("audience", quoted c.audience), ("expires_at", toString c.expiresAt.toInt),
    ("id", quoted c.id), ("issued_at", toString c.issuedAt.toInt), ("issuer", quoted c.issuer),
    ("not_before", toString c.notBefore.toInt), ("subject", quoted c.subject)] true

def Claims.inspect (c : Claims) : String :=
  inspectRecord "Claims" [("body", c.body.inspect), ("standard", c.standard.inspect)] true

def Expectations.inspect (e : Expectations) : String :=
  inspectRecord "Expectations" [
    ("audience", inspectOption (e.audience.map quoted)),
    ("issuer", inspectOption (e.issuer.map quoted)), ("require_id", inspectBool e.requireId),
    ("leeway_seconds", toString e.leewaySeconds.toNat),
    ("skip_issued_at", inspectBool e.skipIssuedAt)] true

def Token.inspect (t : Token) : String :=
  inspectRecord "Token" [
    ("key", redacted), ("algorithm", t.algorithm.name), ("claims", t.claims.inspect),
    ("expectations", t.expectations.inspect)] true

/-- Of the open settings only the id and the clock are shown. -/
def Draft.inspect {σ : Type} (d : Draft σ) : String :=
  inspectRecord "TokenBuilder" [
    ("algorithm", d.algorithm.name), ("body", d.body.inspect), ("audience", quoted d.audience),
    ("issuer", quoted d.issuer), ("subject", quoted d.subject),
    ("id", inspectOption (d.id.map quoted)), ("clock", inspectOption (d.clock.map Instant.text))]
    false

/-- Whole seconds toward the past, and the nanoseconds from there on. -/
def Duration.inspect (d : Duration) : String :=
  inspectRecord "TimeDelta" [
    ("secs", toString (d.nanoseconds / second)), ("nanos", toString (d.nanoseconds % second))] true

def Config.inspect (c : Config) : String :=
  inspectRecord "TokenConfig" [
    ("secret", redacted), ("algorithm", c.algorithm.name), ("issuer", quoted c.issuer),
    ("audience", quoted c.audience), ("ttl", c.lifetime.inspect),
    ("leeway_seconds", toString c.leewaySeconds.toNat),
    ("enforce_audience", inspectBool c.enforceAudience),
    ("enforce_issuer", inspectBool c.enforceIssuer)] true

end SignedToken
