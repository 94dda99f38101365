import SignedToken.Config
import SignedToken.Token.Basic

/-!
# Drafts

A draft gathers settings, of which later ones win, until `build` makes a token of it. What is left
open is filled in then: times from the draft's clock, which is the wall clock unless one was set,
and the id from a generator. `σ` is the state of the source that the generator draws from.
-/

namespace SignedToken

structure Draft (σ : Type) where
  key : List UInt8 := []
  algorithm : Algorithm := .hs256
  body : Json.Object := .empty
  audience : String := StandardClaims.defaultAudience
  issuer : String := StandardClaims.defaultIssuer
  subject : String := StandardClaims.defaultSubject
  id : Option String := none
  issuedAt : Option Int64 := none
  notBefore : Option Int64 := none
  expiresAt : Option Int64 := none
  clock : Option Instant := none
  generate : σ → String × σ
  expectations : Expectations := {}

inductive Setting (σ : Type) where
  | key (bytes : List UInt8)
  | algorithm (a : Algorithm)
  | body (o : Json.Object)
  | bodyEntry (name : String) (value : Json)
  /-- The lifetime, from the draft's present clock on. -/
  | lifetime (d : Duration)
  | expiresAt (t : Instant)
  | notBefore (t : Instant)
  | issuedAt (t : Instant)
  /-- All registered claims at once, the id included. -/
  | claims (c : StandardClaims)
  | audience (s : String)
  | issuer (s : String)
  | subject (s : String)
  | id (s : String)
  | clock (t : Instant)
  | generator (generate : σ → String × σ)
  | expectAudience (s : String)
  | expectIssuer (s : String)
  | requireId
  | leeway (seconds : UInt32)
  | skipIssuedAt

namespace Draft

variable {σ : Type}

/-- What the draft takes for the present, `wall` being the wall clock. -/
def now (d : Draft σ) (wall : Instant) : Instant := d.clock.getD wall

def set (d : Draft σ) (wall : Instant) : Setting σ → Draft σ
  | .key bytes => { d with key := bytes }
  | .algorithm a => { d with algorithm := a }
  | .body o => { d with body := o }
  | .bodyEntry name value => { d with body := d.body.insert name value }
  | .lifetime l => { d with expiresAt := some ((d.now wall).later l).timestamp }
  | .expiresAt t => { d with expiresAt := some t.timestamp }
  | .notBefore t => { d with notBefore := some t.timestamp }
  | .issuedAt t => { d with issuedAt := some t.timestamp }
  | .claims c =>
    { d with
      audience := c.audience, issuer := c.issuer, subject := c.subject, id := some c.id
      issuedAt := some c.issuedAt, notBefore := some c.notBefore, expiresAt := some c.expiresAt }
  | .audience s => { d with audience := s }
  | .issuer s => { d with issuer := s }
  | .subject s => { d with subject := s }
  | .id s => { d with id := some s }
  | .clock t => { d with clock := some t }
  | .generator g => { d with generate := g }
  | .expectAudience s => { d with expectations := { d.expectations with audience := some s } }
  | .expectIssuer s => { d with expectations := { d.expectations with issuer := some s } }
  | .requireId => { d with expectations := { d.expectations with requireId := true } }
  | .leeway seconds => { d with expectations := { d.expectations with leewaySeconds := seconds } }
  | .skipIssuedAt => { d with expectations := { d.expectations with skipIssuedAt := true } }

def setAll (d : Draft σ) (wall : Instant) (settings : List (Setting σ)) : Draft σ :=
  settings.foldl (fun d s => d.set wall s) d

def configSettings (c : Config) : List (Setting σ) :=
  [.key c.secret, .algorithm c.algorithm, .issuer c.issuer, .audience c.audience,
    .lifetime c.lifetime, .leeway c.leewaySeconds]
  ++ (if c.enforceAudience then [.expectAudience c.audience] else [])
  ++ (if c.enforceIssuer then [.expectIssuer c.issuer] else [])

def ofConfig (wall : Instant) (generate : σ → String × σ) (c : Config) : Draft σ :=
  ({ generate } : Draft σ).setAll wall (configSettings c)

def resolveId (d : Draft σ) (s : σ) : String × σ :=
  match d.id with
  | some id => (id, s)
  | none => d.generate s

/-- The token of the draft, and the state of the source of ids afterwards. Only a missing key is
an error, and nothing is drawn then. -/
def build (d : Draft σ) (wall : Instant) (s : σ) : Except TokenError (Token × σ) :=
  if h : d.key ≠ [] then
    let now := d.now wall
    let (id, s) := d.resolveId s
    let standard : StandardClaims := {
      audience := d.audience
      expiresAt := d.expiresAt.getD (now.later StandardClaims.defaultLifetime).timestamp
      id
      issuedAt := d.issuedAt.getD now.timestamp
      issuer := d.issuer
      notBefore := d.notBefore.getD now.timestamp
      subject := d.subject
    }
    .ok (⟨d.key, h, d.algorithm, { body := d.body, standard }, d.expectations⟩, s)
  else .error .missingKey

end Draft

end SignedToken
