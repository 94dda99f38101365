import SignedToken.Draft

/-!
# Drafts of a configuration

What a configuration makes of a fresh draft, and what the token built of it has.
-/

namespace SignedToken

variable {σ : Type}

def Config.expectations (c : Config) : Expectations where
  audience := if c.enforceAudience then some c.audience else none
  issuer := if c.enforceIssuer then some c.issuer else none
  leewaySeconds := c.leewaySeconds

namespace Draft

theorem ofConfig_eq (wall : Instant) (generate : σ → String × σ) (c : Config) :
    ofConfig wall generate c = {
      key := c.secret
      algorithm := c.algorithm
      audience := c.audience
      issuer := c.issuer
      expiresAt := some (wall.later c.lifetime).timestamp
      generate
      expectations := c.expectations } := by
  obtain ⟨secret, algorithm, issuer, audience, lifetime, leeway, enforceAudience, enforceIssuer⟩ := c
  cases enforceAudience <;> cases enforceIssuer <;> rfl

def token (d : Draft σ) (h : d.key ≠ []) (wall : Instant) (id : String) : Token where
  key := d.key
  key_ne_nil := h
  algorithm := d.algorithm
  claims := {
    body := d.body
    standard := {
      audience := d.audience
      expiresAt := d.expiresAt.getD ((d.now wall).later StandardClaims.defaultLifetime).timestamp
      id
      issuedAt := d.issuedAt.getD (d.now wall).timestamp
      issuer := d.issuer
      notBefore := d.notBefore.getD (d.now wall).timestamp
      subject := d.subject } }
  expectations := d.expectations

theorem build_of_key {d : Draft σ} (h : d.key ≠ []) (wall : Instant) (s : σ) :
    d.build wall s = .ok (d.token h wall (d.resolveId s).1, (d.resolveId s).2) := by
  rw [build, dif_pos h]
  rfl

theorem build_of_key_eq_nil {d : Draft σ} (h : d.key = []) (wall : Instant) (s : σ) :
    d.build wall s = .error .missingKey := by
  rw [build, dif_neg (fun hne => hne h)]

/-- With a secret, the draft of a configuration becomes a verifier of it, at the price of an id. -/
theorem exists_build_ofConfig {c : Config} (h : c.secret ≠ []) (wall : Instant)
    (generate : σ → String × σ) (s : σ) :
    ∃ t : Token, t.key = c.secret ∧ t.expectations = c.expectations
      ∧ (ofConfig wall generate c).build wall s = .ok (t, (generate s).2) := by
  rw [ofConfig_eq, build_of_key h]
  exact ⟨_, rfl, rfl, rfl⟩

end Draft

end SignedToken
