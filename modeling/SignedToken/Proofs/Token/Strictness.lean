import SignedToken.Proofs.Token.RoundTrip

/-!
# Strict and lax verifiers

Of two verifiers with one key, the one that asks for more accepts less, and of what it accepts it
says the same.
-/

namespace SignedToken

/-! ## Asking for more -/

/-- Whatever `lax` asks for, `strict` asks for as well, and it lets no more time pass. -/
structure Expectations.IsAsStrictAs (strict lax : Expectations) : Prop where
  audience : ∀ a, lax.audience = some a → strict.audience = some a
  issuer : ∀ i, lax.issuer = some i → strict.issuer = some i
  requireId : lax.requireId = true → strict.requireId = true
  issuedAt : lax.skipIssuedAt = false → strict.skipIssuedAt = false
  leeway : strict.leewaySeconds ≤ lax.leewaySeconds

theorem Naming.agrees_of_stricter {strict lax : Option String} {value : Option Json}
    (hstrict : ∀ e, lax = some e → strict = some e) (h : agrees strict value = true) :
    agrees lax value = true := by
  cases lax with
  | none => rfl
  | some e =>
    rw [hstrict e rfl] at h
    exact h

section
variable {strict lax : Expectations} (hstrict : strict.IsAsStrictAs lax)
include hstrict

theorem Token.acceptPayload_of_stricter {payload : List Char} {v : Json}
    (h : acceptPayload strict payload = .ok v) : acceptPayload lax payload = .ok v := by
  obtain ⟨hread, w, n, hw, hn, hissuer, haudience⟩ := acceptPayload_eq_ok_iff.1 h
  exact acceptPayload_eq_ok_iff.2 ⟨hread, w, n, hw, hn,
    Naming.agrees_of_stricter hstrict.issuer hissuer,
    Naming.agrees_of_stricter hstrict.audience haudience⟩

/-- A smaller leeway makes the time in which a token passes shorter at both ends. -/
theorem StandardClaims.PassAt.of_stricter {c : StandardClaims} {now : Instant}
    (h : c.PassAt strict now) : c.PassAt lax now := by
  have hleeway : strict.leewaySeconds.toNat ≤ lax.leewaySeconds.toNat :=
    UInt32.le_iff_toNat_le.1 hstrict.leeway
  constructor
  · intro hset
    have := h.expiry hset
    omega
  · intro hset
    have := h.start hset
    omega
  · intro hskip hset
    have := h.issue (hstrict.issuedAt hskip) hset
    omega
  · intro hrequired
    exact h.id (hstrict.requireId hrequired)

end

namespace Token

/-- What a verifier accepts, every other one with its key that asks for no more accepts as well, and
both return the same. -/
theorem parse_of_stricter {strict lax : Token} (hkey : strict.key = lax.key)
    (hstrict : strict.expectations.IsAsStrictAs lax.expectations) {now : Instant} {text : String}
    {p : ParsedToken} (h : strict.parse now text = .ok p) : lax.parse now text = .ok p := by
  rw [parse_eq_ok_iff_check, check_eq_ok_iff] at h ⊢
  obtain ⟨c, hc, ⟨hheader, hsigned⟩, ⟨v, haccept, hclaims⟩, hpass, hrest⟩ := h
  rw [hkey] at hsigned
  exact ⟨c, hc, ⟨hheader, hsigned⟩, ⟨v, acceptPayload_of_stricter hstrict haccept, hclaims⟩,
    hpass.of_stricter hstrict, hrest⟩

/-- A verifier like that of the sample that expects only the issuer and lets more time pass. -/
def laxVerifier : Token where
  key := [0x6B]
  key_ne_nil := by simp
  algorithm := .hs512
  claims := {}
  expectations := { issuer := some "app", leewaySeconds := 60, skipIssuedAt := true }

theorem parse_of_stricter_sample :
    ∃ (now : Instant) (signed : String) (p : ParsedToken), sample.create = .ok signed
      ∧ sampleVerifier.expectations.IsAsStrictAs laxVerifier.expectations
      ∧ sampleVerifier.parse now signed = .ok p ∧ laxVerifier.parse now signed = .ok p := by
  have hkey : sampleVerifier.key = laxVerifier.key := rfl
  have hstrict : sampleVerifier.expectations.IsAsStrictAs laxVerifier.expectations := by
    constructor <;> simp [sampleVerifier, laxVerifier]
  obtain ⟨signature, hsigned⟩ : ∃ signature,
      IsSignature sample.key sample.algorithm sample.message signature :=
    exists_isSignature (by simp [sample]) _ _
  have hlegible : sample.IsLegible := ⟨by decide, by decide, by decide⟩
  have hkey' : sampleVerifier.key = sample.key := rfl
  have hpass : sample.claims.standard.PassAt sampleVerifier.expectations
      ⟨205, 0, by decide, by decide, by decide, by decide⟩ :=
    ⟨by decide, by decide, by decide, by decide⟩
  have hparse := hlegible.parse_message hsigned hkey' hpass (fun _ _ => .inl rfl)
    fun i hi => .inr (Option.some.inj hi)
  exact ⟨_, _, _, create_eq_ok_iff.2 ⟨signature, hsigned, rfl⟩, hstrict, hparse,
    parse_of_stricter hkey hstrict hparse⟩

end Token

end SignedToken
