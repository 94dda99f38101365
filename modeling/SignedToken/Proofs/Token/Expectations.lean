import SignedToken.Proofs.Token.RoundTrip

/-!
# What an expectation asks for

A text that is accepted names no other party than the one expected, but it may name none at all.
-/

namespace SignedToken

/-- A party meets an expectation in full just if it is named, unless the empty one is expected. -/
theorem SpellsText.eq_iff_named {members : List (String × Json)} {name value e : String}
    (h : SpellsText members name value) (hmet : ∀ v, (name, v) ∈ members → v = .str e) :
    value = e ↔ e = "" ∨ ∃ v, (name, v) ∈ members := by
  rcases h with h | ⟨hnone, hempty⟩
  · have hmem := Json.mem_of_last? h
    have hvalue : value = e := by
      have hstr := hmet _ hmem
      cases hstr
      rfl
    exact iff_of_true hvalue (.inr ⟨_, hmem⟩)
  · have habsent : ¬∃ v, (name, v) ∈ members := by
      rintro ⟨v, hv⟩
      exact Json.last?_eq_none_iff.1 hnone _ hv rfl
    simp only [hempty, habsent, or_false, eq_comm]

namespace Token

/-- The parties of an accepted text with nothing packed in its payload are those expected just if
the payload names them: it may leave them out, and then they are the empty text. -/
theorem parties_eq_expected_iff {verifier : Token} {now : Instant} {text : String}
    {p : ParsedToken} (h : verifier.parse now text = .ok p)
    (hunpacked : HasUnpackedPayload text) :
    ∃ (header payload signature : List Char) (members : List (String × Json)),
      text.toList = header ++ '.' :: payload ++ '.' :: signature
        ∧ '.' ∉ payload ∧ '.' ∉ signature ∧ SpellsObject payload members
        ∧ (∀ a, verifier.expectations.audience = some a →
          (p.claims.standard.audience = a ↔ a = "" ∨ ∃ v, ("aud", v) ∈ members))
        ∧ (∀ i, verifier.expectations.issuer = some i →
          (p.claims.standard.issuer = i ↔ i = "" ∨ ∃ v, ("iss", v) ∈ members)) := by
  obtain ⟨c, hc, -, haccept, -⟩ := check_eq_ok_iff.1 (parse_eq_ok_iff_check.1 h)
  obtain ⟨htext, hmessage, hpayload, hsignature⟩ := Compact.split?_eq_some_iff.1 hc
  obtain ⟨members, hmembers, -, hclaims, hmet⟩ :=
    (acceptPayload_and_ofJson?_iff_of_isUnpacked (hunpacked c hc)).1 haccept
  have hspelled := (Claims.ofJson?_obj_eq_ok_iff.1 hclaims).2
  rw [hmessage] at htext
  refine ⟨c.header, c.payload, c.signature, members, htext, hpayload, hsignature, hmembers, ?_, ?_⟩
  · intro a ha
    exact hspelled.audience.eq_iff_named (hmet.audience a ha)
  · intro i hi
    exact hspelled.issuer.eq_iff_named (hmet.issuer i hi)

/-- A token that names neither party and no time. -/
def unnamed : Token where
  key := sample.key
  key_ne_nil := sample.key_ne_nil
  algorithm := .hs256
  claims := { standard := { id := "x", subject := "s" } }
  expectations := {}

def expecting (expectations : Expectations) : Token where
  key := sample.key
  key_ne_nil := sample.key_ne_nil
  algorithm := .hs256
  claims := {}
  expectations

/-- Whatever is expected, the token that names nobody is accepted, and at any time. -/
theorem exists_parse_unnamed :
    ∃ signed, unnamed.create = .ok signed ∧ HasUnpackedPayload signed
      ∧ ∀ (e : Expectations) (now : Instant),
        ∃ p, (expecting e).parse now signed = .ok p ∧ p.claims = unnamed.claims := by
  have hlegible : unnamed.IsLegible := ⟨by decide, by decide, by decide⟩
  obtain ⟨signature, hsigned⟩ : ∃ signature, IsSignature unnamed.key unnamed.algorithm
      unnamed.message signature := exists_isSignature (by decide) unnamed.key unnamed.message
  have hpass (e : Expectations) (now : Instant) : unnamed.claims.standard.PassAt e now := {
    expiry := fun hset => absurd rfl hset
    start := fun hset => absurd rfl hset
    issue := fun _ hset => absurd rfl hset
    id := fun _ => by decide }
  refine ⟨_, create_eq_ok_iff.2 ⟨signature, hsigned, rfl⟩,
    hasUnpackedPayload_message hlegible.unpacked hsigned.dot_not_mem, fun e now => ?_⟩
  exact ⟨_, hlegible.parse_message hsigned rfl (hpass e now) (fun _ _ => .inl rfl)
    fun _ _ => .inl rfl, rfl⟩

theorem parties_eq_expected_iff_unnamed :
    ∃ (signed : String) (p : ParsedToken) (payload : List Char) (members : List (String × Json)),
      unnamed.create = .ok signed
        ∧ (expecting { audience := some "server" }).parse .latest signed = .ok p
        ∧ SpellsObject payload members ∧ ¬∃ v, ("aud", v) ∈ members := by
  obtain ⟨signed, hcreate, hunpacked, hparse⟩ := exists_parse_unnamed
  obtain ⟨p, hp, hclaims⟩ := hparse { audience := some "server" } .latest
  obtain ⟨_, payload, _, members, -, -, -, hmembers, haudience, -⟩ :=
    parties_eq_expected_iff hp hunpacked
  refine ⟨signed, p, payload, members, hcreate, hp, hmembers, fun hnamed => ?_⟩
  have heq := (haudience "server" rfl).2 (.inr hnamed)
  rw [hclaims] at heq
  exact absurd heq (by decide)

/-- An expected party is not asked for: a token that names none is accepted, and neither party is
then the one expected. -/
theorem expected_parties_not_required :
    ∃ signed, unnamed.create = .ok signed ∧ ∀ now : Instant,
      (∃ p, (expecting { audience := some "server" }).parse now signed = .ok p
        ∧ p.claims.standard.audience ≠ "server")
      ∧ (∃ p, (expecting { issuer := some "app" }).parse now signed = .ok p
        ∧ p.claims.standard.issuer ≠ "app") := by
  obtain ⟨signed, hcreate, -, hparse⟩ := exists_parse_unnamed
  refine ⟨signed, hcreate, fun now => ?_⟩
  obtain ⟨p, hp, haudience⟩ := hparse { audience := some "server" } now
  obtain ⟨q, hq, hissuer⟩ := hparse { issuer := some "app" } now
  refine ⟨⟨p, hp, ?_⟩, q, hq, ?_⟩
  · rw [haudience]
    decide
  · rw [hissuer]
    decide

end Token

end SignedToken
