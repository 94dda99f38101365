import SignedToken.Authentication.Rejection
import SignedToken.Proofs.Token.Unsigned

/-!
# Why texts are refused

Before times and id are looked at, a text is refused for one of a few reasons, none of which has to
do with the clock. That something is wrong with the verifier is no reason at all.
-/

namespace SignedToken

/-- What a text can be refused for at any time. -/
inductive TokenError.IsTimeless : TokenError → Prop
  | malformed (detail : String) : IsTimeless (.malformed detail)
  | unverifiable (detail : String) : IsTimeless (.unverifiable detail)
  | signatureInvalid : IsTimeless .signatureInvalid
  | issuer : IsTimeless .issuer
  | audience : IsTimeless .audience
  | claimsInvalid (detail : String) : IsTimeless (.claimsInvalid detail)

namespace Token

theorem isTimeless_of_authenticate {key : List UInt8} {c : Compact} {e : JwtError}
    (h : authenticate key c = .error e) : (TokenError.ofJwt e).IsTimeless := by
  have hfault : authenticate key c = .error c.fault :=
    authenticate_eq_fault fun header hheader => by
      rw [hheader] at h
      cases h
  obtain rfl : c.fault = e := by
    rw [hfault] at h
    exact Except.error.inj h
  rcases fault_cases c with ⟨detail, he⟩ | ⟨detail, he⟩ | he
  · rw [he]
    exact .malformed detail
  · rw [he]
    exact .unverifiable detail
  · rw [he]
    exact .signatureInvalid

theorem isTimeless_of_acceptPayload {expected : Expectations} {payload : List Char} {e : JwtError}
    (h : acceptPayload expected payload = .error e) : (TokenError.ofJwt e).IsTimeless := by
  unfold acceptPayload at h
  rcases Outcome.bind_eq_error.1 h with h | ⟨bytes, -, h⟩
  · obtain ⟨e', -, rfl⟩ := Outcome.mapError_eq_error.1 h
    exact .malformed _
  rcases Outcome.bind_eq_error.1 h with h | ⟨value, -, h⟩
  · obtain ⟨-, rfl⟩ := Outcome.elim_eq_error.1 h
    exact .malformed _
  rcases Outcome.bind_eq_error.1 h with h | ⟨naming, -, h⟩
  · obtain ⟨-, rfl⟩ := Outcome.elim_eq_error.1 h
    exact .malformed _
  rcases Outcome.guard_eq_error.1 h with ⟨-, rfl⟩ | ⟨-, h⟩
  · exact .issuer
  rcases Outcome.guard_eq_error.1 h with ⟨-, rfl⟩ | ⟨-, h⟩
  · exact .audience
  · cases h

theorem isTimeless_of_recognize {t : Token} {text : String} {e : TokenError}
    (h : t.recognize text = .error e) : e.IsTimeless := by
  unfold recognize at h
  rcases Outcome.bind_eq_error.1 h with h | ⟨c, -, h⟩
  · obtain ⟨-, rfl⟩ := Outcome.elim_eq_error.1 h
    exact .malformed _
  rcases Outcome.bind_eq_error.1 h with h | ⟨header, -, h⟩
  · obtain ⟨e', he, rfl⟩ := Outcome.mapError_eq_error.1 h
    exact isTimeless_of_authenticate he
  rcases Outcome.bind_eq_error.1 h with h | ⟨value, -, h⟩
  · obtain ⟨e', he, rfl⟩ := Outcome.mapError_eq_error.1 h
    exact isTimeless_of_acceptPayload he
  rcases Outcome.bind_eq_error.1 h with h | ⟨claims, -, h⟩
  · obtain ⟨fault, -, rfl⟩ := Outcome.mapError_eq_error.1 h
    exact .claimsInvalid _
  · cases h

theorem verify_of_recognize_eq_error {t : Token} {text : String} {e : TokenError}
    (h : t.recognize text = .error e) (now : Instant) : t.verify now text = .error e := by
  rw [verify_eq_check, check_eq_recognize, h]
  rfl

theorem mem_of_checkClaims {e : Expectations} {now : Instant} {c : StandardClaims}
    {error : TokenError} (h : checkClaims e now c = .error error) :
    error ∈ [TokenError.expired, .notValidYet, .issuedAt, .id] := by
  rw [checkClaims_eq] at h
  split at h
  · cases h
    simp
  split at h
  · cases h
    simp
  split at h
  · cases h
    simp
  split at h
  · cases h
    simp
  · cases h

theorem verify_eq_error {t : Token} {now : Instant} {text : String} {e : TokenError}
    (h : t.verify now text = .error e) :
    e.IsTimeless ∨ e ∈ [TokenError.expired, .notValidYet, .issuedAt, .id] := by
  rw [verify_eq_check, Outcome.map_eq_error, check_eq_recognize] at h
  rcases Outcome.bind_eq_error.1 h with h | ⟨p, -, h⟩
  · exact .inl (isTimeless_of_recognize h)
  rcases Outcome.bind_eq_error.1 h with h | ⟨_, -, h⟩
  · exact .inr (mem_of_checkClaims h)
  · cases h

end Token

/-! ## Answers -/

theorem TokenError.IsTimeless.status_and_code {e : TokenError} (h : e.IsTimeless) :
    (AuthRejection.token e).status = 401 ∧ (AuthRejection.token e).code = "AUTH_TOKEN" := by
  cases h <;> exact ⟨rfl, rfl⟩

theorem TokenError.IsTimeless.isConfiguration {e : TokenError} (h : e.IsTimeless) :
    e.isConfiguration = false := by
  cases h <;> rfl

/-- It is never the service's fault that a token is refused. -/
theorem Token.isConfiguration_of_verify {t : Token} {now : Instant} {text : String}
    {e : TokenError} (h : t.verify now text = .error e) : e.isConfiguration = false := by
  rcases verify_eq_error h with h | h
  · exact h.isConfiguration
  · simp only [List.mem_cons, List.not_mem_nil, or_false] at h
    rcases h with rfl | rfl | rfl | rfl <;> rfl

theorem Token.verify_ne_jwt {t : Token} {now : Instant} {text : String} {cause : JwtError} :
    t.verify now text ≠ .error (.jwt cause) := by
  intro h
  rcases verify_eq_error h with h | h
  · cases h
  · simp at h

theorem Token.status_of_verify {t : Token} {now : Instant} {text : String} {e : TokenError}
    (h : t.verify now text = .error e) : (AuthRejection.token e).status = 401 := by
  rw [AuthRejection.status, isConfiguration_of_verify h]
  rfl

end SignedToken
