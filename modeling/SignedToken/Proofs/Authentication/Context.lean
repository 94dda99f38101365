import SignedToken.Authentication.Context
import SignedToken.Identifier
import SignedToken.Proofs.Authentication.Bearer
import SignedToken.Proofs.Draft

/-!
# Authenticated requests

What a request presents, and what the verifier of a configuration makes of it. The check of the
header keeps nothing away from the verifier that it would have accepted.
-/

namespace SignedToken

namespace TokenContext

variable {σ : Type} {config : Config} {headers : List (String × List UInt8)} {text : String}

/-! ## What is presented -/

theorem presented?_of_header {value : List UInt8}
    (hheader : Http.header? headers "authorization" = some value)
    (hbearer : Bearer.token? value = some text) : presented? headers = .ok text := by
  rw [presented?, hheader]
  dsimp only
  rw [hbearer]

theorem presented?_eq_ok_iff :
    presented? headers = .ok text
      ↔ ∃ value, Http.header? headers "authorization" = some value
        ∧ Bearer.token? value = some text := by
  constructor
  · intro h
    unfold presented? at h
    split at h
    · cases h
    rename_i value hheader
    split at h
    · cases h
    rename_i token hbearer
    cases h
    exact ⟨value, hheader, hbearer⟩
  · rintro ⟨value, hheader, hbearer⟩
    exact presented?_of_header hheader hbearer

theorem presented?_eq_error {rejection : AuthRejection}
    (h : presented? headers = .error rejection) :
    rejection = .missingAuthorization ∨ rejection = .invalidAuthorization := by
  unfold presented? at h
  split at h
  · exact .inl (Except.error.inj h).symm
  split at h
  · exact .inr (Except.error.inj h).symm
  · cases h

/-! ## Its verifier -/

theorem ofHeaders_of_build {generate : σ → String × σ} {now : Instant} {s after : σ}
    {verifier : Token} (hpresented : presented? headers = .ok text)
    (hbuild : (Draft.ofConfig now generate config).build now s = .ok (verifier, after)) :
    ofHeaders config generate now s headers
      = (((verifier.verify now text).map (TokenContext.mk · text)).mapError .token, after) := by
  rw [ofHeaders, hpresented]
  dsimp only
  rw [hbuild]
  dsimp only
  cases verifier.verify now text with
  | ok claims => rfl
  | error e => rfl

/-! ## Nothing good is kept away -/

/-- A text that some verifier accepts at some time, or that was signed, consists of symbols of
Base64 and just two dots, and is taken as it is when it is presented. So whatever a configuration
refuses of those who present a text, its verifier would have refused it without the header as
well. -/
theorem presented_as_it_is (text : String) :
    ((∃ (verifier : Token) (now : Instant) (p : ParsedToken), verifier.parse now text = .ok p)
        ∨ (∃ t : Token, t.create = .ok text) →
      (∀ c ∈ text.toList, c = '.' ∨ Base64Url.IsSymbol c) ∧ text.toList.count '.' = 2
        ∧ Bearer.token? (Utf8.bytes ("Bearer " ++ text)) = some text)
    ∧ ∀ (σ : Type) (config : Config) (generate : σ → String × σ) (now : Instant) (s after : σ)
        (headers : List (String × List UInt8)) (verifier : Token),
      Http.header? headers "authorization" = some (Utf8.bytes ("Bearer " ++ text)) →
      (Draft.ofConfig now generate config).build now s = .ok (verifier, after) →
      ∀ (rejection : AuthRejection) (after' : σ),
        ofHeaders config generate now s headers = (.error rejection, after') →
        ∃ r, verifier.parse now text = .error r := by
  constructor
  · rintro (⟨verifier, now, p, hparse⟩ | ⟨t, hcreate⟩)
    · have hcoded := Token.isCoded_of_parse hparse
      exact ⟨hcoded.isSymbol, hcoded.count_dot, hcoded.token?_bearer⟩
    · have hcoded := Token.isCoded_of_create hcreate
      exact ⟨hcoded.isSymbol, hcoded.count_dot, hcoded.token?_bearer⟩
  · intro σ config generate now s after headers verifier hheader hbuild rejection after' hrefused
    cases hparse : verifier.parse now text with
    | error r => exact ⟨r, rfl⟩
    | ok p =>
      have hbearer := (Token.isCoded_of_parse hparse).token?_bearer
      rw [ofHeaders_of_build (presented?_of_header hheader hbearer) hbuild, Token.verify, hparse]
        at hrefused
      cases hrefused

/-- The sample, and three letters that look like a token. -/
theorem presented_as_it_is_sample :
    (∃ signed, Token.sample.create = .ok signed
      ∧ (∀ c ∈ signed.toList, c = '.' ∨ Base64Url.IsSymbol c) ∧ signed.toList.count '.' = 2
      ∧ Bearer.token? (Utf8.bytes ("Bearer " ++ signed)) = some signed)
    ∧ ∃ verifier : Token, verifier.key = Token.sample.key
      ∧ ∃ r, verifier.parse .latest "a.b.c" = .error r := by
  constructor
  · obtain ⟨signed, hcreate⟩ : ∃ signed, Token.sample.create = .ok signed :=
      Token.exists_create (by decide)
    exact ⟨signed, hcreate, (presented_as_it_is signed).1 (.inr ⟨_, hcreate⟩)⟩
  · obtain ⟨verifier, hkey, -, hbuild⟩ := Draft.exists_build_ofConfig
      (c := { secret := [0x6B] }) (by decide) .latest (Identifier.random .zeros) 0
    have hrefused : (ofHeaders { secret := [0x6B] } (Identifier.random .zeros) .latest 0
        [("Authorization", Utf8.bytes ("Bearer " ++ "a.b.c"))]).1.toOption.isNone = true := by
      decide +kernel
    refine ⟨verifier, hkey, ?_⟩
    cases hheaders : ofHeaders { secret := [0x6B] } (Identifier.random .zeros) .latest 0
        [("Authorization", Utf8.bytes ("Bearer " ++ "a.b.c"))] with
    | mk result after =>
      rw [hheaders] at hrefused
      cases result with
      | ok context => cases hrefused
      | error rejection =>
        exact (presented_as_it_is "a.b.c").2 Nat _ _ _ _ _ _ _ (by decide +kernel) hbuild _ _
          hheaders

end TokenContext

end SignedToken
