import SignedToken.Proofs.Token.RoundTrip

/-!
# Texts that were not signed

A text that was not signed with a verifier's key is refused on the words of its header alone: of the
key, the expectations and the clock there is no trace in the refusal.
-/

namespace SignedToken

/-! ## Signed with a key -/

/-- The header is well-formed, and the signature is that of header and payload under the key. -/
def IsSignedWith (key : List UInt8) (text : String) : Prop :=
  ∃ (header payload signature : List Char) (h : Header),
    text.toList = header ++ '.' :: payload ++ '.' :: signature ∧ '.' ∉ payload ∧ '.' ∉ signature
      ∧ h.SpelledBy header ∧ IsSignature key h.algorithm (header ++ '.' :: payload) signature

theorem isSignedWith_iff_authenticate {key : List UInt8} {text : String} :
    IsSignedWith key text ↔
      ∃ c, Compact.split? text = some c ∧ ∃ h, Token.authenticate key c = .ok h := by
  simp only [Token.authenticate_eq_ok_iff]
  rw [Compact.split?_eq_some_iff_exists]
  constructor
  · rintro ⟨header, payload, signature, h, htext, hpayload, hsignature, hheader, hsigned⟩
    exact ⟨header, payload, signature, htext, hpayload, hsignature, h, hheader, hsigned⟩
  · rintro ⟨header, payload, signature, htext, hpayload, hsignature, h, hheader, hsigned⟩
    exact ⟨header, payload, signature, h, htext, hpayload, hsignature, hheader, hsigned⟩

/-! ## The refusal -/

/-- What is wrong with a text without its signature, or else that it has the wrong one. -/
def Compact.fault (c : Compact) : JwtError :=
  match decodeSegment c.header with
  | .error e => .base64 e
  | .ok bytes =>
    match Header.readStrictly? bytes with
    | none => .json
    | some h => if h.algorithm.hmac?.isSome then .invalidSignature else .invalidAlgorithm

/-- Of a text with a well-formed header only the signature can be wrong, unless the header names an
algorithm that verifies nothing here. -/
theorem Compact.fault_of_spelledBy {c : Compact} {h : Header} (hheader : h.SpelledBy c.header) :
    c.fault = if h.algorithm.hmac?.isSome then .invalidSignature else .invalidAlgorithm := by
  obtain ⟨bytes, hbytes, hread⟩ := hheader
  simp only [fault, hbytes, hread]

theorem Compact.fault_of_not_spelledBy {c : Compact} (hnone : ∀ h : Header, ¬h.SpelledBy c.header) :
    ∃ detail, TokenError.ofJwt c.fault = .malformed detail := by
  unfold fault
  split
  · exact ⟨_, rfl⟩
  rename_i bytes hbytes
  split
  · exact ⟨_, rfl⟩
  rename_i h hread
  exact absurd ⟨bytes, hbytes, hread⟩ (hnone h)

namespace Token

theorem authenticate_eq_fault {key : List UInt8} {c : Compact}
    (h : ∀ header, authenticate key c ≠ .ok header) : authenticate key c = .error c.fault := by
  simp only [ne_eq, authenticate_eq_ok_iff] at h
  rw [authenticate, Compact.fault]
  cases hbytes : decodeSegment c.header with
  | error e => rfl
  | ok bytes =>
    dsimp only [Except.mapError, bind, Except.bind]
    cases hheader : Header.readStrictly? bytes with
    | none => rfl
    | some header =>
      dsimp only [Option.elim_some, pure, Except.pure]
      cases hsize : header.algorithm.hmac? with
      | none => rfl
      | some size =>
        refine if_neg fun hsignature => h header ⟨⟨bytes, hbytes, hheader⟩, ?_⟩
        exact ⟨size, Algorithm.hmac?_eq_some_iff.1 hsize, hsignature⟩

/-- What a text is refused for by whoever has another key. -/
def refusal (text : String) : TokenError :=
  .ofJwt ((Compact.split? text).elim .invalidToken Compact.fault)

theorem fault_cases (c : Compact) :
    (∃ detail, TokenError.ofJwt c.fault = .malformed detail)
      ∨ (∃ detail, TokenError.ofJwt c.fault = .unverifiable detail)
      ∨ TokenError.ofJwt c.fault = .signatureInvalid := by
  by_cases hspelled : ∃ h : Header, h.SpelledBy c.header
  · obtain ⟨h, hheader⟩ := hspelled
    rw [Compact.fault_of_spelledBy hheader]
    split
    · exact .inr (.inr rfl)
    · exact .inr (.inl ⟨_, rfl⟩)
  · exact .inl (Compact.fault_of_not_spelledBy (not_exists.1 hspelled))

/-- No refusal of an unsigned text is about its claims. -/
theorem refusal_cases (text : String) :
    (∃ detail, refusal text = .malformed detail) ∨ (∃ detail, refusal text = .unverifiable detail)
      ∨ refusal text = .signatureInvalid := by
  unfold refusal
  cases Compact.split? text with
  | none => exact .inl ⟨_, rfl⟩
  | some c => exact fault_cases c

theorem check_of_not_isSignedWith {t : Token} {text : String} (h : ¬IsSignedWith t.key text)
    (now : Instant) : t.check now text = .error (refusal text) := by
  rw [isSignedWith_iff_authenticate] at h
  rw [check, refusal]
  cases hsplit : Compact.split? text with
  | none => rfl
  | some c =>
    have hfault := authenticate_eq_fault fun header hheader => h ⟨c, hsplit, header, hheader⟩
    dsimp only [Option.elim_some, bind, Except.bind, pure, Except.pure]
    rw [hfault]
    rfl

theorem parse_of_not_isSignedWith {t : Token} {text : String} (h : ¬IsSignedWith t.key text)
    (now : Instant) :
    t.parse now text = .error ⟨refusal text, ParsedToken.unverified? text⟩ := by
  rw [parse, check_of_not_isSignedWith h]

/-- Two verifiers that did not sign a text refuse it alike, whatever else they have and at whatever
time: with one error, which is not about claims, and with what the text says unverified. -/
theorem refused_alike {t u : Token} {text : String} (ht : ¬IsSignedWith t.key text)
    (hu : ¬IsSignedWith u.key text) (now now' : Instant) :
    ∃ r : Rejection, t.parse now text = .error r ∧ u.parse now' text = .error r
      ∧ ((∃ detail, r.error = .malformed detail) ∨ (∃ detail, r.error = .unverifiable detail)
        ∨ r.error = .signatureInvalid)
      ∧ ∀ p, r.handle = some p → p.valid = false := by
  refine ⟨_, parse_of_not_isSignedWith ht now, parse_of_not_isSignedWith hu now',
    refusal_cases text, fun p hp => ?_⟩
  obtain ⟨_, -, -, -, -, -, hvalid⟩ := ParsedToken.unverified?_eq_some_iff.1 hp
  exact hvalid

/-- A header for HS256, claims that have expired and are for nobody here, and no signature. -/
def forged : String := "eyJhbGciOiJIUzI1NiJ9.eyJleHAiOjEsImF1ZCI6IngifQ.x"

/-- A verifier with another key than the sample. -/
def stranger : Token where
  key := [0x73]
  key_ne_nil := by decide
  algorithm := .hs512
  claims := {}
  expectations := { audience := some "server", requireId := true }

theorem not_isSignedWith_forged (key : List UInt8) : ¬IsSignedWith key forged := by
  rintro ⟨header, payload, signature, h, htext, hpayload, hsignature, -, size, -, hsigned⟩
  have hsplit : Compact.split? forged = some ⟨_, header, payload, signature⟩ :=
    Compact.split?_eq_some_iff.2 ⟨htext, rfl, hpayload, hsignature⟩
  have hlast : (Compact.split? forged).map Compact.signature = some ['x'] := by decide
  rw [hsplit] at hlast
  cases hlast
  have hundecoded : (decodeSegment ['x']).isOk = false := by decide
  rw [decodeSegment_eq_ok_iff.2 hsigned] at hundecoded
  cases hundecoded

theorem refused_alike_forged :
    ¬IsSignedWith sample.key forged ∧ ¬IsSignedWith stranger.key forged
      ∧ ∃ r : Rejection, sample.parse .latest forged = .error r
        ∧ stranger.parse ⟨0, 0, by decide, by decide, by decide, by decide⟩ forged = .error r
        ∧ ((∃ detail, r.error = .malformed detail) ∨ (∃ detail, r.error = .unverifiable detail)
          ∨ r.error = .signatureInvalid)
        ∧ ∀ p, r.handle = some p → p.valid = false :=
  ⟨not_isSignedWith_forged _, not_isSignedWith_forged _,
    refused_alike (not_isSignedWith_forged _) (not_isSignedWith_forged _) _ _⟩

end Token

end SignedToken
