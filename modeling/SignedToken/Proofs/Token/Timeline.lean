import SignedToken.Proofs.Token.RoundTrip
import Mathlib.Order.Monotone.Basic

/-!
# Verifying over time

Of a text that a verifier recognizes, the clock decides what becomes of it. As time goes by it may
be too early, then issued too late, then accepted, then expired, and it never goes back; a text that
is not recognized is refused alike at all times.
-/

namespace SignedToken.Token

variable {t : Token} {text : String}

/-! ## Recognized texts -/

/-- The text is signed with the verifier's key, its payload as it is written names no other parties
than those expected, and as it is read it spells claims. Times and id are not looked at. -/
def Recognizes (t : Token) (text : String) (c : Claims) : Prop :=
  ∃ (header payload signature : List Char) (h : Header) (written members : List (String × Json)),
    text.toList = header ++ '.' :: payload ++ '.' :: signature ∧ '.' ∉ payload ∧ '.' ∉ signature
      ∧ h.SpelledBy header ∧ IsSignature t.key h.algorithm (header ++ '.' :: payload) signature
      ∧ WritesValue payload (.obj written) ∧ t.expectations.PassedBy written
      ∧ SpellsObject payload members ∧ Claims.ofJson? (.obj members) = .ok c

theorem recognizes_iff {c : Claims} :
    t.Recognizes text c ↔ ∃ p, t.recognize text = .ok p ∧ p.claims = c := by
  constructor
  · rintro ⟨header, payload, signature, h, written, members, htext, hpayload, hsignature, hheader,
      hsigned, hwritten, hpassed, hmembers, hclaims⟩
    refine ⟨⟨h, c, String.ofList signature, true⟩, ?_, rfl⟩
    rw [recognize_eq_ok_iff, Compact.split?_eq_some_iff_exists]
    exact ⟨header, payload, signature, htext, hpayload, hsignature, ⟨hheader, hsigned⟩,
      acceptPayload_and_ofJson?_iff.2 ⟨written, members, hwritten, hpassed, hmembers, hclaims⟩,
      rfl, rfl⟩
  · rintro ⟨p, hp, rfl⟩
    rw [recognize_eq_ok_iff, Compact.split?_eq_some_iff_exists] at hp
    obtain ⟨header, payload, signature, htext, hpayload, hsignature, ⟨hheader, hsigned⟩, haccept,
      -⟩ := hp
    obtain ⟨written, members, hwritten, hpassed, hmembers, hclaims⟩ :=
      acceptPayload_and_ofJson?_iff.1 haccept
    exact ⟨header, payload, signature, p.header, written, members, htext, hpayload, hsignature,
      hheader, hsigned, hwritten, hpassed, hmembers, hclaims⟩

theorem recognizes_of_parse {now : Instant} {p : ParsedToken} (h : t.parse now text = .ok p) :
    t.Recognizes text p.claims :=
  recognizes_iff.2 ⟨p, (parse_eq_ok_iff_recognize.1 h).1, rfl⟩

/-- Of a recognized text only the checks of times and id are left. -/
theorem Recognizes.verify_eq {c : Claims} (h : t.Recognizes text c) (now : Instant) :
    t.verify now text = (checkClaims t.expectations now c.standard).map fun _ => c := by
  obtain ⟨p, hp, rfl⟩ := recognizes_iff.1 h
  rw [verify_eq_check, check_eq_recognize, hp]
  dsimp only [bind, Except.bind]
  cases checkClaims t.expectations now p.claims.standard with
  | ok _ => rfl
  | error e => rfl

/-- The clock is not looked at before the text is recognized. -/
theorem exists_parse_eq_error (h : ∀ c, ¬t.Recognizes text c) :
    ∃ r, ∀ now, t.parse now text = .error r := by
  cases hrecognize : t.recognize text with
  | ok p => exact absurd (recognizes_iff.2 ⟨p, hrecognize, rfl⟩) (h p.claims)
  | error e =>
    refine ⟨⟨e, ParsedToken.unverified? text⟩, fun now => ?_⟩
    rw [parse, check_eq_recognize, hrecognize]
    rfl

/-! ## Stages -/

/-- The stages of a token's life by what its verifier says of it: not valid yet, issued after now,
current, whether it lacks an id or not, and expired. -/
def stage {α : Type} : Except TokenError α → Nat
  | .error .notValidYet => 0
  | .error .issuedAt => 1
  | .error .expired => 3
  | _ => 2

theorem stage_map {α β : Type} (x : Except TokenError α) (f : α → β) : stage (x.map f) = stage x := by
  cases x with
  | ok a => rfl
  | error e => cases e <;> rfl

/-- As time goes by the outcome stays what it is or gets to a later stage. -/
theorem checkClaims_advances {e : Expectations} {c : StandardClaims} {now later : Instant}
    (h : now.seconds ≤ later.seconds) :
    checkClaims e later c = checkClaims e now c
      ∨ stage (checkClaims e now c) < stage (checkClaims e later c) := by
  rw [checkClaims_eq, checkClaims_eq]
  -- the expiry is passed once and for all
  by_cases hexpired : c.expiresAt ≠ 0 ∧ c.expiresAt.toInt + e.leewaySeconds.toNat < now.seconds
  · rw [if_pos hexpired, if_pos ⟨hexpired.1, Int.lt_of_lt_of_le hexpired.2 h⟩]
    exact .inl rfl
  rw [if_neg hexpired]
  by_cases hexpired' : c.expiresAt ≠ 0 ∧ c.expiresAt.toInt + e.leewaySeconds.toNat < later.seconds
  · rw [if_pos hexpired']
    right
    split_ifs <;> decide
  rw [if_neg hexpired']
  -- what is ahead later is ahead now
  by_cases hstart' : c.notBefore ≠ 0 ∧ later.seconds + e.leewaySeconds.toNat < c.notBefore.toInt
  · have hstart : c.notBefore ≠ 0 ∧ now.seconds + e.leewaySeconds.toNat < c.notBefore.toInt :=
      ⟨hstart'.1, by omega⟩
    rw [if_pos hstart, if_pos hstart']
    exact .inl rfl
  rw [if_neg hstart']
  by_cases hstart : c.notBefore ≠ 0 ∧ now.seconds + e.leewaySeconds.toNat < c.notBefore.toInt
  · rw [if_pos hstart]
    right
    split_ifs <;> decide
  rw [if_neg hstart]
  by_cases hissue' : e.skipIssuedAt = false ∧ c.issuedAt ≠ 0
      ∧ later.seconds + e.leewaySeconds.toNat < c.issuedAt.toInt
  · have hissue : e.skipIssuedAt = false ∧ c.issuedAt ≠ 0
        ∧ now.seconds + e.leewaySeconds.toNat < c.issuedAt.toInt :=
      ⟨hissue'.1, hissue'.2.1, by omega⟩
    rw [if_pos hissue, if_pos hissue']
    exact .inl rfl
  rw [if_neg hissue']
  by_cases hissue : e.skipIssuedAt = false ∧ c.issuedAt ≠ 0
      ∧ now.seconds + e.leewaySeconds.toNat < c.issuedAt.toInt
  · rw [if_pos hissue]
    right
    split_ifs <;> decide
  · rw [if_neg hissue]
    exact .inl rfl

theorem Recognizes.advances {c : Claims} (h : t.Recognizes text c) {now later : Instant}
    (hle : now.seconds ≤ later.seconds) :
    t.verify later text = t.verify now text
      ∨ stage (t.verify now text) < stage (t.verify later text) := by
  rw [h.verify_eq, h.verify_eq, stage_map, stage_map]
  rcases checkClaims_advances hle with heq | hlt
  · exact .inl (by rw [heq])
  · exact .inr hlt

/-- From acceptance on, the only other outcome that a later stage leaves is that the token has
expired. -/
theorem eq_expired_of_stage {α : Type} {x : Except TokenError α} (h : 2 < stage x) :
    x = .error .expired := by
  cases x with
  | ok a => exact absurd h (by simp [stage])
  | error e =>
    cases e with
    | expired => rfl
    | _ => exact absurd h (by simp [stage])

/-- What becomes of a recognized text is decided by its times and id, in this order and in whole
numbers without bounds. Whenever the clock never goes back, neither does the outcome: it passes
through its stages in their order, an accepted text is accepted until it has expired, and what has
expired stays so. A text that is not recognized is refused with one and the same error at all
times. -/
theorem verify_over_time (t : Token) (text : String) :
    (∀ c, t.Recognizes text c →
      (∀ now, t.verify now text =
        if c.standard.expiresAt ≠ 0
            ∧ c.standard.expiresAt.toInt + t.expectations.leewaySeconds.toNat < now.seconds then
          .error .expired
        else if c.standard.notBefore ≠ 0
            ∧ now.seconds + t.expectations.leewaySeconds.toNat < c.standard.notBefore.toInt then
          .error .notValidYet
        else if t.expectations.skipIssuedAt = false ∧ c.standard.issuedAt ≠ 0
            ∧ now.seconds + t.expectations.leewaySeconds.toNat < c.standard.issuedAt.toInt then
          .error .issuedAt
        else if t.expectations.requireId = true ∧ c.standard.id = "" then .error .id
        else .ok c)
      ∧ ∀ clock : ℕ → Instant, (∀ i, (clock i).seconds ≤ (clock (i + 1)).seconds) →
        (Monotone fun i => stage (t.verify (clock i) text))
        ∧ ∀ i j, i ≤ j →
          (t.verify (clock i) text = .ok c →
            t.verify (clock j) text = .ok c ∨ t.verify (clock j) text = .error .expired)
          ∧ (t.verify (clock i) text = .error .expired →
            t.verify (clock j) text = .error .expired))
    ∧ ((∀ c, ¬t.Recognizes text c) → ∃ r, ∀ now, t.parse now text = .error r) := by
  refine ⟨fun c hc => ⟨fun now => ?_, fun clock hclock => ?_⟩, exists_parse_eq_error⟩
  · rw [hc.verify_eq, checkClaims_eq]
    split_ifs <;> rfl
  have hmono : Monotone fun i => (clock i).seconds := monotone_nat_of_le_succ hclock
  refine ⟨fun i j hij => ?_, fun i j hij => ⟨fun haccepted => ?_, fun hexpired => ?_⟩⟩
  · rcases hc.advances (hmono hij) with heq | hlt
    · exact Nat.le_of_eq (congrArg stage heq.symm)
    · exact Nat.le_of_lt hlt
  · rcases hc.advances (hmono hij) with heq | hlt
    · exact .inl (heq.trans haccepted)
    · rw [haccepted] at hlt
      exact .inr (eq_expired_of_stage hlt)
  · rcases hc.advances (hmono hij) with heq | hlt
    · exact heq.trans hexpired
    · rw [hexpired] at hlt
      exact eq_expired_of_stage (Nat.lt_of_succ_lt hlt)

/-- One reading of the clock and ever after the other one. -/
def thenAlways (first later : Instant) (i : ℕ) : Instant := if i = 0 then first else later

theorem thenAlways_le {first later : Instant} (h : first.seconds ≤ later.seconds) (i : ℕ) :
    (thenAlways first later i).seconds ≤ (thenAlways first later (i + 1)).seconds := by
  cases i with
  | zero => exact h
  | succ i => exact Int.le_refl _

/-- Times before 1970 count, and the leeway widens the window of the sample at both ends. -/
theorem verify_over_time_sample :
    ∃ signed, sample.create = .ok signed ∧ sampleVerifier.Recognizes signed sample.claims
      ∧ sampleVerifier.verify ⟨-11, 0, by decide, by decide, by decide, by decide⟩ signed
        = .error .notValidYet
      ∧ sampleVerifier.verify ⟨205, 0, by decide, by decide, by decide, by decide⟩ signed
        = .ok sample.claims
      ∧ ∀ now : Instant, 206 ≤ now.seconds →
        sampleVerifier.verify now signed = .error .expired := by
  have hlegible : sample.IsLegible := ⟨by decide, by decide, by decide⟩
  have hkey : sampleVerifier.key = sample.key := rfl
  obtain ⟨signature, hsigned⟩ : ∃ signature, IsSignature sample.key sample.algorithm
      sample.message signature := exists_isSignature (by decide) sample.key sample.message
  have hpass : sample.claims.standard.PassAt sampleVerifier.expectations
      ⟨205, 0, by decide, by decide, by decide, by decide⟩ :=
    ⟨by decide, by decide, by decide, by decide⟩
  have hrecognizes : sampleVerifier.Recognizes
      (String.ofList (sample.message ++ '.' :: signature)) sample.claims :=
    recognizes_of_parse (hlegible.parse_message hsigned hkey hpass (fun _ _ => .inl rfl)
      fun i hi => .inr (Option.some.inj hi))
  obtain ⟨houtcome, hrun⟩ := (verify_over_time sampleVerifier _).1 _ hrecognizes
  refine ⟨_, create_eq_ok_iff.2 ⟨signature, hsigned, rfl⟩, hrecognizes, ?_, ?_, fun now hnow => ?_⟩
  · rw [houtcome, if_neg (by decide), if_pos (by decide)]
  · rw [houtcome, if_neg (by decide), if_neg (by decide), if_neg (by decide), if_neg (by decide)]
  · have hexpired : sampleVerifier.verify ⟨206, 0, by decide, by decide, by decide, by decide⟩
        (String.ofList (sample.message ++ '.' :: signature)) = .error .expired := by
      rw [houtcome, if_pos (by decide)]
    exact ((hrun _ (thenAlways_le hnow)).2 0 1 (Nat.zero_le 1)).2 hexpired

end SignedToken.Token
