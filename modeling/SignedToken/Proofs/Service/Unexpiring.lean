import SignedToken.Proofs.Service.Refusals
import SignedToken.Proofs.Token.Timeline

/-!
# Tokens shown without an expiry

What is shown of a presented token leaves out its expiry only if there is none: either none is set,
or it lies behind the end of the calendar, where no clock gets to. An expiry before the start of the
calendar could be left out as well, but a token that has it is not accepted any more.
-/

namespace SignedToken

/-! ## Outcomes of verifying -/

namespace Token

variable {t t' : Token} {now : Instant} {text : String} {c c' : Claims}

/-- Whoever recognizes a text reads the same claims in it. -/
theorem Recognizes.unique (h : t.Recognizes text c) (h' : t'.Recognizes text c') : c = c' := by
  obtain ⟨header, payload, signature, -, -, members, htext, hpayload, hsignature, -, -, -, -,
    hmembers, hclaims⟩ := h
  obtain ⟨header', payload', signature', -, -, members', htext', hpayload', hsignature', -, -, -, -,
    hmembers', hclaims'⟩ := h'
  have hcut : Compact.split? text
      = some ⟨Compact.messageOf header payload, header, payload, signature⟩ :=
    Compact.split?_eq_some_iff.2 ⟨htext, rfl, hpayload, hsignature⟩
  obtain ⟨-, -, rfl, -⟩ := Compact.mk.inj (Compact.eq_of_split? hcut htext' hpayload' hsignature')
  obtain rfl := hmembers.unique hmembers'
  exact Except.ok.inj (hclaims.symm.trans hclaims')

theorem verify_eq_ok_iff :
    t.verify now text = .ok c ↔ t.Recognizes text c ∧ c.standard.PassAt t.expectations now := by
  rw [recognizes_iff, verify_eq_check, Outcome.map_eq_ok]
  simp only [← parse_eq_ok_iff_check, parse_eq_ok_iff_recognize]
  constructor
  · rintro ⟨p, ⟨hp, hpass⟩, rfl⟩
    exact ⟨⟨p, hp, rfl⟩, hpass⟩
  · rintro ⟨⟨p, hp, rfl⟩, hpass⟩
    exact ⟨p, ⟨hp, hpass⟩, rfl⟩

/-- That a text has expired is said only of one that is recognized, on account of its expiry. -/
theorem verify_eq_expired_iff :
    t.verify now text = .error .expired ↔ ∃ c, t.Recognizes text c ∧ c.standard.expiresAt ≠ 0
      ∧ c.standard.expiresAt.toInt + t.expectations.leewaySeconds.toNat < now.seconds := by
  constructor
  · intro h
    cases hrecognize : t.recognize text with
    | error e =>
      have htimeless := isTimeless_of_recognize hrecognize
      rw [verify_of_recognize_eq_error hrecognize] at h
      cases h
      cases htimeless
    | ok p =>
      have hp : t.Recognizes text p.claims := recognizes_iff.2 ⟨p, hrecognize, rfl⟩
      rw [hp.verify_eq, Outcome.map_eq_error, checkClaims_eq] at h
      split at h
      · rename_i hexpired
        exact ⟨p.claims, hp, hexpired⟩
      split at h
      · cases h
      split at h
      · cases h
      split at h
      · cases h
      · cases h
  · rintro ⟨c, hc, hexpired⟩
    rw [hc.verify_eq, checkClaims_eq, if_pos hexpired]
    rfl

end Token

/-! ## Expiries -/

namespace StandardClaims

variable {c : StandardClaims} {e : Expectations} {now : Instant}

/-- An expiry before the start of the calendar has passed. -/
theorem PassAt.not_before_calendar (h : c.PassAt e now)
    (hnow : Instant.earliest.seconds + e.leewaySeconds.toNat ≤ now.seconds)
    (hset : c.expiresAt ≠ 0) : Instant.earliest.seconds ≤ c.expiresAt.toInt := by
  have hexpiry := h.expiry hset
  omega

theorem PassAt.expiryInstant?_eq_none_iff (h : c.PassAt e now)
    (hnow : Instant.earliest.seconds + e.leewaySeconds.toNat ≤ now.seconds) :
    c.expiryInstant? = none
      ↔ c.expiresAt = 0 ∨ Instant.latest.seconds < c.expiresAt.toInt := by
  rw [expiryInstant?, instantOf?_eq_none_iff]
  constructor
  · rintro (hzero | hearly | hlate)
    · exact .inl hzero
    · refine .inl (Decidable.byContradiction fun hset => ?_)
      exact Int.not_le.2 hearly (h.not_before_calendar hnow hset)
    · exact .inr hlate
  · exact Or.imp_right .inr

theorem shownExpiry_eq_null_iff : c.shownExpiry = .null ↔ c.expiryInstant? = none := by
  unfold shownExpiry
  cases c.expiryInstant? with
  | some t => exact iff_of_false nofun nofun
  | none => exact iff_of_true rfl rfl

theorem exists_of_shownExpiry_ne_null (h : c.shownExpiry ≠ .null) :
    ∃ t : Instant, c.shownExpiry = .str t.text ∧ t.timestamp = c.expiresAt ∧ t.subsecond = 0 := by
  cases hexpiry : c.expiryInstant? with
  | none => exact absurd (shownExpiry_eq_null_iff.2 hexpiry) h
  | some t =>
    obtain ⟨htimestamp, hwhole⟩ := timestamp_of_instantOf? hexpiry
    exact ⟨t, shownExpiry_of_expiryInstant? hexpiry, htimestamp, hwhole⟩

end StandardClaims

/-- No clock gets to a second behind the calendar, with or without a leeway. -/
theorem Token.verify_ne_expired {t : Token} {text : String} {c : Claims} (h : t.Recognizes text c)
    (hexpiry : c.standard.expiresAt = 0 ∨ Instant.latest.seconds < c.standard.expiresAt.toInt)
    (t' : Token) (now : Instant) : t'.verify now text ≠ .error .expired := by
  intro hexpired
  obtain ⟨c', hc', hset, hlt⟩ := verify_eq_expired_iff.1 hexpired
  obtain rfl := h.unique hc'
  have hbehind : 8210266876799 < c.standard.expiresAt.toInt := hexpiry.resolve_left hset
  have hnow := now.notAfterCalendar
  omega

namespace Service

/-! ## What is shown -/

/-- A text that no verifier finds expired no service finds expired. -/
theorem not_names_expired {s : Service} {now : Instant} {place : Nat} {r : Request} {text : String}
    (hmethod : r.method = "GET") (hpath : Http.path r.target = "/me") (hbears : r.Bears text)
    (h : ∀ verifier : Token, verifier.verify now text ≠ .error .expired) :
    ¬(s.handle now place r).1.Names "AUTH_EXPIRED" := by
  by_cases hsecret : s.config.secret = []
  · obtain ⟨-, hnames⟩ : _ ∧ ∀ code, (s.handle now place r).1.Names code ↔ _ :=
      answer_of_secret_eq_nil hmethod hpath hsecret hbears
    rw [hnames]
    decide
  · obtain ⟨verifier, -, -, hbuild⟩ :=
      Draft.exists_build_ofConfig hsecret now (Identifier.random s.entropy) place
    obtain ⟨-, -, hnames⟩ := answer_of_secret hmethod hpath hbuild
    rw [hnames, hbears.exists_iff]
    exact h verifier

/-- Whoever presents a token and is shown it is shown its expiry, to the second, if it lies in the
calendar, and null if not. In all times but the first of the calendar, which are over long before
1970, this is null just if no expiry is set or if it lies behind the end of the calendar; and then
nobody ever finds the token expired, with whatever key, expectations and leeway, and no service says
that it has expired. -/
theorem expiry_of_me {s : Service} {now : Instant} {place : Nat} {r : Request}
    (hmethod : r.method = "GET") (hpath : Http.path r.target = "/me")
    (hstatus : (s.handle now place r).1.status = 200) :
    ∃ (text : String) (verifier : Token) (claims : Claims) (expiry : Json),
      r.Bears text ∧ verifier.key = s.config.secret ∧ verifier.expectations = s.config.expectations
        ∧ verifier.verify now text = .ok claims
        ∧ (s.handle now place r).1.body = (Json.obj [("body", claims.body.toJson),
          ("subject", .str claims.standard.subject), ("id", .str claims.standard.id),
          ("expires_at", expiry)]).text
        ∧ (expiry = .null ↔ claims.standard.expiresAt = 0
          ∨ claims.standard.expiresAt.toInt < Instant.earliest.seconds
          ∨ Instant.latest.seconds < claims.standard.expiresAt.toInt)
        ∧ (expiry ≠ .null → ∃ e : Instant, expiry = .str e.text
          ∧ e.timestamp = claims.standard.expiresAt ∧ e.subsecond = 0)
        ∧ (Instant.earliest.seconds + s.config.leewaySeconds.toNat ≤ now.seconds →
          (expiry = .null ↔ claims.standard.expiresAt = 0
            ∨ Instant.latest.seconds < claims.standard.expiresAt.toInt)
          ∧ (expiry = .null →
            (∀ (verifier' : Token) (now' : Instant),
              verifier'.verify now' text ≠ .error .expired)
            ∧ ∀ (s' : Service) (now' : Instant) (place' : Nat) (r' : Request),
              r'.method = "GET" → Http.path r'.target = "/me" → r'.Bears text →
              ¬(s'.handle now' place' r').1.Names "AUTH_EXPIRED")) := by
  rw [handle_me hmethod hpath] at hstatus ⊢
  obtain ⟨verifier, text, claims, hkey, hexpectations, hpresented, hverify, hshown⟩ :=
    accepted_of_status hstatus
  obtain ⟨hrecognizes, hpass⟩ := Token.verify_eq_ok_iff.1 hverify
  refine ⟨text, verifier, claims, claims.standard.shownExpiry, Request.bears_iff.2 hpresented, hkey,
    hexpectations, hverify, ?_, ?_, StandardClaims.exists_of_shownExpiry_ne_null, fun hnow => ?_⟩
  · rw [hshown, body_shown_eq]
  · rw [StandardClaims.shownExpiry_eq_null_iff]
    exact StandardClaims.instantOf?_eq_none_iff
  rw [hexpectations] at hpass
  have hnull := StandardClaims.shownExpiry_eq_null_iff.trans
    (hpass.expiryInstant?_eq_none_iff hnow)
  refine ⟨hnull, fun h => ?_⟩
  have hnever := Token.verify_ne_expired hrecognizes (hnull.1 h)
  exact ⟨hnever, fun s' now' place' r' hmethod' hpath' hbears =>
    not_names_expired hmethod' hpath' hbears fun verifier' => hnever verifier' now'⟩

/-- The sample with the second behind the end of the calendar for its expiry. -/
def unexpiring : Token :=
  { Token.sample with claims := { standard := { expiresAt := 8210266876800, id := "x" } } }

theorem status_of_unexpiring {signed : String} (hcreate : unexpiring.create = .ok signed) :
    ((keyed [0x6B]).handle .latest 0 (presenting signed)).1.status = 200 := by
  have hbears : (presenting signed).Bears signed := bears_presenting hcreate
  obtain ⟨signature, hsigned, rfl⟩ := Token.create_eq_ok_iff.1 hcreate
  have hlegible : unexpiring.IsLegible := ⟨by decide, by decide, by decide⟩
  obtain ⟨verifier, hkey, hexpectations, hbuild⟩ := Draft.exists_build_ofConfig
    (c := (keyed [0x6B]).config) (by decide) .latest (Identifier.random (keyed [0x6B]).entropy) 0
  have hpass : unexpiring.claims.standard.PassAt verifier.expectations .latest := by
    rw [hexpectations]
    exact ⟨by decide, by decide, by decide, by decide⟩
  have hparse := hlegible.parse_message hsigned hkey hpass (fun _ _ => .inl rfl)
    (fun _ _ => .inl rfl)
  have hverify : verifier.verify .latest
      (String.ofList (unexpiring.message ++ '.' :: signature)) = .ok unexpiring.claims := by
    rw [Token.verify, hparse]
  exact (answer_of_verify_eq_ok rfl (path_presenting _) hbears hbuild hverify).1

/-- At the end of the calendar, a token that would expire a second later. -/
theorem expiry_of_me_unexpiring :
    ∃ (signed : String) (claims : Claims), unexpiring.create = .ok signed
      ∧ ((keyed [0x6B]).handle .latest 0 (presenting signed)).1.body
        = (Json.obj [("body", claims.body.toJson), ("subject", .str claims.standard.subject),
          ("id", .str claims.standard.id), ("expires_at", .null)]).text
      ∧ ∀ (verifier : Token) (now : Instant), verifier.verify now signed ≠ .error .expired := by
  obtain ⟨signed, hcreate⟩ : ∃ signed, unexpiring.create = .ok signed :=
    Token.exists_create (by decide)
  have hbears : (presenting signed).Bears signed := bears_presenting hcreate
  obtain ⟨text, verifier, claims, expiry, htext, -, -, hverify, hbody, -, -, hlater⟩ :=
    expiry_of_me rfl (path_presenting _) (status_of_unexpiring hcreate)
  obtain rfl : signed = text := Except.ok.inj
    ((Request.bears_iff.1 hbears).symm.trans (Request.bears_iff.1 htext))
  obtain ⟨hnull, hnever⟩ := hlater (Instant.earliest_add_le (by decide) _)
  have hbehind : Instant.latest.seconds < claims.standard.expiresAt.toInt := by
    rw [Token.standard_of_verify hcreate hverify]
    decide
  obtain rfl := hnull.2 (.inr hbehind)
  exact ⟨signed, claims, hcreate, hbody, (hnever rfl).1⟩

end Service

end SignedToken
