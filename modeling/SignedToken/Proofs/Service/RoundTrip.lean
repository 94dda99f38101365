import SignedToken.Proofs.Authentication.Bearer
import SignedToken.Proofs.Service.Answers
import SignedToken.Proofs.Time.Instant

/-!
# What the service issues it accepts

A token that the service issues under a configuration shows, presented to any service of the same
configuration, just the payload it was asked for.
-/

namespace SignedToken

/-! ## From issuing to showing -/

/-- The second of `now` lies between the one of issue and the expiry, give or take the leeway. -/
def Token.IsCurrent (t : Token) (issue now : Instant) (leewaySeconds : UInt32) : Prop :=
  issue.seconds - leewaySeconds.toNat ≤ now.seconds
    ∧ now.seconds ≤ t.claims.standard.expiresAt.toInt + leewaySeconds.toNat

namespace Token.IssuedFor

variable {c : Config} {issue : Instant} {request : IssueRequest} {t : Token}

theorem passAt (h : t.IssuedFor c issue request) {now : Instant}
    (hcurrent : t.IsCurrent issue now c.leewaySeconds) :
    t.claims.standard.PassAt c.expectations now := by
  obtain ⟨hfrom, huntil⟩ := hcurrent
  have hissue : issue.timestamp.toInt ≤ now.seconds + c.leewaySeconds.toNat := by
    rw [issue.toInt_timestamp]
    omega
  exact {
    expiry := fun _ => huntil
    start := fun _ => by
      rw [h.notBefore]
      exact hissue
    issue := fun _ _ => by
      rw [h.issuedAt]
      exact hissue
    id := fun hrequired => by cases hrequired }

theorem parse (h : t.IssuedFor c issue request) (hlegible : t.IsLegible) {signature : List Char}
    (hsigned : IsSignature t.key t.algorithm t.message signature) {verifier : Token}
    (hkey : verifier.key = c.secret) (hexpectations : verifier.expectations = c.expectations)
    {now : Instant} (hcurrent : t.IsCurrent issue now c.leewaySeconds) :
    verifier.parse now (String.ofList (t.message ++ '.' :: signature)) = .ok {
      header := Header.ofAlgorithm t.algorithm
      claims := t.claims
      signature := String.ofList signature
      valid := true } := by
  refine hlegible.parse_message hsigned ?_ ?_ ?_ ?_
  · rw [hkey, h.key]
  · rw [hexpectations]
    exact h.passAt hcurrent
  · intro a ha
    rw [hexpectations, Config.expectations] at ha
    obtain ⟨-, ha⟩ := Option.ite_none_right_eq_some.1 ha
    cases ha
    exact .inr h.audience
  · intro i hi
    rw [hexpectations, Config.expectations] at hi
    obtain ⟨-, hi⟩ := Option.ite_none_right_eq_some.1 hi
    cases hi
    exact .inr h.issuer

theorem exists_expiryInstant? (h : t.IssuedFor c issue request)
    (hset : t.claims.standard.expiresAt ≠ 0) :
    ∃ e, t.claims.standard.expiryInstant? = some e :=
  ⟨_, h.expiryInstant?_eq hset⟩

end Token.IssuedFor

namespace Service

theorem whoAmI_of_issued {s : Service} {issue now : Instant} {request : IssueRequest} {t : Token}
    {signed : String} (hissued : t.IssuedFor s.config issue request) (hlegible : t.IsLegible)
    (hsecret : s.config.secret ≠ []) (hcreate : t.create = .ok signed)
    (hcurrent : t.IsCurrent issue now s.config.leewaySeconds) {r : Request}
    (hheader : Http.header? r.headers "authorization" = some (Utf8.bytes ("Bearer " ++ signed)))
    (place : Nat) :
    (s.whoAmI now place r).1 = shown t.claims := by
  have hpresented := TokenContext.presented?_of_header hheader
    (Bearer.token?_bearer_of_create hcreate)
  obtain ⟨verifier, hkey, hexpectations, hwho⟩ := whoAmI_of_presented hsecret hpresented now place
  obtain ⟨signature, hsigned, rfl⟩ := Token.create_eq_ok_iff.1 hcreate
  rw [hwho, Token.verify, hissued.parse hlegible hsigned hkey hexpectations hcurrent]

/-- Whoever is answered 200 to a request for a token gets one, and if its payload has no floats and
fits, as it does if the request does not say the name of packed objects, and it expires at all, any
service of the same configuration answers 200 to whoever presents it while it is current: with the
payload that was asked for, the id of the token and the expiry told when it was issued. -/
theorem me_accepts_issued {s : Service} {issue : Instant} {place : Nat} {r : Request}
    (hmethod : r.method = "POST") (hpath : Http.path r.target = "/tokens")
    (hstatus : (s.handle issue place r).1.status = 200) :
    ∃ (request : IssueRequest) (signed expiresAt : String) (expiresIn : Json),
      IssueRequest.read r.body = .ok request
        ∧ (s.handle issue place r).1.body = (Json.obj [("token", .str signed),
          ("token_type", .str "Bearer"), ("expires_at", .str expiresAt),
          ("expires_in", expiresIn)]).text
        ∧ (¬Json.Quotes r.body Json.packedName → IssueRequest.Fits request.body)
        ∧ (request.body.toJson.isFloatFree = true → IssueRequest.Fits request.body →
          ∃ p, ParsedToken.unverified? signed = some p
            ∧ p.claims.standard.expiresAt
              = (issue.later (request.lifetime s.config)).timestamp
            ∧ (p.claims.standard.expiresAt ≠ 0 →
              ∀ (s' : Service) (now : Instant) (place' : Nat) (r' : Request),
                s'.config = s.config → r'.method = "GET" → Http.path r'.target = "/me" →
                Http.header? r'.headers "authorization"
                  = some (Utf8.bytes ("Bearer " ++ signed)) →
                issue.seconds - s.config.leewaySeconds.toNat ≤ now.seconds →
                now.seconds
                  ≤ p.claims.standard.expiresAt.toInt + s.config.leewaySeconds.toNat →
                (s'.handle now place' r').1.status = 200
                  ∧ (s'.handle now place' r').1.body = (Json.obj [("body", request.body.toJson),
                    ("subject", .str "authentication token"),
                    ("id", .str p.claims.standard.id), ("expires_at", .str expiresAt)]).text)) := by
  obtain ⟨request, g, hread, hsecret, hissued, hcreate, hbody⟩ :=
    exists_grant_of_status hmethod hpath hstatus
  refine ⟨request, g.signed, _, _, hread, hbody,
    fun hname => IssueRequest.fits_of_read hname hread, fun hfree hfits => ?_⟩
  have hlegible := hissued.isLegible hfree hfits
  obtain ⟨signature, hsigned, hsignedText⟩ := Token.create_eq_ok_iff.1 hcreate
  refine ⟨_, by rw [hsignedText]; exact hlegible.unverified?_message hsigned.dot_not_mem,
    hissued.expiresAt, ?_⟩
  intro hset s' now place' r' hconfig hmethod' hpath' hheader hfrom huntil
  obtain ⟨expiry, hexpiry⟩ := hissued.exists_expiryInstant? hset
  have hshown : (s'.whoAmI now place' r').1 = shown g.token.claims := by
    rw [← hconfig] at hissued hsecret hfrom huntil
    exact whoAmI_of_issued hissued hlegible hsecret hcreate ⟨hfrom, huntil⟩ hheader place'
  rw [handle_me hmethod' hpath', hshown]
  refine ⟨rfl, ?_⟩
  rw [body_shown hexpiry, hexpiry, hissued.body, hissued.subject]
  rfl

/-- A service that enforces both parties, of which the issuer is the empty text. -/
def sample : Service where
  config := {
    secret := [0x6B]
    algorithm := .hs512
    issuer := ""
    audience := "terminal"
    lifetime := ⟨60 * second, by decide, by decide⟩
    leewaySeconds := 5
    enforceAudience := true
    enforceIssuer := true }
  entropy := .zeros

theorem me_accepts_issued_sample :
    ∃ (request : IssueRequest) (signed expiresAt : String) (p : ParsedToken),
      IssueRequest.read sampleRequest.body = .ok request
        ∧ ParsedToken.unverified? signed = some p
        ∧ (sample.handle ⟨165, 0, by decide, by decide, by decide, by decide⟩ 0
          (presenting signed)).1.status = 200
        ∧ (sample.handle ⟨165, 0, by decide, by decide, by decide, by decide⟩ 0
          (presenting signed)).1.body = (Json.obj [("body", request.body.toJson),
            ("subject", .str "authentication token"), ("id", .str p.claims.standard.id),
            ("expires_at", .str expiresAt)]).text := by
  have hstatus : (sample.handle ⟨100, 7, by decide, by decide, by decide, by decide⟩ 0
      sampleRequest).1.status = 200 := by decide +kernel
  have hfacts : (IssueRequest.read sampleRequest.body).toOption.any (fun request =>
      request.ttlSeconds == none && request.body.toJson.isFloatFree
        && request.body.toJson.depth ≤ 126 && request.body.toJson.isUnpacked) = true := by
    decide +kernel
  have hpath : Http.path "/me" = "/me" := by decide +kernel
  obtain ⟨request, signed, expiresAt, -, hread, -, -, hme⟩ :=
    me_accepts_issued rfl (by decide +kernel) hstatus
  rw [hread] at hfacts
  simp only [Except.toOption, Option.any_some, Bool.and_eq_true, decide_eq_true_eq] at hfacts
  obtain ⟨⟨⟨httl, hfree⟩, hdepth⟩, hunpacked⟩ := hfacts
  obtain ⟨p, hp, hexpiry, hshow⟩ := hme hfree ⟨hdepth, hunpacked⟩
  rw [IssueRequest.lifetime, eq_of_beq httl] at hexpiry
  have hseconds : p.claims.standard.expiresAt = 160 := hexpiry.trans (by decide +kernel)
  refine ⟨request, signed, expiresAt, p, hread, hp,
    hshow ?_ sample _ 0 (presenting signed) rfl rfl hpath (header?_presenting signed) (by decide) ?_⟩
  · rw [hseconds]
    decide
  · rw [hseconds]
    decide

/-! ## Packed payloads -/

/-- If what it signed cannot be read, the service refuses its own token. -/
theorem status_of_read?_eq_none {s : Service} {issue now : Instant} {request : IssueRequest}
    {t : Token} {signed : String} (hissued : t.IssuedFor s.config issue request)
    (hsecret : s.config.secret ≠ []) (hcreate : t.create = .ok signed)
    (hread : Json.read? (Utf8.encode t.claims.toJson.chars) = none) {r : Request}
    (hmethod : r.method = "GET") (hpath : Http.path r.target = "/me")
    (hheader : Http.header? r.headers "authorization" = some (Utf8.bytes ("Bearer " ++ signed)))
    (place : Nat) : (s.handle now place r).1.status = 401 := by
  have hpresented := TokenContext.presented?_of_header hheader
    (Bearer.token?_bearer_of_create hcreate)
  obtain ⟨verifier, hkey, -, hwho⟩ := whoAmI_of_presented hsecret hpresented now place
  obtain ⟨signature, hsigned, rfl⟩ := Token.create_eq_ok_iff.1 hcreate
  rw [handle_me hmethod hpath, hwho, Token.verify,
    Token.parse_message_of_read?_eq_none hread hsigned (hkey.trans hissued.key.symm)]
  rfl

/-- A request for a token with a payload that is packed, but not as a text. -/
def packedRequest : Request where
  method := "POST"
  target := "/tokens"
  headers := [("content-type", Utf8.bytes "application/json")]
  body := Utf8.bytes "\x7b\"body\":\x7b\"$serde_json::private::RawValue\":1\x7d\x7d"

/-- It is answered 200, but whoever presents the token is answered 401. -/
theorem packed_request_refused :
    ∃ (request : IssueRequest) (signed expiresAt : String) (expiresIn : Json),
      IssueRequest.read packedRequest.body = .ok request
        ∧ request.body.toJson.isFloatFree = true
        ∧ (sample.handle ⟨100, 7, by decide, by decide, by decide, by decide⟩ 0
          packedRequest).1.status = 200
        ∧ (sample.handle ⟨100, 7, by decide, by decide, by decide, by decide⟩ 0
          packedRequest).1.body = (Json.obj [("token", .str signed),
            ("token_type", .str "Bearer"), ("expires_at", .str expiresAt),
            ("expires_in", expiresIn)]).text
        ∧ ∀ (now : Instant) (place : Nat),
          (sample.handle now place (presenting signed)).1.status = 401 := by
  have hstatus : (sample.handle ⟨100, 7, by decide, by decide, by decide, by decide⟩ 0
      packedRequest).1.status = 200 := by decide +kernel
  have hfacts : (IssueRequest.read packedRequest.body).toOption.any (fun request =>
      request.body.toJson.isFloatFree && request.body.toJson.depth ≤ 126
        && (Json.unpack? request.body.toJson).isNone) = true := by decide +kernel
  obtain ⟨request, g, hread, hsecret, hissued, hcreate, hbody⟩ :=
    exists_grant_of_status rfl (by decide +kernel) hstatus
  rw [hread] at hfacts
  simp only [Except.toOption, Option.any_some, Bool.and_eq_true, decide_eq_true_eq,
    Option.isNone_iff_eq_none] at hfacts
  obtain ⟨⟨hfree, hdepth⟩, hnone⟩ := hfacts
  refine ⟨request, g.signed, _, _, hread, hfree, hstatus, hbody, fun now place => ?_⟩
  rw [← hissued.body] at hfree hdepth hnone
  have hunread := Claims.read?_toJson_eq_none hfree hdepth hnone
  exact status_of_read?_eq_none hissued hsecret hcreate hunread rfl (path_presenting g.signed)
    (header?_presenting g.signed) place

end Service

end SignedToken
