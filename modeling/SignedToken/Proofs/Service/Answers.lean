import SignedToken.Proofs.Authentication.Context
import SignedToken.Proofs.Service.IssueRequest
import SignedToken.Proofs.Token.Errors
import SignedToken.Proofs.Token.RoundTrip
import SignedToken.Service.Router

/-!
# What the service answers

What stands behind an answer: the token that a request for one is granted, and the verifier that a
presented token meets.
-/

namespace SignedToken

/-! ## Issuing -/

/-- The lifetime asked for, or else the one of the configuration. -/
def IssueRequest.lifetime (c : Config) (request : IssueRequest) : Duration :=
  (request.ttlSeconds.bind fun n => Duration.ofSeconds? n.toInt).getD c.lifetime

/-- The token is what a configuration makes of a request at `now`. -/
structure Token.IssuedFor (c : Config) (now : Instant) (request : IssueRequest) (t : Token) :
    Prop where
  key : t.key = c.secret
  algorithm : t.algorithm = c.algorithm
  body : t.claims.body = request.body
  audience : t.claims.standard.audience = c.audience
  expiresAt : t.claims.standard.expiresAt = (now.later (request.lifetime c)).timestamp
  issuedAt : t.claims.standard.issuedAt = now.timestamp
  issuer : t.claims.standard.issuer = c.issuer
  notBefore : t.claims.standard.notBefore = now.timestamp
  subject : t.claims.standard.subject = StandardClaims.defaultSubject

/-- A token is legible if the payload asked for has no floats and fits. -/
theorem Token.IssuedFor.isLegible {c : Config} {now : Instant} {request : IssueRequest} {t : Token}
    (h : t.IssuedFor c now request) (hfree : request.body.toJson.isFloatFree = true)
    (hfits : IssueRequest.Fits request.body) : t.IsLegible where
  floatFree := by
    rw [h.body]
    exact hfree
  depth_le := by
    rw [h.body]
    exact hfits.depth_le
  unpacked := by
    rw [h.body]
    exact hfits.isUnpacked

/-- A set expiry is the start of a second of the calendar. -/
theorem Token.IssuedFor.expiryInstant?_eq {c : Config} {now : Instant} {request : IssueRequest}
    {t : Token} (h : t.IssuedFor c now request) (hset : t.claims.standard.expiresAt ≠ 0) :
    t.claims.standard.expiryInstant? = some (now.later (request.lifetime c)).wholeSecond := by
  rw [h.expiresAt] at hset
  rw [StandardClaims.expiryInstant?, h.expiresAt, StandardClaims.instantOf?_timestamp hset]

namespace Service

/-- The draft of a request: only payload and expiry differ from those of the configuration. -/
theorem requestDraft_eq {σ : Type} {c : Config} {request : IssueRequest}
    {settings : List (Setting σ)} (h : lifetimeSettings? request.ttlSeconds = some settings)
    (now : Instant) (generate : σ → String × σ) :
    (Draft.ofConfig now generate c).setAll now (.body request.body :: settings) = {
      key := c.secret
      algorithm := c.algorithm
      body := request.body
      audience := c.audience
      issuer := c.issuer
      expiresAt := some (now.later (request.lifetime c)).timestamp
      generate
      expectations := c.expectations } := by
  rw [Draft.ofConfig_eq, IssueRequest.lifetime]
  cases httl : request.ttlSeconds with
  | none =>
    rw [httl] at h
    cases h
    rfl
  | some n =>
    rw [httl, lifetimeSettings?] at h
    split at h
    · obtain ⟨d, hd, rfl⟩ := Option.map_eq_some_iff.1 h
      rw [Option.bind_some, hd]
      rfl
    · cases h

/-- With a secret, there is a token for every request whose lifetime can be had; its id is drawn. -/
theorem exists_build {σ : Type} {c : Config} {request : IssueRequest} {settings : List (Setting σ)}
    (hsecret : c.secret ≠ []) (hsettings : lifetimeSettings? request.ttlSeconds = some settings)
    (now : Instant) (generate : σ → String × σ) (place : σ) :
    ∃ token : Token, token.IssuedFor c now request
      ∧ token.claims.standard.id = (generate place).1
      ∧ ((Draft.ofConfig now generate c).setAll now (.body request.body :: settings)).build now place
        = .ok (token, (generate place).2) := by
  rw [requestDraft_eq hsettings, Draft.build_of_key hsecret]
  refine ⟨_, ?_, rfl, rfl⟩
  exact {
    key := rfl
    algorithm := rfl
    body := rfl
    audience := rfl
    expiresAt := rfl
    issuedAt := rfl
    issuer := rfl
    notBefore := rfl
    subject := rfl }

theorem grant_eq_ok {s : Service} {now : Instant} {place place' : Nat} {request : IssueRequest}
    {g : Grant} (h : s.grant now place request = (.ok g, place')) :
    s.config.secret ≠ [] ∧ g.token.IssuedFor s.config now request
      ∧ g.token.create = .ok g.signed := by
  unfold grant at h
  split at h
  · cases h
  rename_i settings hsettings
  dsimp only at h
  split at h
  · cases h
  rename_i token after hbuild
  split at h
  · cases h
  rename_i signed hcreate
  cases h
  by_cases hsecret : s.config.secret ≠ []
  · obtain ⟨token', hissued, -, hbuild'⟩ :=
      exists_build hsecret hsettings now (Identifier.random s.entropy) place
    rw [hbuild] at hbuild'
    cases hbuild'
    exact ⟨hsecret, hissued, hcreate⟩
  · rw [requestDraft_eq hsettings, Draft.build, dif_neg hsecret] at hbuild
    cases hbuild

theorem issue_of_lifetimeSettings?_eq_none {s : Service} {now : Instant} {place : Nat}
    {request : IssueRequest}
    (h : (lifetimeSettings? request.ttlSeconds : Option (List (Setting Nat))) = none) :
    s.issue now place request = (invalidTtl, place) := by
  rw [issue, grant, h]

theorem grant_of_secret {s : Service} (hsecret : s.config.secret ≠ [])
    (halgorithm : s.config.algorithm ∈ [Algorithm.hs256, .hs384, .hs512]) {request : IssueRequest}
    {settings : List (Setting Nat)}
    (hsettings : lifetimeSettings? request.ttlSeconds = some settings) (now : Instant)
    (place : Nat) :
    ∃ g : Grant, g.token.claims.standard.id = (Identifier.random s.entropy place).1
      ∧ g.token.create = .ok g.signed
      ∧ s.grant now place request = (.ok g, (Identifier.random s.entropy place).2) := by
  obtain ⟨token, hissued, hid, hbuild⟩ :=
    exists_build hsecret hsettings now (Identifier.random s.entropy) place
  obtain ⟨signed, hcreate⟩ : ∃ signed, token.create = .ok signed := by
    refine Token.exists_create ?_
    rw [hissued.algorithm]
    exact halgorithm
  refine ⟨⟨token, signed⟩, hid, hcreate, ?_⟩
  rw [grant, hsettings]
  dsimp only
  rw [hbuild]
  dsimp only
  rw [hcreate]

/-! ## Answers -/

theorem readRequest_eq_ok {r : Request} {request : IssueRequest}
    (h : readRequest r = .ok request) : IssueRequest.read r.body = .ok request := by
  unfold readRequest at h
  split at h
  · cases h
  split at h
  · cases h
  · exact Outcome.mapError_eq_ok.1 h

theorem readRequest_of_read {r : Request} {request : IssueRequest} (htype : hasJsonBody r = true)
    (hlength : r.body.length ≤ bodyLimit) (h : IssueRequest.read r.body = .ok request) :
    readRequest r = .ok request := by
  rw [readRequest, htype, if_neg (by decide), if_neg (Nat.not_lt.2 hlength), h]
  rfl

theorem respond_tokens_of_read {r : Request} {request : IssueRequest} (htype : hasJsonBody r = true)
    (hlength : r.body.length ≤ bodyLimit) (h : IssueRequest.read r.body = .ok request) (s : Service)
    (now : Instant) (place : Nat) : s.respond now place r .tokens = s.issue now place request := by
  rw [respond, readRequest_of_read htype hlength h]

theorem status_of_readRequest {r : Request} {response : Response}
    (h : readRequest r = .error response) : response.status ∈ [400, 413, 415, 422] := by
  unfold readRequest at h
  split at h
  · cases h
    decide
  split at h
  · cases h
    decide
  · obtain ⟨e, -, rfl⟩ := Outcome.mapError_eq_error.1 h
    cases e <;> decide

theorem status_of_rejection (e : AuthRejection) : e.response.status ∈ [401, 500] := by
  cases e with
  | missingAuthorization => decide
  | invalidAuthorization => decide
  | token e =>
    show (if e.isConfiguration then 500 else 401) ∈ [401, 500]
    split <;> decide

/-- Besides a lifetime that cannot be had, it is building and signing that can fail. -/
theorem grant_eq_error {s : Service} {now : Instant} {place place' : Nat} {request : IssueRequest}
    {response : Response} (h : s.grant now place request = (.error response, place')) :
    (lifetimeSettings? request.ttlSeconds : Option (List (Setting Nat))) = none
        ∧ response = invalidTtl
      ∨ ∃ e : TokenError, response = (AuthRejection.token e).response := by
  unfold grant at h
  split at h
  · rename_i hsettings
    cases h
    exact .inl ⟨hsettings, rfl⟩
  dsimp only at h
  split at h
  · cases h
    exact .inr ⟨_, rfl⟩
  split at h
  · cases h
    exact .inr ⟨_, rfl⟩
  · cases h

theorem status_of_grant {s : Service} {now : Instant} {place place' : Nat} {request : IssueRequest}
    {response : Response} (h : s.grant now place request = (.error response, place')) :
    response.status ∈ [400, 401, 500] := by
  rcases grant_eq_error h with ⟨-, rfl⟩ | ⟨e, rfl⟩
  · exact List.mem_cons_self
  · exact List.mem_cons_of_mem _ (status_of_rejection _)

/-- Only a request that can be read and granted is answered 200. -/
theorem respond_tokens_of_status {s : Service} {now : Instant} {place : Nat} {r : Request}
    (h : (s.respond now place r .tokens).1.status = 200) :
    ∃ request g place', IssueRequest.read r.body = .ok request
      ∧ s.grant now place request = (.ok g, place')
      ∧ s.respond now place r .tokens = (issued now g, place') := by
  unfold respond at h ⊢
  cases hrequest : readRequest r with
  | error response =>
    rw [hrequest] at h
    have hstatus := status_of_readRequest hrequest
    rw [h] at hstatus
    exact absurd hstatus (by decide)
  | ok request =>
    rw [hrequest] at h
    dsimp only at h ⊢
    unfold issue at h ⊢
    cases hgrant : s.grant now place request with
    | mk result place' =>
      rw [hgrant] at h
      cases result with
      | error response =>
        have hstatus := status_of_grant hgrant
        rw [h] at hstatus
        exact absurd hstatus (by decide)
      | ok g => exact ⟨request, g, place', readRequest_eq_ok hrequest, hgrant, rfl⟩

end Service

/-! ## Showing -/

/-- The expiry as it is shown. -/
def StandardClaims.shownExpiry (c : StandardClaims) : Json :=
  match c.expiryInstant? with
  | some t => .str t.text
  | none => .null

theorem StandardClaims.shownExpiry_of_expiryInstant? {c : StandardClaims} {e : Instant}
    (h : c.expiryInstant? = some e) : c.shownExpiry = .str e.text := by
  rw [shownExpiry, h]

namespace Service

theorem body_shown_eq (c : Claims) :
    (finish false (shown c)).body = (Json.obj [("body", c.body.toJson),
      ("subject", .str c.standard.subject), ("id", .str c.standard.id),
      ("expires_at", c.standard.shownExpiry)]).text :=
  rfl

theorem body_shown {c : Claims} {e : Instant} (h : c.standard.expiryInstant? = some e) :
    (finish false (shown c)).body = (Json.obj [("body", c.body.toJson),
      ("subject", .str c.standard.subject), ("id", .str c.standard.id),
      ("expires_at", .str e.text)]).text := by
  rw [body_shown_eq, StandardClaims.shownExpiry_of_expiryInstant? h]

section
variable {s : Service} {now : Instant} {place : Nat} {r : Request} {signed : String}

theorem whoAmI_of_not_presented {rejection : AuthRejection}
    (h : TokenContext.presented? r.headers = .error rejection) :
    s.whoAmI now place r = (rejection.response, place) := by
  rw [whoAmI, TokenContext.ofHeaders, h]

theorem whoAmI_of_secret_eq_nil (hsecret : s.config.secret = [])
    (hpresented : TokenContext.presented? r.headers = .ok signed) :
    s.whoAmI now place r = ((AuthRejection.token .missingKey).response, place) := by
  have hkey : (Draft.ofConfig now (Identifier.random s.entropy) s.config).key = [] := by
    rw [Draft.ofConfig_eq]
    exact hsecret
  rw [whoAmI, TokenContext.ofHeaders, hpresented]
  dsimp only
  rw [Draft.build_of_key_eq_nil hkey]

theorem whoAmI_of_build {verifier : Token} {after : Nat}
    (hpresented : TokenContext.presented? r.headers = .ok signed)
    (hbuild : (Draft.ofConfig now (Identifier.random s.entropy) s.config).build now place
      = .ok (verifier, after)) :
    s.whoAmI now place r = (match verifier.verify now signed with
        | .ok claims => shown claims
        | .error e => (AuthRejection.token e).response,
      after) := by
  rw [whoAmI, TokenContext.ofHeaders_of_build hpresented hbuild]
  cases verifier.verify now signed with
  | ok claims => rfl
  | error e => rfl

end

theorem whoAmI_of_presented {s : Service} {r : Request} {signed : String}
    (hsecret : s.config.secret ≠ [])
    (hpresented : TokenContext.presented? r.headers = .ok signed) (now : Instant) (place : Nat) :
    ∃ verifier : Token, verifier.key = s.config.secret
      ∧ verifier.expectations = s.config.expectations
      ∧ s.whoAmI now place r = (match verifier.verify now signed with
          | .ok claims => shown claims
          | .error e => (AuthRejection.token e).response,
        (Identifier.random s.entropy place).2) := by
  obtain ⟨verifier, hkey, hexpectations, hbuild⟩ :=
    Draft.exists_build_ofConfig hsecret now (Identifier.random s.entropy) place
  exact ⟨verifier, hkey, hexpectations, whoAmI_of_build hpresented hbuild⟩

theorem status_of_presented? {headers : List (String × List UInt8)} {rejection : AuthRejection}
    (h : TokenContext.presented? headers = .error rejection) : rejection.status = 401 := by
  rcases TokenContext.presented?_eq_error h with rfl | rfl <;> rfl

theorem status_of_whoAmI {s : Service} (hsecret : s.config.secret ≠ []) (now : Instant)
    (place : Nat) (r : Request) : (s.whoAmI now place r).1.status ∈ [200, 401] := by
  cases hpresented : TokenContext.presented? r.headers with
  | error rejection =>
    have hstatus : rejection.response.status = 401 := status_of_presented? hpresented
    rw [whoAmI_of_not_presented hpresented, hstatus]
    exact List.mem_cons_of_mem _ List.mem_cons_self
  | ok signed =>
    obtain ⟨verifier, -, -, hwho⟩ := whoAmI_of_presented hsecret hpresented now place
    rw [hwho]
    cases hverify : verifier.verify now signed with
    | ok claims => exact List.mem_cons_self
    | error e =>
      have hstatus : (AuthRejection.token e).response.status = 401 := Token.status_of_verify hverify
      dsimp only
      rw [hstatus]
      exact List.mem_cons_of_mem _ List.mem_cons_self

/-- Only claims that a verifier of the configuration accepts are shown. -/
theorem accepted_of_status {s : Service} {now : Instant} {place : Nat} {r : Request}
    (h : (s.whoAmI now place r).1.status = 200) :
    ∃ (verifier : Token) (signed : String) (claims : Claims),
      verifier.key = s.config.secret ∧ verifier.expectations = s.config.expectations
        ∧ TokenContext.presented? r.headers = .ok signed ∧ verifier.verify now signed = .ok claims
        ∧ (s.whoAmI now place r).1 = shown claims := by
  have hrejection (e : AuthRejection) : e.response.status ≠ 200 :=
    ne_of_mem_of_not_mem (status_of_rejection e) (by decide)
  cases hpresented : TokenContext.presented? r.headers with
  | error rejection =>
    rw [whoAmI_of_not_presented hpresented] at h
    exact absurd h (hrejection rejection)
  | ok signed =>
    by_cases hsecret : s.config.secret = []
    · rw [whoAmI_of_secret_eq_nil hsecret hpresented] at h
      exact absurd h (hrejection _)
    · obtain ⟨verifier, hkey, hexpectations, hwho⟩ :=
        whoAmI_of_presented hsecret hpresented now place
      rw [hwho] at h ⊢
      cases hverify : verifier.verify now signed with
      | error e =>
        rw [hverify] at h
        exact absurd h (hrejection _)
      | ok claims => exact ⟨verifier, signed, claims, hkey, hexpectations, rfl, hverify, rfl⟩

theorem handle_tokens {s : Service} {now : Instant} {place : Nat} {r : Request}
    (hmethod : r.method = "POST") (hpath : Http.path r.target = "/tokens") :
    s.handle now place r
      = (finish false (s.respond now place r .tokens).1, (s.respond now place r .tokens).2) := by
  rw [handle, hmethod, hpath]
  rfl

/-- Whoever is answered 200 to a request for a token gets one that was made as asked for. -/
theorem exists_grant_of_status {s : Service} {now : Instant} {place : Nat} {r : Request}
    (hmethod : r.method = "POST") (hpath : Http.path r.target = "/tokens")
    (h : (s.handle now place r).1.status = 200) :
    ∃ (request : IssueRequest) (g : Grant), IssueRequest.read r.body = .ok request
      ∧ s.config.secret ≠ [] ∧ g.token.IssuedFor s.config now request
      ∧ g.token.create = .ok g.signed
      ∧ (s.handle now place r).1.body = (Json.obj [("token", .str g.signed),
        ("token_type", .str "Bearer"),
        ("expires_at", .str (g.token.claims.standard.expiryInstant?.getD now).text),
        ("expires_in", Json.ofInt64 (.ofInt
          ((g.token.claims.standard.expiryInstant?.getD now).secondsSince now)))]).text := by
  rw [handle_tokens hmethod hpath] at h ⊢
  obtain ⟨request, g, after, hread, hgrant, hrespond⟩ := respond_tokens_of_status h
  obtain ⟨hsecret, hissued, hcreate⟩ := grant_eq_ok hgrant
  exact ⟨request, g, hread, hsecret, hissued, hcreate, by rw [hrespond]; rfl⟩

theorem handle_me {s : Service} {now : Instant} {place : Nat} {r : Request}
    (hmethod : r.method = "GET") (hpath : Http.path r.target = "/me") :
    s.handle now place r
      = (finish false (s.whoAmI now place r).1, (s.whoAmI now place r).2) := by
  rw [handle, hmethod, hpath]
  rfl

/-! ## Samples -/

def keyed (secret : List UInt8) : Service where
  config := { secret }
  entropy := .zeros

/-- A request for a token with the name of a claim in its payload. -/
def sampleRequest : Request where
  method := "POST"
  target := "/tokens"
  headers := [("content-type", Utf8.bytes "application/json")]
  body := Utf8.bytes "\x7b\"body\":\x7b\"exp\":[\"\\n\"]\x7d\x7d"

def presenting (signed : String) : Request where
  method := "GET"
  target := "/me"
  headers := [("Authorization", Utf8.bytes ("Bearer " ++ signed))]
  body := []

theorem header?_presenting (signed : String) :
    Http.header? (presenting signed).headers "authorization"
      = some (Utf8.bytes ("Bearer " ++ signed)) := by
  have hname : Http.sameName "Authorization" "authorization" = true := by decide +kernel
  have hfind := List.find?_cons_of_pos (p := fun h => Http.sameName h.1 "authorization")
    (a := ("Authorization", Utf8.bytes ("Bearer " ++ signed))) (l := []) hname
  rw [Http.header?, presenting, hfind]
  rfl

theorem path_presenting (signed : String) : Http.path (presenting signed).target = "/me" := by
  show Http.path "/me" = "/me"
  decide +kernel

end Service

end SignedToken
