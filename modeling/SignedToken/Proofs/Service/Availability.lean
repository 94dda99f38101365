import SignedToken.Proofs.Authentication.Bearer
import SignedToken.Proofs.Config
import SignedToken.Proofs.Service.Answers
import SignedToken.Proofs.Time.Later
import SignedToken.Proofs.Token.Errors

/-!
# Configurations that load work

A service whose configuration was read from variables never fails for a reason of its own, and
whoever asks for a token in a proper way gets one that has not expired.
-/

namespace SignedToken

open Service

/-! ## Lifetimes -/

theorem Service.exists_lifetimeSettings? {σ : Type} {ttl : Option Int64}
    (h : ∀ n, ttl = some n → 1 ≤ n.toInt ∧ n.toInt ≤ 9223372036854775) :
    ∃ settings : List (Setting σ), lifetimeSettings? ttl = some settings := by
  cases ttl with
  | none => exact ⟨[], rfl⟩
  | some n =>
    obtain ⟨hl, hg⟩ := h n rfl
    obtain ⟨d, hd⟩ := Duration.exists_ofSeconds? (by omega) hg
    have hpositive : 0 < n := Int64.lt_iff_toInt_lt.2 hl
    exact ⟨[.lifetime d], by rw [lifetimeSettings?, if_pos hpositive, hd, Option.map_some]⟩

/-- What a request can be granted lasts at least a second, like what is granted by default. -/
theorem IssueRequest.second_le_lifetime {σ : Type} {c : Config} (hc : c.IsUsable)
    {request : IssueRequest} {settings : List (Setting σ)}
    (h : lifetimeSettings? request.ttlSeconds = some settings) :
    second ≤ (request.lifetime c).nanoseconds := by
  rw [IssueRequest.lifetime]
  cases httl : request.ttlSeconds with
  | none => exact hc.second_le_lifetime
  | some n =>
    rw [httl, lifetimeSettings?] at h
    split at h
    · rename_i hpositive
      obtain ⟨d, hd, -⟩ := Option.map_eq_some_iff.1 h
      have hn : 1 ≤ n.toInt := Int64.lt_iff_toInt_lt.1 hpositive
      rw [Option.bind_some, hd, Option.getD_some, Duration.ofSeconds?_eq_some_iff.1 hd,
        ← Int.one_mul second]
      exact Int.mul_le_mul_of_nonneg_right hn (by decide)
    · cases h

theorem Token.IssuedFor.lt_expiresAt {c : Config} {now : Instant} {request : IssueRequest}
    {t : Token} (h : t.IssuedFor c now request)
    (hlifetime : second ≤ (request.lifetime c).nanoseconds) :
    now.seconds < t.claims.standard.expiresAt.toInt
      ∨ t.claims.standard.expiresAt.toInt = 8210266876799 := by
  rw [h.expiresAt, Instant.toInt_timestamp]
  rcases now.seconds_lt_later hlifetime with hlt | heq
  · exact .inl hlt
  · exact .inr heq

namespace Service

variable {s : Service}

/-! ## Answers -/

theorem exists_grant (hs : s.config.IsUsable) {request : IssueRequest}
    {settings : List (Setting Nat)}
    (hsettings : lifetimeSettings? request.ttlSeconds = some settings) (now : Instant)
    (place : Nat) : ∃ g place', s.grant now place request = (.ok g, place') := by
  obtain ⟨g, -, -, hgrant⟩ := grant_of_secret hs.secret_ne_nil hs.algorithm_mem hsettings now place
  exact ⟨g, _, hgrant⟩

theorem status_of_issue (hs : s.config.IsUsable) (now : Instant) (place : Nat)
    (request : IssueRequest) : (s.issue now place request).1.status ∈ [200, 400] := by
  cases hsettings : (lifetimeSettings? request.ttlSeconds : Option (List (Setting Nat))) with
  | none =>
    rw [issue_of_lifetimeSettings?_eq_none hsettings]
    exact List.mem_cons_of_mem _ List.mem_cons_self
  | some settings =>
    obtain ⟨g, place', hgrant⟩ := exists_grant hs hsettings now place
    rw [issue, hgrant]
    exact List.mem_cons_self

/-- What a service can answer, of which none is its own fault. -/
def statuses : List Nat := [200, 400, 401, 404, 405, 413, 415, 422]

theorem status_of_respond (hs : s.config.IsUsable) (now : Instant) (place : Nat) (r : Request)
    (route : Route) : (s.respond now place r route).1.status ∈ statuses := by
  cases route with
  | health => exact List.mem_cons_self
  | tokens =>
    rw [respond]
    cases hrequest : readRequest r with
    | error response =>
      have hsub : [400, 413, 415, 422] ⊆ statuses := by decide
      exact hsub (status_of_readRequest hrequest)
    | ok request =>
      have hsub : [200, 400] ⊆ statuses := by decide
      exact hsub (status_of_issue hs now place request)
  | me =>
    have hsub : [200, 401] ⊆ statuses := by decide
    exact hsub (status_of_whoAmI hs.secret_ne_nil now place r)

theorem status_of_handle (hs : s.config.IsUsable) (now : Instant) (place : Nat) (r : Request) :
    (s.handle now place r).1.status ∈ statuses := by
  rw [handle]
  dsimp only
  split
  · exact List.mem_cons_self
  split
  · show 404 ∈ statuses
    decide
  split
  · exact status_of_respond hs now place r _
  · show 405 ∈ statuses
    decide

/-! ## Availability -/

/-- Whatever the variables are, if they can be read as a configuration, the service never answers
500; and whoever posts a request that can be read, for a lifetime of up to 2^63 - 1 milliseconds or
without naming one, is answered 200 with a token for the payload, which expires in a later second
than it was issued in or at the end of the calendar. Its claims can be read without the key if the
payload has no floats and fits, as it does if the request does not say the name of packed
objects. -/
theorem available_of_ofVariables {lookup : String → Option String}
    (h : Config.ofVariables lookup = .ok s.config) (now : Instant) (place : Nat) (r : Request) :
    (s.handle now place r).1.status ≠ 500
      ∧ ∀ request, r.method = "POST" → Http.path r.target = "/tokens" → hasJsonBody r = true →
        r.body.length ≤ bodyLimit → IssueRequest.read r.body = .ok request →
        (∀ n, request.ttlSeconds = some n → 1 ≤ n.toInt ∧ n.toInt ≤ 9223372036854775) →
        (s.handle now place r).1.status = 200
          ∧ ∃ (token : Token) (signed expiresAt : String) (expiresIn : Json),
            (s.handle now place r).1.body = (Json.obj [("token", .str signed),
                ("token_type", .str "Bearer"), ("expires_at", .str expiresAt),
                ("expires_in", expiresIn)]).text
              ∧ token.create = .ok signed ∧ token.claims.body = request.body
              ∧ (now.seconds < token.claims.standard.expiresAt.toInt
                ∨ token.claims.standard.expiresAt.toInt = 8210266876799)
              ∧ (∀ p, ParsedToken.unverified? signed = some p →
                p.claims.standard = token.claims.standard)
              ∧ (¬Json.Quotes r.body Json.packedName → IssueRequest.Fits request.body)
              ∧ (request.body.toJson.isFloatFree = true → IssueRequest.Fits request.body →
                ∃ p, ParsedToken.unverified? signed = some p ∧ p.claims = token.claims) := by
  have hs := Config.isUsable_of_ofVariables h
  refine ⟨ne_of_mem_of_not_mem (status_of_handle hs now place r) (by decide), ?_⟩
  intro request hmethod hpath htype hlength hread httl
  obtain ⟨settings, hsettings⟩ := exists_lifetimeSettings? httl
  obtain ⟨g, place', hgrant⟩ := exists_grant hs hsettings now place
  obtain ⟨-, hissued, hcreate⟩ := grant_eq_ok hgrant
  have hrespond : s.respond now place r .tokens = (issued now g, place') := by
    rw [respond, readRequest_of_read htype hlength hread]
    dsimp only
    rw [issue, hgrant]
  rw [handle_tokens hmethod hpath, hrespond]
  refine ⟨rfl, g.token, g.signed, _, _, rfl, hcreate, hissued.body, ?_, ?_, ?_, ?_⟩
  · exact hissued.lt_expiresAt (IssueRequest.second_le_lifetime hs hsettings)
  · intro p hp
    exact Token.standard_of_unverified? hcreate hp
  · exact fun hname => IssueRequest.fits_of_read hname hread
  · intro hfree hfits
    exact (hissued.isLegible hfree hfits).exists_unverified? hcreate

def briefVariables (name : String) : Option String :=
  if name = "TOKEN_SECRET" then some "k"
  else if name = "TOKEN_TTL_SECONDS" then some " +1"
  else none

/-- A service whose tokens last one second. -/
def brief : Service where
  config := { secret := [0x6B], lifetime := ⟨1 * second, by decide, by decide⟩ }
  entropy := .zeros

/-- The sample is asked for in a leap second. -/
theorem available_of_ofVariables_brief :
    Config.ofVariables briefVariables = .ok brief.config
      ∧ ∃ (request : IssueRequest) (token : Token) (signed : String),
        IssueRequest.read sampleRequest.body = .ok request
          ∧ (brief.handle ⟨59, 1500000000, by decide, by decide, by decide, by decide⟩ 0
            sampleRequest).1.status = 200
          ∧ token.create = .ok signed ∧ token.claims.body = request.body
          ∧ (59 < token.claims.standard.expiresAt.toInt
            ∨ token.claims.standard.expiresAt.toInt = 8210266876799) := by
  have hconfig : Config.ofVariables briefVariables = .ok brief.config := rfl
  have hfacts : (IssueRequest.read sampleRequest.body).toOption.any
      (fun request => request.ttlSeconds == none) = true := by decide +kernel
  cases hread : IssueRequest.read sampleRequest.body with
  | error e =>
    rw [hread] at hfacts
    cases hfacts
  | ok request =>
    rw [hread] at hfacts
    have httl : ∀ n, request.ttlSeconds = some n → 1 ≤ n.toInt ∧ n.toInt ≤ 9223372036854775 := by
      intro n hn
      rw [eq_of_beq hfacts] at hn
      cases hn
    obtain ⟨-, havailable⟩ := available_of_ofVariables hconfig
      ⟨59, 1500000000, by decide, by decide, by decide, by decide⟩ 0 sampleRequest
    obtain ⟨hstatus, token, signed, _, _, -, hcreate, hbody, hexpiry, -⟩ :=
      havailable request rfl (by decide +kernel) (by decide +kernel) (by decide +kernel) hread httl
    exact ⟨hconfig, request, token, signed, rfl, hstatus, hcreate, hbody, hexpiry⟩

end Service

end SignedToken
