import SignedToken.Proofs.Authentication.Bearer
import SignedToken.Proofs.Service.Answers
import SignedToken.Proofs.Time.Since

/-!
# Lifetimes that are asked for

A request may name the lifetime of its token in seconds. What lifetimes can be had does not depend
on the configuration. The expiry of a token lies that many seconds after the second of issue, or at
the end of the calendar, and is told alike when the token is issued and when it is shown.
-/

namespace SignedToken

open Service

/-! ## Lifetimes -/

theorem Service.lifetimeSettings?_eq_none_iff {σ : Type} {n : Int64} :
    (lifetimeSettings? (some n) : Option (List (Setting σ))) = none
      ↔ n.toInt ≤ 0 ∨ 9223372036854775 < n.toInt := by
  rw [lifetimeSettings?]
  by_cases hpositive : 0 < n
  · have hn : 0 < n.toInt := Int64.lt_iff_toInt_lt.1 hpositive
    rw [if_pos hpositive, Option.map_eq_none_iff]
    cases hd : Duration.ofSeconds? n.toInt with
    | some d =>
      obtain ⟨-, hle⟩ := Duration.bounds_of_ofSeconds? hd
      exact iff_of_false (fun h => by cases h) (by omega)
    | none =>
      refine iff_of_true rfl (.inr (Int.not_le.1 fun hle => ?_))
      obtain ⟨d, hd'⟩ := Duration.exists_ofSeconds? (by omega) hle
      rw [hd] at hd'
      cases hd'
  · have hn : ¬0 < n.toInt := fun hn => hpositive (Int64.lt_iff_toInt_lt.2 hn)
    exact iff_of_true (if_neg hpositive) (.inl (Int.not_lt.1 hn))

theorem IssueRequest.nanoseconds_lifetime {request : IssueRequest} {n : Int64}
    (httl : request.ttlSeconds = some n) (hn : 0 < n.toInt) (hle : n.toInt ≤ 9223372036854775)
    (c : Config) : (request.lifetime c).nanoseconds = n.toInt * second := by
  obtain ⟨d, hd⟩ := Duration.exists_ofSeconds? (by omega) hle
  rw [IssueRequest.lifetime, httl, Option.bind_some, hd, Option.getD_some]
  exact Duration.ofSeconds?_eq_some_iff.1 hd

theorem Token.IssuedFor.toInt_expiresAt {c : Config} {now : Instant} {request : IssueRequest}
    {t : Token} (h : t.IssuedFor c now request) {n : Int64} (httl : request.ttlSeconds = some n)
    (hn : 0 < n.toInt) (hle : n.toInt ≤ 9223372036854775) :
    t.claims.standard.expiresAt.toInt = min (now.seconds + n.toInt) 8210266876799 := by
  rw [h.expiresAt, Instant.toInt_timestamp]
  exact Instant.seconds_later_of_seconds hn (IssueRequest.nanoseconds_lifetime httl hn hle c)

/-- In a time that the service can run at, a token issued for some seconds has an expiry. -/
theorem Token.IssuedFor.exists_expiry {c : Config} {now : Instant} {request : IssueRequest}
    {t : Token} (h : t.IssuedFor c now request) {n : Int64} (httl : request.ttlSeconds = some n)
    (hn : 0 < n.toInt) (hle : n.toInt ≤ 9223372036854775) (hfrom : 0 ≤ now.seconds) :
    ∃ e, t.claims.standard.expiryInstant? = some e
      ∧ e.seconds = t.claims.standard.expiresAt.toInt ∧ e.subsecond = 0 := by
  have hset : t.claims.standard.expiresAt ≠ 0 := by
    intro hzero
    have hexp := h.toInt_expiresAt httl hn hle
    rw [hzero, Int64.toInt_zero] at hexp
    omega
  refine ⟨_, h.expiryInstant?_eq hset, ?_, rfl⟩
  rw [h.expiresAt, Instant.toInt_timestamp]
  rfl

namespace Service

variable {s : Service} {now : Instant} {place : Nat} {r : Request}

/-! ## Answers -/

/-- Whether a token could be made or not, only a lifetime that cannot be had is answered 400. -/
theorem status_of_issue_eq_iff {request : IssueRequest} :
    (s.issue now place request).1.status = 400
      ↔ (lifetimeSettings? request.ttlSeconds : Option (List (Setting Nat))) = none := by
  constructor
  · intro hstatus
    rw [issue] at hstatus
    cases hgrant : s.grant now place request with
    | mk result place' =>
      rw [hgrant] at hstatus
      cases result with
      | ok g => cases hstatus
      | error response =>
        rcases grant_eq_error hgrant with ⟨hnone, -⟩ | ⟨e, rfl⟩
        · exact hnone
        · exact absurd hstatus (ne_of_mem_of_not_mem (status_of_rejection _) (by decide))
  · intro hnone
    rw [issue_of_lifetimeSettings?_eq_none hnone]
    rfl

/-- A service that can sign issues a token for every lifetime that can be had. -/
theorem exists_issued {request : IssueRequest}
    (h : (lifetimeSettings? request.ttlSeconds : Option (List (Setting Nat))) ≠ none)
    (hsecret : s.config.secret ≠ [])
    (halgorithm : s.config.algorithm ∈ [Algorithm.hs256, .hs384, .hs512]) (now : Instant)
    (place : Nat) :
    ∃ g : Grant, g.token.IssuedFor s.config now request ∧ g.token.create = .ok g.signed
      ∧ (s.issue now place request).1 = issued now g := by
  obtain ⟨settings, hsettings⟩ := Option.ne_none_iff_exists'.1 h
  obtain ⟨g, -, hcreate, hgrant⟩ := grant_of_secret hsecret halgorithm hsettings now place
  obtain ⟨-, hissued, -⟩ := grant_eq_ok hgrant
  refine ⟨g, hissued, hcreate, ?_⟩
  rw [issue, hgrant]

/-- A lifetime of some seconds is answered with the second that it leads to, and with how long that
is from now on. -/
theorem body_issued {c : Config} {request : IssueRequest} {g : Grant} {n : Int64}
    (hissued : g.token.IssuedFor c now request) (httl : request.ttlSeconds = some n)
    (hn : 0 < n.toInt) (hle : n.toInt ≤ 9223372036854775)
    (huntil : now.nanoseconds ≤ Instant.latest.nanoseconds) {e : Instant}
    (he : g.token.claims.standard.expiryInstant? = some e)
    (hseconds : e.seconds = g.token.claims.standard.expiresAt.toInt) (hwhole : e.subsecond = 0) :
    ∃ expiresIn : Int64,
      (finish false (issued now g)).body = (Json.obj [("token", .str g.signed),
          ("token_type", .str "Bearer"), ("expires_at", .str e.text),
          ("expires_in", Json.ofInt64 expiresIn)]).text
        ∧ expiresIn.toInt = e.secondsSince now
        ∧ 0 ≤ expiresIn.toInt ∧ expiresIn.toInt ≤ n.toInt := by
  rw [hissued.toInt_expiresAt httl hn hle] at hseconds
  obtain ⟨hl, hg⟩ := Instant.secondsSince_bounds hn hwhole hseconds huntil
  have hfits : (Int64.ofInt (e.secondsSince now)).toInt = e.secondsSince now :=
    Int64.toInt_ofInt_of_le (by omega) (by omega)
  refine ⟨.ofInt (e.secondsSince now), ?_, hfits, ?_, ?_⟩
  · rw [issued, he]
    rfl
  · rw [hfits]
    exact hl
  · rw [hfits]
    exact hg

/-- Whatever shows a token shows its expiry. -/
theorem body_me_of_create {t : Token} {signed : String} {e : Instant} {value : List UInt8}
    (hcreate : t.create = .ok signed) (he : t.claims.standard.expiryInstant? = some e)
    (hmethod : r.method = "GET") (hpath : Http.path r.target = "/me")
    (hheader : Http.header? r.headers "authorization" = some value)
    (hbearer : Bearer.token? value = some signed)
    (hstatus : (s.handle now place r).1.status = 200) :
    ∃ body : Json, (s.handle now place r).1.body = (Json.obj [("body", body),
      ("subject", .str t.claims.standard.subject), ("id", .str t.claims.standard.id),
      ("expires_at", .str e.text)]).text := by
  rw [handle_me hmethod hpath] at hstatus ⊢
  obtain ⟨verifier, text, claims, -, -, hpresented, hverify, hshown⟩ := accepted_of_status hstatus
  rw [TokenContext.presented?_of_header hheader hbearer] at hpresented
  cases hpresented
  have hstandard := Token.standard_of_verify hcreate hverify
  rw [← hstandard] at he ⊢
  rw [hshown, body_shown he]
  exact ⟨_, rfl⟩

/-- A request for a token that can be read and that names a lifetime is answered 400, in whatever
way the service is set up, just if the lifetime is not positive or longer than a duration can be.
Otherwise a service that can sign makes a token for it, which expires as many seconds after the
second of `now`, or with the calendar. This is the expiry that the answer tells, and that anyone who
presents the token and is answered 200 is shown, by whatever service. From `now` on it is as many
seconds or less, those that are whole counted toward zero; and these are never less than none. -/
theorem lifetime_as_asked (hfrom : 0 ≤ now.seconds)
    (huntil : now.nanoseconds ≤ Instant.latest.nanoseconds) (hmethod : r.method = "POST")
    (hpath : Http.path r.target = "/tokens") (htype : hasJsonBody r = true)
    (hlength : r.body.length ≤ bodyLimit) {request : IssueRequest}
    (hread : IssueRequest.read r.body = .ok request) {n : Int64}
    (httl : request.ttlSeconds = some n) (s : Service) (place : Nat) :
    ((s.handle now place r).1.status = 400 ↔ n.toInt ≤ 0 ∨ 9223372036854775 < n.toInt)
      ∧ ((s.handle now place r).1.status = 400 →
        (s.handle now place r).1.body = (Json.obj [("code", .str "INVALID_TTL"),
          ("message", .str "ttl_seconds must be a positive number of seconds")]).text)
      ∧ ((s.handle now place r).1.status ≠ 400 → s.config.secret ≠ [] →
        s.config.algorithm ∈ [Algorithm.hs256, .hs384, .hs512] →
        (s.handle now place r).1.status = 200
          ∧ ∃ (token : Token) (signed : String) (e : Instant) (expiresIn : Int64) (d : Duration),
            (s.handle now place r).1.body = (Json.obj [("token", .str signed),
                ("token_type", .str "Bearer"), ("expires_at", .str e.text),
                ("expires_in", Json.ofInt64 expiresIn)]).text
              ∧ token.create = .ok signed
              ∧ (∀ p, ParsedToken.unverified? signed = some p →
                p.claims.standard = token.claims.standard)
              ∧ token.claims.standard.expiresAt.toInt
                = min (now.seconds + n.toInt) 8210266876799
              ∧ e.seconds = token.claims.standard.expiresAt.toInt ∧ e.subsecond = 0
              ∧ Duration.ofNanoseconds? (e.nanosecondsSince now) = some d
              ∧ (now.isLeap = false → d.nanoseconds = e.seconds * second - now.nanoseconds)
              ∧ expiresIn.toInt = d.nanoseconds.tdiv second
              ∧ 0 ≤ expiresIn.toInt ∧ expiresIn.toInt ≤ n.toInt
              ∧ ∀ (s' : Service) (now' : Instant) (place' : Nat) (r' : Request)
                  (value : List UInt8), r'.method = "GET" → Http.path r'.target = "/me" →
                Http.header? r'.headers "authorization" = some value →
                Bearer.token? value = some signed → (s'.handle now' place' r').1.status = 200 →
                ∃ body : Json, (s'.handle now' place' r').1.body = (Json.obj [("body", body),
                  ("subject", .str token.claims.standard.subject),
                  ("id", .str token.claims.standard.id), ("expires_at", .str e.text)]).text) := by
  have hnone : (lifetimeSettings? request.ttlSeconds : Option (List (Setting Nat))) = none
      ↔ n.toInt ≤ 0 ∨ 9223372036854775 < n.toInt := by
    rw [httl]
    exact lifetimeSettings?_eq_none_iff
  rw [handle_tokens hmethod hpath, respond_tokens_of_read htype hlength hread]
  refine ⟨status_of_issue_eq_iff.trans hnone, fun hstatus => ?_, ?_⟩
  · rw [issue_of_lifetimeSettings?_eq_none (status_of_issue_eq_iff.1 hstatus)]
    rfl
  intro hstatus hsecret halgorithm
  have hsome : (lifetimeSettings? request.ttlSeconds : Option (List (Setting Nat))) ≠ none :=
    fun h => hstatus (status_of_issue_eq_iff.2 h)
  obtain ⟨hn, hle⟩ : 0 < n.toInt ∧ n.toInt ≤ 9223372036854775 := by
    have hout := mt hnone.2 hsome
    omega
  obtain ⟨g, hissued, hcreate, hissue⟩ := exists_issued hsome hsecret halgorithm now place
  obtain ⟨e, he, hseconds, hwhole⟩ := hissued.exists_expiry httl hn hle hfrom
  obtain ⟨expiresIn, hbody, hexpiresIn, hl, hg⟩ :=
    body_issued hissued httl hn hle huntil he hseconds hwhole
  obtain ⟨d, hd⟩ := e.exists_nanosecondsSince now
  rw [hissue]
  refine ⟨rfl, g.token, g.signed, e, expiresIn, d, hbody, hcreate, ?_,
    hissued.toInt_expiresAt httl hn hle, hseconds, hwhole, hd, ?_, ?_, hl, hg, ?_⟩
  · exact fun p hp => Token.standard_of_unverified? hcreate hp
  · intro hleap
    have hwholeLeap := Instant.isLeap_of_subsecond hwhole
    rw [Duration.ofNanoseconds?_eq_some_iff.1 hd,
      Instant.nanosecondsSince_of_not_leap hwholeLeap hleap, Instant.nanoseconds, hwhole,
      Int.add_zero]
  · exact hexpiresIn.trans (Instant.secondsSince_eq hd)
  · intro s' now' place' r' value hmethod' hpath' hheader hbearer hshown
    exact body_me_of_create hcreate he hmethod' hpath' hheader hbearer hshown

/-- A request for a token that lasts some seconds. -/
def requestFor (seconds : String) : Request where
  method := "POST"
  target := "/tokens"
  headers := [("content-type", Utf8.bytes "application/json")]
  body := Utf8.bytes ("\x7b\"ttl_seconds\":" ++ seconds ++ "\x7d")

/-- Half a second before the last second of the calendar begins. -/
def late : Instant := ⟨8210266876798, 500000000, by decide, by decide, by decide, by decide⟩

theorem exists_read_requestFor (seconds : String) (n : Int64)
    (h : (IssueRequest.read (requestFor seconds).body).toOption.any
      (fun request => request.ttlSeconds == some n) = true) :
    ∃ request, IssueRequest.read (requestFor seconds).body = .ok request
      ∧ request.ttlSeconds = some n := by
  cases hread : IssueRequest.read (requestFor seconds).body with
  | error e =>
    rw [hread] at h
    cases h
  | ok request =>
    rw [hread] at h
    exact ⟨request, rfl, eq_of_beq h⟩

/-- The calendar ends before the lifetime does; and a lifetime is a second too long, for a service
without a secret. -/
theorem lifetime_as_asked_late :
    (∃ (token : Token) (signed : String) (e : Instant) (expiresIn : Int64),
      ((keyed [0x6B]).handle late 0 (requestFor "5")).1.status = 200
        ∧ ((keyed [0x6B]).handle late 0 (requestFor "5")).1.body = (Json.obj [
          ("token", .str signed), ("token_type", .str "Bearer"), ("expires_at", .str e.text),
          ("expires_in", Json.ofInt64 expiresIn)]).text
        ∧ token.create = .ok signed
        ∧ token.claims.standard.expiresAt.toInt = 8210266876799 ∧ expiresIn.toInt = 0)
      ∧ ((keyed []).handle late 0 (requestFor "9223372036854776")).1.status = 400 := by
  have hfrom : 0 ≤ late.seconds := by decide
  have huntil : late.nanoseconds ≤ Instant.latest.nanoseconds := by decide
  constructor
  · obtain ⟨request, hread, httl⟩ := exists_read_requestFor "5" 5 (by decide +kernel)
    obtain ⟨hinvalid, -, hissued⟩ := lifetime_as_asked hfrom huntil rfl (by decide +kernel)
      (by decide +kernel) (by decide +kernel) hread httl (keyed [0x6B]) 0
    obtain ⟨hstatus, token, signed, e, expiresIn, d, hbody, hcreate, -, hexp, hseconds, -, -, hd,
      hexpiresIn, -⟩ := hissued (mt hinvalid.1 (by decide)) (by decide) (by decide)
    have hlast : token.claims.standard.expiresAt.toInt = 8210266876799 := hexp.trans (by decide)
    refine ⟨token, signed, e, expiresIn, hstatus, hbody, hcreate, hlast, ?_⟩
    rw [hexpiresIn, hd rfl, hseconds, hlast]
    decide
  · obtain ⟨request, hread, httl⟩ :=
      exists_read_requestFor "9223372036854776" 9223372036854776 (by decide +kernel)
    obtain ⟨hinvalid, -⟩ := lifetime_as_asked hfrom huntil rfl (by decide +kernel)
      (by decide +kernel) (by decide +kernel) hread httl (keyed []) 0
    exact hinvalid.2 (by decide)

end Service

end SignedToken
