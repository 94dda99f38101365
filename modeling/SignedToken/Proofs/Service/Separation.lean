import SignedToken.Proofs.Authentication.Bearer
import SignedToken.Proofs.Config
import SignedToken.Proofs.Service.Answers
import SignedToken.Proofs.Token.Errors

/-!
# Services that stay apart

A service that enforces a party refuses all tokens of a service whose configuration names another
one. It does not matter whether they share their secret, nor what time it is.
-/

namespace SignedToken

/-- A configuration that loads names both parties, so that what is issued under it names them
too. -/
theorem Token.IssuedFor.exists_recognize_eq_error {a b : Config} {issue : Instant}
    {request : IssueRequest} {t verifier : Token} {signed : String}
    (hissued : t.IssuedFor a issue request) (hcreate : t.create = .ok signed) (ha : a.IsUsable)
    (hexpectations : verifier.expectations = b.expectations)
    (hapart : b.enforceAudience = true ∧ a.audience ≠ b.audience
      ∨ b.enforceIssuer = true ∧ a.issuer ≠ b.issuer) :
    ∃ e, verifier.recognize signed = .error e := by
  cases hrecognize : verifier.recognize signed with
  | error e => exact ⟨e, rfl⟩
  | ok p =>
    exfalso
    obtain ⟨haudience, hissuer⟩ := parties_of_recognize hcreate hrecognize
    rw [hissued.audience, hexpectations, Config.expectations] at haudience
    rw [hissued.issuer, hexpectations, Config.expectations] at hissuer
    rcases hapart with ⟨henforced, hne⟩ | ⟨henforced, hne⟩
    · rcases haudience b.audience (if_pos henforced) with h | h
      · exact ha.audience_ne_empty h
      · exact hne h
    · rcases hissuer b.issuer (if_pos henforced) with h | h
      · exact ha.issuer_ne_empty h
      · exact hne h

namespace Service

/-- A token that its verifier does not recognize is answered alike before and after its expiry. -/
theorem whoAmI_of_recognize_eq_error {s : Service} {r : Request} {signed : String}
    (hsecret : s.config.secret ≠ []) (hpresented : TokenContext.presented? r.headers = .ok signed)
    (hrecognize : ∀ verifier : Token, verifier.expectations = s.config.expectations →
      ∃ e, verifier.recognize signed = .error e)
    (now : Instant) (place : Nat) :
    ∃ e : TokenError, e.IsTimeless
      ∧ (s.whoAmI now place r).1 = (AuthRejection.token e).response := by
  obtain ⟨verifier, -, hexpectations, hwho⟩ := whoAmI_of_presented hsecret hpresented now place
  obtain ⟨e, he⟩ := hrecognize verifier hexpectations
  refine ⟨e, Token.isTimeless_of_recognize he, ?_⟩
  rw [hwho, Token.verify_of_recognize_eq_error he]

theorem handle_me_of_isTimeless {s : Service} {now : Instant} {place : Nat} {r : Request}
    (hmethod : r.method = "GET") (hpath : Http.path r.target = "/me") {e : TokenError}
    (he : e.IsTimeless) (hwho : (s.whoAmI now place r).1 = (AuthRejection.token e).response) :
    (s.handle now place r).1.status = 401
      ∧ (s.handle now place r).1.body = (Json.obj [("code", .str "AUTH_TOKEN"),
        ("message", .str e.message)]).text := by
  obtain ⟨hstatus, hcode⟩ := he.status_and_code
  rw [handle_me hmethod hpath, hwho]
  refine ⟨hstatus, ?_⟩
  rw [← hcode]
  rfl

/-- Whatever `a` issues, `b` refuses at all times, if `b` enforces a party and has another one than
`a`: both parties are named in what `a` issues, since a configuration that loads has no empty
names. -/
theorem refused_elsewhere {lookup lookup' : String → Option String} {a b : Service}
    (ha : Config.ofVariables lookup = .ok a.config)
    (hb : Config.ofVariables lookup' = .ok b.config)
    (hapart : b.config.enforceAudience = true ∧ a.config.audience ≠ b.config.audience
      ∨ b.config.enforceIssuer = true ∧ a.config.issuer ≠ b.config.issuer)
    {issue : Instant} {place : Nat} {r : Request} (hmethod : r.method = "POST")
    (hpath : Http.path r.target = "/tokens") (hstatus : (a.handle issue place r).1.status = 200) :
    ∃ (signed expiresAt : String) (expiresIn : Json),
      (a.handle issue place r).1.body = (Json.obj [("token", .str signed),
          ("token_type", .str "Bearer"), ("expires_at", .str expiresAt),
          ("expires_in", expiresIn)]).text
        ∧ Bearer.token? (Utf8.bytes ("Bearer " ++ signed)) = some signed
        ∧ ∀ (now : Instant) (place' : Nat) (r' : Request) (value : List UInt8),
          r'.method = "GET" → Http.path r'.target = "/me" →
          Http.header? r'.headers "authorization" = some value →
          Bearer.token? value = some signed →
          (b.handle now place' r').1.status = 401
            ∧ ∃ message, (b.handle now place' r').1.body
              = (Json.obj [("code", .str "AUTH_TOKEN"), ("message", .str message)]).text := by
  have husable := Config.isUsable_of_ofVariables ha
  have husable' := Config.isUsable_of_ofVariables hb
  obtain ⟨request, g, -, -, hissued, hcreate, hbody⟩ := exists_grant_of_status hmethod hpath hstatus
  refine ⟨g.signed, _, _, hbody, Bearer.token?_bearer_of_create hcreate, ?_⟩
  intro now place' r' value hmethod' hpath' hheader hbearer
  obtain ⟨e, he, hwho⟩ := whoAmI_of_recognize_eq_error husable'.secret_ne_nil
    (TokenContext.presented?_of_header hheader hbearer)
    (fun verifier hexpectations =>
      hissued.exists_recognize_eq_error hcreate husable hexpectations hapart) now place'
  obtain ⟨hrefused, hbody⟩ := handle_me_of_isTimeless hmethod' hpath' he hwho
  exact ⟨hrefused, e.message, hbody⟩

/-- The secret of another service, of which the blanks do not count. -/
def serverVariables (name : String) : Option String :=
  if name = "TOKEN_SECRET" then some "\tk " else none

def server : Service where
  config := { secret := [0x6B] }
  entropy := .zeros

def terminalVariables (name : String) : Option String :=
  if name = "TOKEN_SECRET" then some "k"
  else if name = "TOKEN_ALGORITHM" then some "hs512"
  else if name = "TOKEN_AUDIENCE" then some "terminal"
  else if name = "TOKEN_ENFORCE_AUDIENCE" then some " On"
  else none

/-- A service with the secret of the other one and an audience of its own. -/
def terminal : Service where
  config := {
    secret := [0x6B], algorithm := .hs512, audience := "terminal", enforceAudience := true }
  entropy := .zeros

theorem refused_elsewhere_terminal :
    Config.ofVariables serverVariables = .ok server.config
      ∧ Config.ofVariables terminalVariables = .ok terminal.config
      ∧ terminal.config.secret = server.config.secret
      ∧ ∃ (signed expiresAt : String) (expiresIn : Json),
        (server.handle ⟨100, 7, by decide, by decide, by decide, by decide⟩ 0 sampleRequest).1.body
            = (Json.obj [("token", .str signed), ("token_type", .str "Bearer"),
              ("expires_at", .str expiresAt), ("expires_in", expiresIn)]).text
          ∧ ∀ now, (terminal.handle now 0 (presenting signed)).1.status = 401
            ∧ ∃ message, (terminal.handle now 0 (presenting signed)).1.body
              = (Json.obj [("code", .str "AUTH_TOKEN"), ("message", .str message)]).text := by
  have hserver : Config.ofVariables serverVariables = .ok server.config := rfl
  have hterminal : Config.ofVariables terminalVariables = .ok terminal.config := rfl
  have hstatus : (server.handle ⟨100, 7, by decide, by decide, by decide, by decide⟩ 0
      sampleRequest).1.status = 200 := by decide +kernel
  have hpath : Http.path "/me" = "/me" := by decide +kernel
  obtain ⟨signed, expiresAt, expiresIn, hbody, hbearer, hrefused⟩ :=
    refused_elsewhere hserver hterminal (.inl ⟨rfl, by decide⟩) rfl (by decide +kernel) hstatus
  refine ⟨hserver, hterminal, rfl, signed, expiresAt, expiresIn, hbody, fun now => ?_⟩
  exact hrefused now 0 (presenting signed) _ rfl hpath (header?_presenting signed) hbearer

end Service

end SignedToken
