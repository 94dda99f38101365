import SignedToken.Proofs.Identifier
import SignedToken.Proofs.Service.Answers

/-!
# What a service draws

Ids are all that a service draws from its source of randomness: one for each token that it issues,
and one for the verifier that it makes for each token presented to it. An answer that is not a new
token shows neither the source nor what else was asked.
-/

namespace SignedToken

/-! ## Verifiers -/

/-- Two verifiers that differ in other things than these agree. -/
theorem Token.verify_congr {v v' : Token} (hkey : v.key = v'.key)
    (hexpectations : v.expectations = v'.expectations) (now : Instant) (text : String) :
    v.verify now text = v'.verify now text := by
  rw [verify, verify, parse, parse, check, check, hkey, hexpectations]

namespace Service

/-! ## One request -/

/-- The request was answered with a new token. -/
def Issues (r : Request) (response : Response) : Prop :=
  r.method = "POST" ∧ Http.path r.target = "/tokens" ∧ response.status = 200

/-- The request presents a token that a verifier is made for. -/
def Presents (r : Request) : Prop :=
  r.method ∈ ["GET", "HEAD"] ∧ Http.path r.target = "/me"
    ∧ ∃ value signed, Http.header? r.headers "authorization" = some value
      ∧ Bearer.token? value = some signed

/-- An id was drawn for the request. -/
def Draws (c : Config) (r : Request) (response : Response) : Prop :=
  c.secret ≠ [] ∧ (Issues r response ∨ Presents r)

/-- What a configuration makes of a request at `now`, for every source of randomness and every place
in it. -/
inductive Effect (c : Config) (now : Instant) (r : Request) : Prop where
  | issues (hsecret : c.secret ≠ []) (hmethod : r.method = "POST")
      (hpath : Http.path r.target = "/tokens")
      (hhandle : ∀ (s : Service) (place : Nat), s.config = c → ∃ g : Grant,
        g.token.claims.standard.id = (Identifier.random s.entropy place).1
          ∧ g.token.create = .ok g.signed
          ∧ s.handle now place r
            = (finish false (issued now g), (Identifier.random s.entropy place).2))
  | verifies (response : Response) (hsecret : c.secret ≠ []) (hpresents : Presents r)
      (hstatus : response.status ∈ [200, 401])
      (hhandle : ∀ (s : Service) (place : Nat), s.config = c →
        s.handle now place r = (response, (Identifier.random s.entropy place).2))
  | keeps (response : Response) (hissues : ¬ Issues r response)
      (hpresents : c.secret ≠ [] → ¬ Presents r)
      (hhandle : ∀ (s : Service) (place : Nat), s.config = c →
        s.handle now place r = (response, place))

theorem handle_of_mem {r : Request} {route : Route}
    (hroute : Route.ofPath? (Http.path r.target) = some route) (hmethod : r.method ∈ route.methods)
    (s : Service) (now : Instant) (place : Nat) :
    s.handle now place r = (finish (r.method = "HEAD") (s.respond now place r route).1,
      (s.respond now place r route).2) := by
  have hoptions : r.method ≠ "OPTIONS" := by
    intro h
    rw [h] at hmethod
    cases route <;> exact absurd hmethod (by decide)
  rw [handle]
  dsimp only
  rw [if_neg hoptions, hroute]
  dsimp only
  rw [if_pos hmethod]

/-- Where no route takes the method, the answer is decided by the request alone. -/
theorem exists_handle_of_not_mem {r : Request}
    (h : ∀ route, Route.ofPath? (Http.path r.target) = some route → r.method ∉ route.methods) :
    ∃ response, ∀ (s : Service) (now : Instant) (place : Nat),
      s.handle now place r = (response, place) := by
  by_cases hoptions : r.method = "OPTIONS"
  · refine ⟨finish false (empty 200 (preflightHeaders
      ++ ((Route.ofPath? (Http.path r.target)).map Route.allow).toList)), fun s now place => ?_⟩
    rw [handle]
    dsimp only
    rw [if_pos hoptions]
  · cases hroute : Route.ofPath? (Http.path r.target) with
    | none =>
      refine ⟨finish false (empty 404 []), fun s now place => ?_⟩
      rw [handle]
      dsimp only
      rw [if_neg hoptions, hroute]
    | some route =>
      refine ⟨finish false (empty 405 [route.allow]), fun s now place => ?_⟩
      rw [handle]
      dsimp only
      rw [if_neg hoptions, hroute]
      dsimp only
      rw [if_neg (h route hroute)]

theorem ofPath?_eq_tokens_iff {path : String} :
    Route.ofPath? path = some .tokens ↔ path = "/tokens" := by
  refine ⟨fun h => ?_, fun h => by rw [h]; rfl⟩
  unfold Route.ofPath? at h
  split at h
  · cases h
  split at h
  · assumption
  split at h <;> cases h

theorem ofPath?_eq_me_iff {path : String} : Route.ofPath? path = some .me ↔ path = "/me" := by
  refine ⟨fun h => ?_, fun h => by rw [h]; rfl⟩
  unfold Route.ofPath? at h
  split at h
  · cases h
  split at h
  · cases h
  split at h
  · assumption
  · cases h

theorem Issues.ofPath? {r : Request} {response : Response} (h : Issues r response) :
    Route.ofPath? (Http.path r.target) = some .tokens :=
  ofPath?_eq_tokens_iff.2 h.2.1

theorem Presents.ofPath? {r : Request} (h : Presents r) :
    Route.ofPath? (Http.path r.target) = some .me :=
  ofPath?_eq_me_iff.2 h.2.1

section
variable {c : Config} {now : Instant} {r : Request}

theorem effect_tokens (halgorithm : c.algorithm ∈ [Algorithm.hs256, .hs384, .hs512])
    (hroute : Route.ofPath? (Http.path r.target) = some .tokens)
    (hmethod : r.method ∈ Route.tokens.methods) : Effect c now r := by
  have hpost : r.method = "POST" := List.mem_singleton.1 hmethod
  have hpath : Http.path r.target = "/tokens" := ofPath?_eq_tokens_iff.1 hroute
  -- an answer that is no new token comes before anything is drawn
  have hkeeps (response : Response) (hstatus : response.status ≠ 200)
      (hrespond : ∀ (s : Service) (place : Nat), s.config = c →
        s.respond now place r .tokens = (response, place)) : Effect c now r := by
    refine .keeps (finish false response) (fun hissues => hstatus hissues.2.2)
      (fun _ hpresents => ?_) fun s place hs => ?_
    · cases hroute.symm.trans hpresents.ofPath?
    · rw [handle_tokens hpost hpath, hrespond s place hs]
  cases hrequest : readRequest r with
  | error response =>
    refine hkeeps response (ne_of_mem_of_not_mem (status_of_readRequest hrequest) (by decide)) ?_
    intro s place hs
    rw [respond, hrequest]
  | ok request =>
    cases hsettings : (lifetimeSettings? request.ttlSeconds : Option (List (Setting Nat))) with
    | none =>
      refine hkeeps invalidTtl (by decide) fun s place hs => ?_
      rw [respond, hrequest]
      exact issue_of_lifetimeSettings?_eq_none hsettings
    | some settings =>
      by_cases hsecret : c.secret = []
      · refine hkeeps (AuthRejection.token .missingKey).response (by decide) fun s place hs => ?_
        rw [respond, hrequest]
        dsimp only
        rw [issue, grant, hsettings]
        dsimp only
        rw [requestDraft_eq hsettings, Draft.build_of_key_eq_nil (by rw [hs]; exact hsecret)]
      · refine .issues hsecret hpost hpath fun s place hs => ?_
        subst hs
        obtain ⟨g, hid, hcreate, hgrant⟩ :=
          grant_of_secret hsecret halgorithm hsettings now place
        refine ⟨g, hid, hcreate, ?_⟩
        rw [handle_tokens hpost hpath, respond, hrequest]
        dsimp only
        rw [issue, hgrant]

theorem effect_me (hroute : Route.ofPath? (Http.path r.target) = some .me)
    (hmethod : r.method ∈ Route.me.methods) : Effect c now r := by
  have hpath : Http.path r.target = "/me" := ofPath?_eq_me_iff.1 hroute
  have hissues (response : Response) : ¬ Issues r response := fun hissues => by
    cases hroute.symm.trans hissues.ofPath?
  have hhandle (s : Service) (place : Nat) : s.handle now place r
      = (finish (r.method = "HEAD") (s.whoAmI now place r).1, (s.whoAmI now place r).2) :=
    handle_of_mem hroute hmethod s now place
  cases hpresented : TokenContext.presented? r.headers with
  | error rejection =>
    refine .keeps (finish (r.method = "HEAD") rejection.response) (hissues _)
      (fun _ hpresents => ?_) fun s place hs => ?_
    · obtain ⟨-, -, value, signed, hvalue⟩ := hpresents
      rw [TokenContext.presented?_eq_ok_iff.2 ⟨value, hvalue⟩] at hpresented
      cases hpresented
    · rw [hhandle, whoAmI_of_not_presented hpresented]
  | ok signed =>
    by_cases hsecret : c.secret = []
    · refine .keeps (finish (r.method = "HEAD") (AuthRejection.token .missingKey).response)
        (hissues _) (fun hne => absurd hsecret hne) fun s place hs => ?_
      subst hs
      rw [hhandle, whoAmI_of_secret_eq_nil hsecret hpresented]
    · obtain ⟨value, hvalue⟩ := TokenContext.presented?_eq_ok_iff.1 hpresented
      have hpresents : Presents r := ⟨hmethod, hpath, value, signed, hvalue⟩
      -- all verifiers of the configuration agree, whatever ids were drawn for them
      refine .verifies (finish (r.method = "HEAD") (whoAmI ⟨c, .zeros⟩ now 0 r).1) hsecret hpresents
        (status_of_whoAmI (s := ⟨c, .zeros⟩) hsecret now 0 r) fun s place hs => ?_
      subst hs
      obtain ⟨v, hkey, hexpectations, hwho⟩ := whoAmI_of_presented hsecret hpresented now place
      obtain ⟨v', hkey', hexpectations', hwho'⟩ :=
        whoAmI_of_presented (s := ⟨s.config, .zeros⟩) hsecret hpresented now 0
      rw [hhandle, hwho, hwho', Token.verify_congr (hkey.trans hkey'.symm)
        (hexpectations.trans hexpectations'.symm)]

/-- What there is to say about one request. -/
theorem effect (halgorithm : c.algorithm ∈ [Algorithm.hs256, .hs384, .hs512]) (now : Instant)
    (r : Request) : Effect c now r := by
  by_cases hserved : ∃ route, Route.ofPath? (Http.path r.target) = some route
      ∧ r.method ∈ route.methods
  · obtain ⟨route, hroute, hmethod⟩ := hserved
    cases route with
    | health =>
      refine .keeps (finish (r.method = "HEAD") health) (fun hissues => ?_)
        (fun _ hpresents => ?_) fun s place _ => handle_of_mem hroute hmethod s now place
      · cases hroute.symm.trans hissues.ofPath?
      · cases hroute.symm.trans hpresents.ofPath?
    | tokens => exact effect_tokens halgorithm hroute hmethod
    | me => exact effect_me hroute hmethod
  · have hnone : ∀ route, Route.ofPath? (Http.path r.target) = some route →
        r.method ∉ route.methods := fun route hroute hmethod => hserved ⟨route, hroute, hmethod⟩
    obtain ⟨response, hhandle⟩ := exists_handle_of_not_mem hnone
    refine .keeps response (fun hissues => ?_) (fun _ hpresents => ?_)
      fun s place _ => hhandle s now place
    · exact hnone _ hissues.ofPath? (by rw [hissues.1]; exact List.mem_cons_self)
    · exact hnone _ hpresents.ofPath? hpresents.1

end

section
variable {s : Service} (halgorithm : s.config.algorithm ∈ [Algorithm.hs256, .hs384, .hs512])
  {now : Instant} {place : Nat} {r : Request}
include halgorithm

theorem handle_of_draws (h : Draws s.config r (s.handle now place r).1) :
    (s.handle now place r).1.status ∈ [200, 401]
      ∧ (s.handle now place r).2 = (Identifier.random s.entropy place).2 := by
  cases effect halgorithm now r with
  | issues _ _ _ hhandle =>
    obtain ⟨g, -, -, hg⟩ := hhandle s place rfl
    rw [hg]
    exact ⟨List.mem_cons_self, rfl⟩
  | verifies response _ _ hstatus hhandle =>
    rw [hhandle s place rfl]
    exact ⟨hstatus, rfl⟩
  | keeps response hissues hpresents hhandle =>
    rw [hhandle s place rfl] at h
    exact absurd h.2 (not_or.2 ⟨hissues, hpresents h.1⟩)

theorem handle_of_not_draws (h : ¬ Draws s.config r (s.handle now place r).1) :
    (s.handle now place r).2 = place := by
  cases effect halgorithm now r with
  | issues hsecret hmethod hpath hhandle =>
    obtain ⟨g, -, -, hg⟩ := hhandle s place rfl
    rw [hg] at h
    exact absurd ⟨hsecret, .inl ⟨hmethod, hpath, rfl⟩⟩ h
  | verifies response hsecret hpresents _ _ => exact absurd ⟨hsecret, .inr hpresents⟩ h
  | keeps response _ _ hhandle => rw [hhandle s place rfl]

theorem place_handle_eq_random_iff :
    (s.handle now place r).2 = (Identifier.random s.entropy place).2
      ↔ Draws s.config r (s.handle now place r).1 := by
  refine ⟨fun hplace => ?_, fun hdraws => (handle_of_draws halgorithm hdraws).2⟩
  by_cases hdraws : Draws s.config r (s.handle now place r).1
  · exact hdraws
  · have hkept := handle_of_not_draws halgorithm hdraws
    exact absurd (hkept.symm.trans hplace) (Nat.ne_of_lt (Identifier.lt_random s.entropy place))

theorem place_handle_eq_iff :
    (s.handle now place r).2 = place ↔ ¬ Draws s.config r (s.handle now place r).1 := by
  refine ⟨fun hplace hdraws => ?_, fun hdraws => handle_of_not_draws halgorithm hdraws⟩
  have hdrawn := (handle_of_draws halgorithm hdraws).2
  exact Nat.ne_of_lt (Identifier.lt_random s.entropy place) (hplace.symm.trans hdrawn)

theorem handle_of_issues (h : Issues r (s.handle now place r).1) :
    ∃ g : Grant, g.token.claims.standard.id = (Identifier.random s.entropy place).1
      ∧ g.token.create = .ok g.signed
      ∧ (s.handle now place r).1 = finish false (issued now g) := by
  cases effect halgorithm now r with
  | issues _ _ _ hhandle =>
    obtain ⟨g, hid, hcreate, hg⟩ := hhandle s place rfl
    exact ⟨g, hid, hcreate, by rw [hg]⟩
  | verifies _ _ hpresents _ _ => cases h.ofPath?.symm.trans hpresents.ofPath?
  | keeps response hissues _ hhandle =>
    rw [hhandle s place rfl] at h
    exact absurd h hissues

/-- Any other answer is the same at every place in every source of randomness. -/
theorem handle_of_not_issues (h : ¬ Issues r (s.handle now place r).1) {s' : Service}
    (hconfig : s'.config = s.config) (place' : Nat) :
    (s'.handle now place' r).1 = (s.handle now place r).1 := by
  cases effect halgorithm now r with
  | issues _ hmethod hpath hhandle =>
    obtain ⟨g, -, -, hg⟩ := hhandle s place rfl
    rw [hg] at h
    exact absurd ⟨hmethod, hpath, rfl⟩ h
  | verifies response _ _ _ hhandle => rw [hhandle s place rfl, hhandle s' place' hconfig]
  | keeps response _ _ hhandle => rw [hhandle s place rfl, hhandle s' place' hconfig]

end

/-! ## One request after another -/

/-- The answers, and the place in the source of randomness behind all of them. -/
def serve (s : Service) : Nat → List (Instant × Request) → List Response × Nat
  | place, [] => ([], place)
  | place, (now, r) :: later =>
    let (response, place) := s.handle now place r
    let (responses, place) := s.serve place later
    (response :: responses, place)

/-- The place in the source at which the request number `i` is handled. -/
def placeAt (s : Service) (place : Nat) (calls : List (Instant × Request)) (i : Nat) : Nat :=
  (s.serve place (calls.take i)).2

section
variable {s : Service} {place : Nat} {calls : List (Instant × Request)}

theorem serve_cons (now : Instant) (r : Request) (later : List (Instant × Request)) :
    s.serve place ((now, r) :: later)
      = ((s.handle now place r).1 :: (s.serve (s.handle now place r).2 later).1,
        (s.serve (s.handle now place r).2 later).2) :=
  rfl

theorem serve_append (xs ys : List (Instant × Request)) :
    s.serve place (xs ++ ys) = ((s.serve place xs).1 ++ (s.serve (s.serve place xs).2 ys).1,
      (s.serve (s.serve place xs).2 ys).2) := by
  induction xs generalizing place with
  | nil => rfl
  | cons x xs ih => rw [List.cons_append, serve_cons, serve_cons, ih, List.cons_append]

theorem getElem?_serve {i : Nat} {now : Instant} {r : Request} (h : calls[i]? = some (now, r)) :
    (s.serve place calls).1[i]? = some (s.handle now (s.placeAt place calls i) r).1 := by
  induction calls generalizing place i with
  | nil => cases h
  | cons call later ih =>
    cases i with
    | zero =>
      cases h
      rfl
    | succ i => exact ih h

theorem placeAt_succ {i : Nat} {now : Instant} {r : Request} (h : calls[i]? = some (now, r)) :
    s.placeAt place calls (i + 1) = (s.handle now (s.placeAt place calls i) r).2 := by
  rw [placeAt, List.take_add_one, h, serve_append]
  rfl

end

/-- What is left of a list when only the places that are kept remain. -/
def retained {α : Type} (keep : Nat → Bool) : List α → List α
  | [] => []
  | x :: xs =>
    if keep 0 then x :: retained (fun i => keep (i + 1)) xs else retained (fun i => keep (i + 1)) xs

section
variable {s : Service} (halgorithm : s.config.algorithm ∈ [Algorithm.hs256, .hs384, .hs512])
include halgorithm

/-- Requests that draw nothing can be left out. -/
theorem serve_retained {place : Nat} {calls : List (Instant × Request)} {keep : Nat → Bool}
    (h : ∀ i now r response, calls[i]? = some (now, r) →
      (s.serve place calls).1[i]? = some response → keep i = false → ¬ Draws s.config r response) :
    s.serve place (retained keep calls)
      = (retained keep (s.serve place calls).1, (s.serve place calls).2) := by
  induction calls generalizing place keep with
  | nil => rfl
  | cons call later ih =>
    obtain ⟨now, r⟩ := call
    have hlater : s.serve (s.handle now place r).2 (retained (fun i => keep (i + 1)) later)
        = (retained (fun i => keep (i + 1)) (s.serve (s.handle now place r).2 later).1,
          (s.serve (s.handle now place r).2 later).2) :=
      ih fun i => h (i + 1)
    rw [serve_cons, retained, retained]
    cases hkeep : keep 0 with
    | true => rw [if_pos rfl, if_pos rfl, serve_cons, hlater]
    | false =>
      have hplace := handle_of_not_draws halgorithm (h 0 now r _ rfl rfl hkeep)
      rw [hplace] at hlater
      rw [if_neg Bool.false_ne_true, if_neg Bool.false_ne_true, hplace, hlater]

end

/-- One id of 64 characters is drawn just for each token that is issued, of which it becomes the id,
and for each token that is presented, whether or not that is accepted. An answer that is not a new
token is the same in every list of requests and with every source of randomness, and requests that
draw nothing can be left out of the list. -/
theorem serve_draws {s : Service}
    (halgorithm : s.config.algorithm ∈ [Algorithm.hs256, .hs384, .hs512]) (place : Nat)
    (calls : List (Instant × Request)) :
    (∀ i now r, calls[i]? = some (now, r) →
      ∃ response, (s.serve place calls).1[i]? = some response
        ∧ (s.placeAt place calls (i + 1)
            = (Identifier.random s.entropy (s.placeAt place calls i)).2
          ↔ Draws s.config r response)
        ∧ (s.placeAt place calls (i + 1) = s.placeAt place calls i ↔ ¬ Draws s.config r response)
        ∧ (Identifier.random s.entropy (s.placeAt place calls i)).1.length = 64
        ∧ (Draws s.config r response → response.status ∈ [200, 401])
        ∧ (Issues r response → ∃ (token : Token) (signed expiresAt : String) (expiresIn : Json),
          response.body = (Json.obj [("token", .str signed), ("token_type", .str "Bearer"),
              ("expires_at", .str expiresAt), ("expires_in", expiresIn)]).text
            ∧ token.create = .ok signed
            ∧ token.claims.standard.id
              = (Identifier.random s.entropy (s.placeAt place calls i)).1
            ∧ ∀ p, ParsedToken.unverified? signed = some p →
              p.claims.standard = token.claims.standard)
        ∧ (¬ Issues r response →
          ∀ (s' : Service) (place' : Nat) (calls' : List (Instant × Request)) (j : Nat),
            s'.config = s.config → calls'[j]? = some (now, r) →
            (s'.serve place' calls').1[j]? = some response))
    ∧ ∀ keep : Nat → Bool,
      (∀ i now r response, calls[i]? = some (now, r) → (s.serve place calls).1[i]? = some response →
        keep i = false → ¬ Draws s.config r response) →
      s.serve place (retained keep calls)
        = (retained keep (s.serve place calls).1, (s.serve place calls).2) := by
  refine ⟨fun i now r hcall => ?_, fun keep => serve_retained halgorithm⟩
  have hplace : s.placeAt place calls (i + 1)
    = (s.handle now (s.placeAt place calls i) r).2 := placeAt_succ hcall
  refine ⟨_, getElem?_serve hcall, ?_, ?_, Identifier.length_random _ _,
    fun hdraws => (handle_of_draws halgorithm hdraws).1, fun hissues => ?_,
    fun hissues s' place' calls' j hconfig hcall' => ?_⟩
  · rw [hplace, place_handle_eq_random_iff halgorithm]
  · rw [hplace, place_handle_eq_iff halgorithm]
  · obtain ⟨g, hid, hcreate, hg⟩ := handle_of_issues halgorithm hissues
    exact ⟨g.token, g.signed, _, _, by rw [hg]; rfl, hcreate, hid,
      fun p hp => Token.standard_of_unverified? hcreate hp⟩
  · rw [getElem?_serve hcall', handle_of_not_issues halgorithm hissues hconfig]

def solo : Service where
  config := { secret := [0x6B] }
  entropy := .zeros

/-- A token is asked for, the service is asked whether it is there, and a token is made up. -/
def sampleCalls : List (Instant × Request) :=
  [(.latest, sampleRequest),
    (.latest, { method := "GET", target := "/healthz", headers := [], body := [] }),
    (.latest, presenting "a.b.c")]

theorem serve_draws_sample :
    ∃ response, (solo.serve 0 sampleCalls).1[0]? = some response
      ∧ solo.placeAt 0 sampleCalls 1 = (Identifier.random .zeros 0).2
      ∧ (∃ (token : Token) (signed : String), token.create = .ok signed
        ∧ token.claims.standard.id = (Identifier.random .zeros 0).1)
      ∧ solo.serve 0 (retained (· != 1) sampleCalls)
        = (retained (· != 1) (solo.serve 0 sampleCalls).1, (solo.serve 0 sampleCalls).2) := by
  obtain ⟨heach, hretained⟩ := serve_draws (s := solo) (by decide) 0 sampleCalls
  obtain ⟨response, hresponse, hdrawn, -, -, -, hissued, -⟩ := heach 0 _ _ rfl
  have hstatus : ((solo.serve 0 sampleCalls).1[0]?).map Response.status = some 200 := by
    decide +kernel
  rw [hresponse] at hstatus
  have hissues : Issues sampleRequest response :=
    ⟨rfl, by decide +kernel, Option.some.inj hstatus⟩
  obtain ⟨token, signed, _, _, -, hcreate, hid, -⟩ := hissued hissues
  refine ⟨response, hresponse, hdrawn.2 ⟨by decide, .inl hissues⟩, ⟨token, signed, hcreate, hid⟩,
    hretained _ fun i now r _ hcall _ hkeep => ?_⟩
  obtain rfl : i = 1 := by simpa using hkeep
  cases hcall
  rintro ⟨-, ⟨hmethod, -⟩ | ⟨-, hpath, -⟩⟩
  · exact absurd hmethod (by decide)
  · exact absurd hpath (by decide +kernel)

end Service

end SignedToken
