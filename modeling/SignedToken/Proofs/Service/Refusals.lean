import SignedToken.Proofs.Authentication.Bearer
import SignedToken.Proofs.Json.RoundTrip
import SignedToken.Proofs.Service.Answers

/-!
# How presented tokens are refused

A service with a secret never takes the blame for what is presented to it. Without a secret it does,
but only once a token is presented: the header is looked at before the key is.
-/

namespace SignedToken

/-! ## Codes -/

/-- The answer is a failure of that code. -/
def Response.Names (r : Response) (code : String) : Prop :=
  ∃ message : String, r.body = (Json.obj [("code", .str code), ("message", .str message)]).text

theorem Json.eq_of_text {v w : Json} (hv : v.isFloatFree = true) (hw : w.isFloatFree = true)
    (h : v.text = w.text) : v = w := by
  have hchars : v.chars = w.chars := String.ofList_injective h
  exact Json.eq_of_encode_chars hv hw (congrArg Utf8.encode hchars)

theorem Response.names_failure_iff {status : Nat} {code code' message : String} {openEnded : Bool} :
    (Service.finish false (.failure status code message openEnded)).Names code' ↔ code = code' := by
  constructor
  · rintro ⟨message', h⟩
    have heq := Json.eq_of_text rfl rfl h
    cases heq
    rfl
  · rintro rfl
    exact ⟨message, rfl⟩

/-- Claims that are shown are told from a failure by the first name. -/
theorem Response.not_names_shown {c : Claims} {code : String} :
    ¬(Service.finish false (Service.shown c)).Names code := by
  rintro ⟨message, h⟩
  have hthird : some 'b' = some 'c' := congrArg (·[2]?) (String.ofList_injective h)
  exact absurd hthird (by decide)

theorem AuthRejection.code_of_presented? {headers : List (String × List UInt8)}
    {rejection : AuthRejection} (h : TokenContext.presented? headers = .error rejection) :
    rejection.code = "AUTH_HEADER" := by
  rcases TokenContext.presented?_eq_error h with rfl | rfl <;> rfl

/-- Among the refused tokens, an expired one is told by its code. -/
theorem AuthRejection.code_eq_expired_iff {e : TokenError} (h : e.isConfiguration = false) :
    (AuthRejection.token e).code = "AUTH_EXPIRED" ↔ e = .expired := by
  rw [code, h, if_neg (by decide)]
  split
  · rename_i he
    exact iff_of_true rfl he
  · rename_i he
    exact iff_of_false (by decide) he

/-! ## What is presented -/

/-- The first value for authorization is a credential of that text. -/
def Request.Bears (r : Request) (text : String) : Prop :=
  ∃ value, Http.header? r.headers "authorization" = some value ∧ Bearer.token? value = some text

theorem Request.bears_iff {r : Request} {text : String} :
    r.Bears text ↔ TokenContext.presented? r.headers = .ok text :=
  TokenContext.presented?_eq_ok_iff.symm

theorem Request.not_bears {r : Request} {rejection : AuthRejection}
    (h : TokenContext.presented? r.headers = .error rejection) (text : String) :
    ¬r.Bears text := by
  rw [bears_iff, h]
  exact nofun

theorem Request.Bears.exists_iff {r : Request} {text : String} (h : r.Bears text)
    {p : String → Prop} : (∃ text', r.Bears text' ∧ p text') ↔ p text := by
  constructor
  · rintro ⟨text', h', hp⟩
    rw [bears_iff] at h h'
    rw [Except.ok.inj (h.symm.trans h')]
    exact hp
  · intro hp
    exact ⟨text, h, hp⟩

namespace Service

/-! ## Answers -/

section
variable {s : Service} {now : Instant} {place : Nat} {r : Request} {text : String}
variable (hmethod : r.method = "GET") (hpath : Http.path r.target = "/me")
include hmethod hpath

theorem answer_of_not_presented {rejection : AuthRejection}
    (h : TokenContext.presented? r.headers = .error rejection) :
    (s.handle now place r).1.status = 401
      ∧ ∀ code, (s.handle now place r).1.Names code ↔ code = "AUTH_HEADER" := by
  rw [handle_me hmethod hpath, whoAmI_of_not_presented h]
  refine ⟨status_of_presented? h, fun code => ?_⟩
  rw [← AuthRejection.code_of_presented? h, eq_comm]
  exact Response.names_failure_iff

theorem answer_of_secret_eq_nil (hsecret : s.config.secret = []) (hbears : r.Bears text) :
    (s.handle now place r).1.status = 500
      ∧ ∀ code, (s.handle now place r).1.Names code ↔ code = "AUTH_CONFIG" := by
  rw [handle_me hmethod hpath, whoAmI_of_secret_eq_nil hsecret (Request.bears_iff.1 hbears)]
  refine ⟨rfl, fun code => ?_⟩
  rw [eq_comm]
  exact Response.names_failure_iff

section
variable {verifier : Token} {after : Nat} (hbears : r.Bears text)
variable (hbuild : (Draft.ofConfig now (Identifier.random s.entropy) s.config).build now place
  = .ok (verifier, after))
include hbears hbuild

theorem answer_of_verify_eq_error {e : TokenError} (hverify : verifier.verify now text = .error e) :
    (s.handle now place r).1.status = 401
      ∧ ((s.handle now place r).1.Names "AUTH_EXPIRED" ↔ e = .expired) := by
  rw [handle_me hmethod hpath, whoAmI_of_build (Request.bears_iff.1 hbears) hbuild, hverify]
  refine ⟨Token.status_of_verify hverify, ?_⟩
  rw [← AuthRejection.code_eq_expired_iff (Token.isConfiguration_of_verify hverify)]
  exact Response.names_failure_iff

theorem answer_of_verify_eq_ok {claims : Claims} (hverify : verifier.verify now text = .ok claims) :
    (s.handle now place r).1.status = 200
      ∧ ∀ code, ¬(s.handle now place r).1.Names code := by
  rw [handle_me hmethod hpath, whoAmI_of_build (Request.bears_iff.1 hbears) hbuild, hverify]
  exact ⟨rfl, fun _ => Response.not_names_shown⟩

end

theorem answer_of_secret {verifier : Token} {after : Nat}
    (hbuild : (Draft.ofConfig now (Identifier.random s.entropy) s.config).build now place
      = .ok (verifier, after)) :
    (s.handle now place r).1.status ∈ [200, 401]
      ∧ ((s.handle now place r).1.status = 200 ↔
        ∃ text, r.Bears text ∧ ∃ claims, verifier.verify now text = .ok claims)
      ∧ ((s.handle now place r).1.Names "AUTH_EXPIRED" ↔
        ∃ text, r.Bears text ∧ verifier.verify now text = .error .expired) := by
  cases hpresented : TokenContext.presented? r.headers with
  | error rejection =>
    obtain ⟨hstatus, hnames⟩ : _ ∧ ∀ code, (s.handle now place r).1.Names code ↔ _ :=
      answer_of_not_presented hmethod hpath hpresented
    have hnot := Request.not_bears hpresented
    rw [hstatus, hnames]
    exact ⟨by decide, iff_of_false (by decide) fun ⟨text, hbears, _⟩ => hnot text hbears,
      iff_of_false (by decide) fun ⟨text, hbears, _⟩ => hnot text hbears⟩
  | ok text =>
    have hbears := Request.bears_iff.2 hpresented
    rw [hbears.exists_iff, hbears.exists_iff]
    cases hverify : verifier.verify now text with
    | ok claims =>
      obtain ⟨hstatus, hnames⟩ := answer_of_verify_eq_ok hmethod hpath hbears hbuild hverify
      rw [hstatus]
      exact ⟨by decide, iff_of_true rfl ⟨claims, rfl⟩, iff_of_false (hnames _) nofun⟩
    | error e =>
      obtain ⟨hstatus, hnames⟩ := answer_of_verify_eq_error hmethod hpath hbears hbuild hverify
      rw [hstatus, hnames, Except.error.injEq]
      exact ⟨by decide, iff_of_false (by decide) nofun, Iff.rfl⟩

theorem answer_without_secret (hsecret : s.config.secret = []) :
    ((¬∃ text, r.Bears text) →
        (s.handle now place r).1.status = 401 ∧ (s.handle now place r).1.Names "AUTH_HEADER")
      ∧ ((s.handle now place r).1.status = 500 ↔ ∃ text, r.Bears text)
      ∧ ((s.handle now place r).1.Names "AUTH_CONFIG" ↔ ∃ text, r.Bears text) := by
  cases hpresented : TokenContext.presented? r.headers with
  | error rejection =>
    obtain ⟨hstatus, hnames⟩ : _ ∧ ∀ code, (s.handle now place r).1.Names code ↔ _ :=
      answer_of_not_presented hmethod hpath hpresented
    have hnot : ¬∃ text, r.Bears text := fun ⟨text, hbears⟩ =>
      Request.not_bears hpresented text hbears
    rw [hstatus, hnames, hnames]
    exact ⟨fun _ => ⟨rfl, rfl⟩, iff_of_false (by decide) hnot, iff_of_false (by decide) hnot⟩
  | ok text =>
    have hbears : ∃ text, r.Bears text := ⟨text, Request.bears_iff.2 hpresented⟩
    obtain ⟨hstatus, hnames⟩ : _ ∧ ∀ code, (s.handle now place r).1.Names code ↔ _ :=
      answer_of_secret_eq_nil hmethod hpath hsecret (Request.bears_iff.2 hpresented)
    rw [hstatus, hnames, hnames]
    exact ⟨fun hnot => absurd hbears hnot, iff_of_true rfl hbears, iff_of_true rfl hbears⟩

end

/-! ## Whose fault it is -/

/-- Whatever text a verifier refuses, it refuses for what the text is or says, and never for the way
the verifier was set up. So a service with a secret answers 200 or 401 to every request to be shown
a token, even if it could not sign one: 200 just if the first value for authorization is a
credential whose text its verifier accepts, and with the code of an expired token just if that is
why its verifier refuses the text. A service without a secret answers 401 as long as there is no
credential, and 500, for its own configuration, just if there is one. -/
theorem status_and_code_of_me :
    (∀ (verifier : Token) (now : Instant) (text : String) (e : TokenError),
      verifier.verify now text = .error e →
        (e.IsTimeless ∨ e ∈ [TokenError.expired, .notValidYet, .issuedAt, .id])
          ∧ e ≠ .missingKey ∧ (∀ cause, e ≠ .signing cause ∧ e ≠ .jwt cause)
          ∧ e.isConfiguration = false)
      ∧ ∀ (s : Service) (now : Instant) (place : Nat) (r : Request), r.method = "GET" →
        Http.path r.target = "/me" →
        (s.config.secret ≠ [] → ∃ (verifier : Token) (after : Nat),
          (Draft.ofConfig now (Identifier.random s.entropy) s.config).build now place
              = .ok (verifier, after)
            ∧ (s.handle now place r).1.status ∈ [200, 401]
            ∧ ((s.handle now place r).1.status = 200 ↔
              ∃ text, r.Bears text ∧ ∃ claims, verifier.verify now text = .ok claims)
            ∧ ((s.handle now place r).1.Names "AUTH_EXPIRED" ↔
              ∃ text, r.Bears text ∧ verifier.verify now text = .error .expired))
        ∧ (s.config.secret = [] →
          ((¬∃ text, r.Bears text) →
            (s.handle now place r).1.status = 401 ∧ (s.handle now place r).1.Names "AUTH_HEADER")
          ∧ ((s.handle now place r).1.status = 500 ↔ ∃ text, r.Bears text)
          ∧ ((s.handle now place r).1.Names "AUTH_CONFIG" ↔ ∃ text, r.Bears text)) := by
  constructor
  · intro verifier now text e h
    have hconfiguration := Token.isConfiguration_of_verify h
    refine ⟨Token.verify_eq_error h, ?_, fun cause => ⟨?_, ?_⟩, hconfiguration⟩
    · rintro rfl
      cases hconfiguration
    · rintro rfl
      cases hconfiguration
    · rintro rfl
      exact Token.verify_ne_jwt h
  · intro s now place r hmethod hpath
    refine ⟨fun hsecret => ?_, answer_without_secret hmethod hpath⟩
    obtain ⟨verifier, -, -, hbuild⟩ :=
      Draft.exists_build_ofConfig hsecret now (Identifier.random s.entropy) place
    exact ⟨verifier, _, hbuild, answer_of_secret hmethod hpath hbuild⟩

/-- A service that cannot sign. -/
def reader : Service where
  config := { secret := [0x6B], algorithm := .rs256 }
  entropy := .zeros

theorem bears_presenting {t : Token} {signed : String} (hcreate : t.create = .ok signed) :
    (presenting signed).Bears signed :=
  ⟨_, header?_presenting signed, Bearer.token?_bearer_of_create hcreate⟩

theorem verify_sample_latest {verifier : Token} {signed : String}
    (hcreate : Token.sample.create = .ok signed) (hkey : verifier.key = [0x6B])
    (hexpectations : verifier.expectations = reader.config.expectations) :
    verifier.verify .latest signed = .error .expired := by
  obtain ⟨signature, hsigned, rfl⟩ := Token.create_eq_ok_iff.1 hcreate
  have hlegible : Token.sample.IsLegible := ⟨by decide, by decide, by decide⟩
  have hrecognize := hlegible.recognize_message hsigned hkey
    (by rw [hexpectations]; exact nofun) (by rw [hexpectations]; exact nofun)
  have hcheck : Token.checkClaims verifier.expectations .latest Token.sample.claims.standard
      = .error .expired := by
    rw [hexpectations, Token.checkClaims_eq]
    exact if_pos (by decide)
  rw [Token.verify, Token.parse_of_checkClaims_eq_error hrecognize hcheck]

/-- The sample long after its expiry, presented to a service that cannot sign and to one that has no
secret; and the latter when nothing is presented. -/
theorem status_and_code_of_me_sample :
    ∃ (signed : String) (verifier : Token) (e : TokenError),
      Token.sample.create = .ok signed ∧ verifier.verify .latest signed = .error e
        ∧ e.isConfiguration = false
        ∧ (reader.handle .latest 0 (presenting signed)).1.status ∈ [200, 401]
        ∧ (reader.handle .latest 0 (presenting signed)).1.Names "AUTH_EXPIRED"
        ∧ ((keyed []).handle .latest 0 (presenting signed)).1.status = 500
        ∧ ((keyed []).handle .latest 0 ⟨"GET", "/me", [], []⟩).1.Names "AUTH_HEADER" := by
  obtain ⟨signed, hcreate⟩ : ∃ signed, Token.sample.create = .ok signed :=
    Token.exists_create (by decide)
  have hpath : Http.path "/me" = "/me" := by decide +kernel
  have hbears : (presenting signed).Bears signed := bears_presenting hcreate
  obtain ⟨verifier, hkey, hexpectations, hbuild⟩ := Draft.exists_build_ofConfig
    (c := reader.config) (by decide) .latest (Identifier.random reader.entropy) 0
  have hverify := verify_sample_latest hcreate hkey hexpectations
  obtain ⟨verifier', after, hbuild', hstatus, -, hexpired⟩ :=
    (status_and_code_of_me.2 reader .latest 0 (presenting signed) rfl hpath).1 (by decide)
  rw [hbuild] at hbuild'
  cases hbuild'
  obtain ⟨-, hfault, -⟩ :=
    (status_and_code_of_me.2 (keyed []) .latest 0 (presenting signed) rfl hpath).2 rfl
  obtain ⟨hmissing, -⟩ :=
    (status_and_code_of_me.2 (keyed []) .latest 0 ⟨"GET", "/me", [], []⟩ rfl hpath).2 rfl
  refine ⟨signed, verifier, .expired, hcreate, hverify,
    (status_and_code_of_me.1 _ _ _ _ hverify).2.2.2, hstatus,
    hexpired.2 ⟨signed, hbears, hverify⟩, hfault.2 ⟨signed, hbears⟩, (hmissing ?_).2⟩
  rintro ⟨text, value, hvalue, -⟩
  cases hvalue

end Service

end SignedToken
