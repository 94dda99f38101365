import SignedToken.Proofs.Draft.Settings
import SignedToken.Proofs.Time.Later
import SignedToken.Proofs.Token.RoundTrip

/-!
# What a draft fills in

A draft that is given a key, an id and the present becomes the same token whoever fills in the rest:
the draft when it is built, a lifetime, the claims of a token issued now, or a configuration of
which only the secret was given. That token is accepted at the time it is made.
-/

namespace SignedToken

variable {σ : Type}

/-! ## The order of settings -/

/-- Two settings that can be made in either order. -/
def Setting.Commutes (wall : Instant) (a b : Setting σ) : Prop :=
  ∀ d : Draft σ, (d.set wall a).set wall b = (d.set wall b).set wall a

namespace Draft

section
variable {wall : Instant} {settings settings' : List (Setting σ)}

theorem setAll_append (d : Draft σ) (settings settings' : List (Setting σ)) :
    d.setAll wall (settings ++ settings') = (d.setAll wall settings).setAll wall settings' :=
  List.foldl_append

theorem setAll_of_perm (h : settings.Perm settings')
    (hcommutes : ∀ a ∈ settings', ∀ b ∈ settings', a.Commutes wall b) (d : Draft σ) :
    d.setAll wall settings = d.setAll wall settings' := by
  refine h.foldl_eq' (fun a ha b hb => ?_) d
  exact hcommutes a (h.mem_iff.1 ha) b (h.mem_iff.1 hb)

/-- A setting can be put off until those are made that it commutes with. -/
theorem setAll_cons_of_commutes {a : Setting σ} (h : ∀ b ∈ settings, a.Commutes wall b)
    (d : Draft σ) : d.setAll wall (a :: settings) = (d.setAll wall settings).set wall a := by
  induction settings generalizing d with
  | nil => rfl
  | cons b later ih =>
    -- past the first of them, and from there past the others
    have hfirst : (d.set wall a).set wall b = (d.set wall b).set wall a := h b List.mem_cons_self d
    have hlater := ih (fun c hc => h c (List.mem_cons_of_mem b hc)) (d.set wall b)
    show ((d.set wall a).set wall b).setAll wall later = _
    rw [hfirst]
    exact hlater

end

end Draft

/-! ## One token -/

/-- The token of a key and an id if nothing else is said at `now`. -/
def Token.ofDefaults {key : List UInt8} (h : key ≠ []) (now : Instant) (id : String) : Token where
  key := key
  key_ne_nil := h
  algorithm := .hs256
  claims := { standard := .issuedNow now id }
  expectations := {}

/-- A week later, or at the end of the calendar. -/
theorem StandardClaims.toInt_expiresAt_issuedNow (now : Instant) (id : String) :
    (issuedNow now id).expiresAt.toInt = min (now.seconds + 604800) Instant.latest.seconds := by
  rw [issuedNow, Instant.toInt_timestamp]
  exact Instant.seconds_later_of_seconds (by decide) rfl

theorem StandardClaims.seconds_le_expiresAt_issuedNow (now : Instant) (id : String) :
    now.seconds ≤ (issuedNow now id).expiresAt.toInt := by
  have huntil : now.seconds ≤ Instant.latest.seconds := now.notAfterCalendar
  rw [toInt_expiresAt_issuedNow]
  omega

theorem StandardClaims.passAt_issuedNow {e : Expectations} {id : String}
    (hid : e.requireId = true → id ≠ "") (now : Instant) : (issuedNow now id).PassAt e now := by
  have hnow : now.timestamp.toInt ≤ now.seconds + e.leewaySeconds.toNat := by
    rw [now.toInt_timestamp]
    omega
  have hexpiry := seconds_le_expiresAt_issuedNow now id
  exact {
    expiry := fun _ => by omega
    start := fun _ => hnow
    issue := fun _ _ => hnow
    id := hid }

namespace Token

variable {key : List UInt8} {hkey : key ≠ []} {now : Instant} {id : String}

theorem isLegible_ofDefaults : (ofDefaults hkey now id).IsLegible :=
  ⟨rfl, show Json.Object.empty.toJson.depth ≤ 126 by decide, rfl⟩

/-- Whoever has the key and does not expect other parties accepts the token when it is made. -/
theorem verify_ofDefaults {signed : String} (hcreate : (ofDefaults hkey now id).create = .ok signed)
    {verifier : Token} (hverifier : verifier.key = key)
    (haudience : ∀ a, verifier.expectations.audience = some a → a = StandardClaims.defaultAudience)
    (hissuer : ∀ i, verifier.expectations.issuer = some i → i = StandardClaims.defaultIssuer)
    (hid : verifier.expectations.requireId = true → id ≠ "") :
    verifier.verify now signed = .ok (ofDefaults hkey now id).claims := by
  obtain ⟨signature, hsigned, rfl⟩ := create_eq_ok_iff.1 hcreate
  have hparse := isLegible_ofDefaults.parse_message hsigned hverifier
    (StandardClaims.passAt_issuedNow hid now) (fun a ha => .inr (haudience a ha).symm)
    (fun i hi => .inr (hissuer i hi).symm)
  rw [verify, hparse]

end Token

/-! ## Roads to it -/

namespace Draft

section
variable {generate : σ → String × σ} {wall now : Instant} {key : List UInt8} (hkey : key ≠ [])
  {id : String} {s : σ}

theorem commutes_of_mem {a b : Setting σ} (ha : a ∈ [.key key, .clock now, .id id])
    (hb : b ∈ [.key key, .clock now, .id id]) : a.Commutes wall b := by
  simp only [List.mem_cons, List.not_mem_nil, or_false] at ha hb
  rcases ha with rfl | rfl | rfl <;> rcases hb with rfl | rfl | rfl <;> exact fun _ => rfl

/-- All that is set at the clock, in any order. -/
theorem settled_of_clock {settings : List (Setting σ)}
    (h : settings.Perm [.key key, .clock now, .id id]) :
    settled generate wall settings = { key, clock := some now, id := some id, generate } :=
  setAll_of_perm h (fun _ ha _ hb => commutes_of_mem ha hb) _

theorem build_of_clock {settings : List (Setting σ)}
    (h : settings.Perm [.key key, .clock now, .id id]) :
    (settled generate wall settings).build wall s = .ok (.ofDefaults hkey now id, s) := by
  rw [settled_of_clock h, build_of_key hkey]
  rfl

theorem build_of_claims {settings : List (Setting σ)}
    (h : settings.Perm [.key key, .claims (.issuedNow now id)]) :
    (settled generate wall settings).build wall s = .ok (.ofDefaults hkey now id, s) := by
  have hcommutes : ∀ a ∈ [Setting.key key, .claims (.issuedNow now id)],
      ∀ b ∈ [Setting.key key, .claims (.issuedNow now id)], a.Commutes (σ := σ) wall b := by
    simp only [List.mem_cons, List.not_mem_nil, or_false]
    rintro a (rfl | rfl) b (rfl | rfl) <;> exact fun _ => rfl
  rw [settled, setAll_of_perm h hcommutes]
  exact build_of_key hkey wall s

/-- A lifetime is put off until the id and the key are set, but not until the clock is. -/
theorem build_of_lifetime {earlier later : List (Setting σ)}
    (h : (earlier ++ later).Perm [.key key, .clock now, .id id]) (hclock : .clock now ∈ earlier) :
    (settled generate wall (earlier ++ .lifetime StandardClaims.defaultLifetime :: later)).build
      wall s = .ok (.ofDefaults hkey now id, s) := by
  have honce : (earlier ++ later).Nodup := h.nodup_iff.2 (by simp)
  have hcommutes : ∀ b ∈ later,
      (Setting.lifetime StandardClaims.defaultLifetime).Commutes wall b := by
    intro b hb
    -- the clock is set only once, and that was earlier
    have hne : .clock now ≠ b := (List.nodup_append.1 honce).2.2 _ hclock b hb
    have hmem := h.mem_iff.1 (List.mem_append_right earlier hb)
    simp only [List.mem_cons, List.not_mem_nil, or_false] at hmem
    rcases hmem with rfl | rfl | rfl
    · exact fun _ => rfl
    · exact absurd rfl hne
    · exact fun _ => rfl
  rw [settled, setAll_append, setAll_cons_of_commutes hcommutes, ← setAll_append, ← settled,
    settled_of_clock h]
  exact build_of_key hkey wall s

theorem build_of_config :
    ((ofConfig now generate { secret := key }).set now (.id id)).build now s
      = .ok (.ofDefaults hkey now id, s) := by
  rw [ofConfig_eq]
  exact build_of_key hkey now s

end

/-- All roads to the defaults agree, at every instant and for every key and id: that of the draft
itself, in whatever order it is given them; that of all claims at once; that of the lifetime of a
week, if it is set after the clock, in whatever order otherwise; and that of a configuration. The
token they lead to is not valid later than it expires, and whoever has its key accepts it at the
time it is made, unless other parties are expected, or an id where it has none. -/
theorem defaults_agree (generate : σ → String × σ) (wall now : Instant) {key : List UInt8}
    (hkey : key ≠ []) (id : String) (s : σ) :
    ∃ t : Token, t.key = key ∧ t.algorithm = .hs256 ∧ t.claims.body = .empty
      ∧ t.claims.standard = .issuedNow now id ∧ t.expectations = {}
      ∧ (∀ settings : List (Setting σ), settings.Perm [.key key, .clock now, .id id] →
        (settled generate wall settings).build wall s = .ok (t, s))
      ∧ (∀ settings : List (Setting σ), settings.Perm [.key key, .claims (.issuedNow now id)] →
        (settled generate wall settings).build wall s = .ok (t, s))
      ∧ (∀ earlier later : List (Setting σ),
        (earlier ++ later).Perm [.key key, .clock now, .id id] → .clock now ∈ earlier →
        (settled generate wall
          (earlier ++ .lifetime StandardClaims.defaultLifetime :: later)).build wall s
            = .ok (t, s))
      ∧ ((ofConfig now generate { secret := key }).set now (.id id)).build now s = .ok (t, s)
      ∧ t.claims.standard.notBefore ≤ t.claims.standard.expiresAt
      ∧ ∃ signed, t.create = .ok signed
        ∧ ∀ verifier : Token, verifier.key = key →
          (∀ a, verifier.expectations.audience = some a → a = StandardClaims.defaultAudience) →
          (∀ i, verifier.expectations.issuer = some i → i = StandardClaims.defaultIssuer) →
          (verifier.expectations.requireId = true → id ≠ "") →
          verifier.verify now signed = .ok t.claims := by
  obtain ⟨signed, hcreate⟩ : ∃ signed, (Token.ofDefaults hkey now id).create = .ok signed :=
    Token.exists_create List.mem_cons_self
  refine ⟨.ofDefaults hkey now id, rfl, rfl, rfl, rfl, rfl, fun _ => build_of_clock hkey,
    fun _ => build_of_claims hkey, fun _ _ => build_of_lifetime hkey, build_of_config hkey, ?_,
    signed, hcreate, fun _ => Token.verify_ofDefaults hcreate⟩
  have hexpiry := StandardClaims.seconds_le_expiresAt_issuedNow now id
  rw [← now.toInt_timestamp] at hexpiry
  exact Int64.le_iff_toInt_le.2 hexpiry

/-- Within the second that begins a week before 1970, so that the week leads to the second 0, which
counts as no expiry at all. -/
def weekBefore : Instant := ⟨-604800, 600000000, by decide, by decide, by decide, by decide⟩

theorem defaults_agree_weekBefore :
    ∃ (t : Token) (signed : String), t.claims.standard.expiresAt = 0
      ∧ (settled (Identifier.random .zeros) .latest [.id "", .clock weekBefore,
          .lifetime StandardClaims.defaultLifetime, .key [0x6B]]).build .latest 0 = .ok (t, 0)
      ∧ ((ofConfig weekBefore (Identifier.random .zeros) { secret := [0x6B] }).set weekBefore
          (.id "")).build weekBefore 0 = .ok (t, 0)
      ∧ t.create = .ok signed ∧ t.verify weekBefore signed = .ok t.claims := by
  have hset : ([0x6B] : List UInt8) ≠ [] := by decide
  obtain ⟨t, hkey, -, -, hstandard, hexpectations, -, -, hlifetime, hconfig, -, signed, hcreate,
    hverify⟩ := defaults_agree (Identifier.random .zeros) .latest weekBefore hset "" 0
  have hzero : t.claims.standard.expiresAt = 0 := by
    rw [hstandard]
    decide
  have hself : t.verify weekBefore signed = .ok t.claims := by
    refine hverify t hkey ?_ ?_ ?_
    all_goals rw [hexpectations]; nofun
  refine ⟨t, signed, hzero, hlifetime [.id "", .clock weekBefore] [.key [0x6B]] ?_ ?_, hconfig,
    hcreate, hself⟩
  · exact List.reverse_perm [Setting.key [0x6B], .clock weekBefore, .id ""]
  · exact List.mem_cons_of_mem _ List.mem_cons_self

end Draft

end SignedToken
