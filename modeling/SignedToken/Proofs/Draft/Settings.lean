import SignedToken.Identifier
import SignedToken.Proofs.Draft
import SignedToken.Proofs.Json.Canonical

/-!
# Sequences of settings

Of the settings of a draft the last one that writes a field wins, whatever the others are and
whatever stands between them. All claims at once count as a write of each claim, a payload as a
write of each of its entries, and a lifetime as a write of the expiry that it leads to from the
present at its place in the sequence.
-/

namespace SignedToken

variable {σ : Type}

/-! ## Writes -/

/-- What the last of the calls that write something has written. -/
def lastWrite {β α : Type} (write : β → Option α) (calls : List β) : Option α :=
  (calls.filterMap write).getLast?

section
variable {γ β α : Type} (write : β → Option α)

theorem lastWrite_append (earlier later : List β) :
    lastWrite write (earlier ++ later) = (lastWrite write later).or (lastWrite write earlier) := by
  rw [lastWrite, List.filterMap_append, List.getLast?_append]
  rfl

theorem lastWrite_cons (call : β) (later : List β) :
    lastWrite write (call :: later) = (lastWrite write later).or (write call) := by
  have hone : lastWrite write [call] = write call := by
    rw [lastWrite, List.filterMap_cons]
    cases write call <;> rfl
  rw [← hone]
  exact lastWrite_append write [call] later

variable {write} in
theorem lastWrite_map (f : γ → β) (calls : List γ) :
    lastWrite write (calls.map f) = lastWrite (fun c => write (f c)) calls := by
  rw [lastWrite, lastWrite, List.filterMap_map]
  rfl

end

namespace Setting

def key? : Setting σ → Option (List UInt8)
  | .key bytes => some bytes
  | _ => none

def algorithm? : Setting σ → Option Algorithm
  | .algorithm a => some a
  | _ => none

/-- What becomes of one entry of the payload; a whole payload may have none of the name. -/
def bodyAt? (name : String) : Setting σ → Option (Option Json)
  | .body o => some (o.get? name)
  | .bodyEntry k v => if k = name then some (some v.canonical) else none
  | _ => none

def audience? : Setting σ → Option String
  | .audience s => some s
  | .claims c => some c.audience
  | _ => none

def issuer? : Setting σ → Option String
  | .issuer s => some s
  | .claims c => some c.issuer
  | _ => none

def subject? : Setting σ → Option String
  | .subject s => some s
  | .claims c => some c.subject
  | _ => none

def id? : Setting σ → Option String
  | .id s => some s
  | .claims c => some c.id
  | _ => none

def issuedAt? : Setting σ → Option Int64
  | .issuedAt t => some t.timestamp
  | .claims c => some c.issuedAt
  | _ => none

def notBefore? : Setting σ → Option Int64
  | .notBefore t => some t.timestamp
  | .claims c => some c.notBefore
  | _ => none

/-- The expiry that is written at a given present. -/
def expiresAt? : Instant × Setting σ → Option Int64
  | (now, .lifetime l) => some (now.later l).timestamp
  | (_, .expiresAt t) => some t.timestamp
  | (_, .claims c) => some c.expiresAt
  | _ => none

def clock? : Setting σ → Option Instant
  | .clock t => some t
  | _ => none

def generator? : Setting σ → Option (σ → String × σ)
  | .generator g => some g
  | _ => none

def expectAudience? : Setting σ → Option String
  | .expectAudience s => some s
  | _ => none

def expectIssuer? : Setting σ → Option String
  | .expectIssuer s => some s
  | _ => none

def leeway? : Setting σ → Option UInt32
  | .leeway seconds => some seconds
  | _ => none

def isRequireId : Setting σ → Bool
  | .requireId => true
  | _ => false

def isSkipIssuedAt : Setting σ → Bool
  | .skipIssuedAt => true
  | _ => false

/-! ## The present -/

/-- The clock that was set last, or `wall` if there is none. -/
def present (wall : Instant) (settings : List (Setting σ)) : Instant :=
  (lastWrite clock? settings).getD wall

/-- Each setting with the present at its place. -/
def dated (now : Instant) : List (Setting σ) → List (Instant × Setting σ)
  | [] => []
  | s :: later => (now, s) :: dated (s.clock?.getD now) later

theorem map_snd_dated (now : Instant) (settings : List (Setting σ)) :
    (dated now settings).map Prod.snd = settings := by
  induction settings generalizing now with
  | nil => rfl
  | cons s later ih => rw [dated, List.map_cons, ih]

end Setting

/-- What settings come to field by field: the last write, or else the default. The body is given by
its entries, the id by where it comes from. -/
structure Writes (σ : Type) where
  key : List UInt8
  algorithm : Algorithm
  body : String → Option Json
  audience : String
  issuer : String
  subject : String
  expiresAt : Int64
  issuedAt : Int64
  notBefore : Int64
  expectations : Expectations
  drawId : σ → String × σ

open Setting hiding id in
/-- The times that were never written come from the last clock. An id is generated only if none was
written. -/
def Writes.ofSettings (generate : σ → String × σ) (wall : Instant) (settings : List (Setting σ)) :
    Writes σ where
  key := (lastWrite key? settings).getD []
  algorithm := (lastWrite algorithm? settings).getD .hs256
  body name := (lastWrite (bodyAt? name) settings).getD none
  audience := (lastWrite audience? settings).getD StandardClaims.defaultAudience
  issuer := (lastWrite issuer? settings).getD StandardClaims.defaultIssuer
  subject := (lastWrite subject? settings).getD StandardClaims.defaultSubject
  expiresAt := (lastWrite expiresAt? (dated wall settings)).getD
    ((present wall settings).later StandardClaims.defaultLifetime).timestamp
  issuedAt := (lastWrite issuedAt? settings).getD (present wall settings).timestamp
  notBefore := (lastWrite notBefore? settings).getD (present wall settings).timestamp
  expectations := {
    audience := lastWrite expectAudience? settings
    issuer := lastWrite expectIssuer? settings
    requireId := settings.any isRequireId
    leewaySeconds := (lastWrite leeway? settings).getD 0
    skipIssuedAt := settings.any isSkipIssuedAt }
  drawId s :=
    match lastWrite id? settings with
    | some id => (id, s)
    | none => (lastWrite generator? settings).getD generate s

/-- Everything but the id of the token is what was written. -/
structure Token.IsWrittenBy (t : Token) (w : Writes σ) : Prop where
  key : t.key = w.key
  algorithm : t.algorithm = w.algorithm
  body : ∀ name, t.claims.body.get? name = w.body name
  audience : t.claims.standard.audience = w.audience
  issuer : t.claims.standard.issuer = w.issuer
  subject : t.claims.standard.subject = w.subject
  expiresAt : t.claims.standard.expiresAt = w.expiresAt
  issuedAt : t.claims.standard.issuedAt = w.issuedAt
  notBefore : t.claims.standard.notBefore = w.notBefore
  expectations : t.expectations = w.expectations

attribute [ext] StandardClaims Claims Token

theorem Token.IsWrittenBy.unique {t t' : Token} {w : Writes σ} (h : t.IsWrittenBy w)
    (h' : t'.IsWrittenBy w) (hid : t.claims.standard.id = t'.claims.standard.id) : t = t' := by
  have hbody : t.claims.body = t'.claims.body :=
    Json.Object.eq_of_get? fun name => (h.body name).trans (h'.body name).symm
  have hstandard : t.claims.standard = t'.claims.standard :=
    StandardClaims.ext (h.audience.trans h'.audience.symm) (h.expiresAt.trans h'.expiresAt.symm)
      hid (h.issuedAt.trans h'.issuedAt.symm) (h.issuer.trans h'.issuer.symm)
      (h.notBefore.trans h'.notBefore.symm) (h.subject.trans h'.subject.symm)
  exact Token.ext (h.key.trans h'.key.symm) (h.algorithm.trans h'.algorithm.symm)
    (Claims.ext hbody hstandard) (h.expectations.trans h'.expectations.symm)

namespace Draft

open Setting (dated present)

theorem now_set (d : Draft σ) (wall : Instant) (s : Setting σ) :
    (d.set wall s).now wall = s.clock?.getD (d.now wall) := by
  cases s <;> rfl

/-! ## The last write wins -/

section
variable {α : Type} {wall : Instant}

/-- A field that each setting either overwrites or leaves alone ends up as the last write, if there
is any; what is written may depend on the present. -/
theorem setAll_of_dated (field : Draft σ → Option α) (write : Instant × Setting σ → Option α)
    (hset : ∀ d s, field (d.set wall s) = (write (d.now wall, s)).or (field d)) (d : Draft σ)
    (settings : List (Setting σ)) :
    field (d.setAll wall settings)
      = (lastWrite write (dated (d.now wall) settings)).or (field d) := by
  induction settings generalizing d with
  | nil => rfl
  | cons s later ih =>
    have hlater := ih (d.set wall s)
    rw [now_set, hset] at hlater
    rw [dated, lastWrite_cons, Option.or_assoc, ← hlater]
    rfl

theorem setAll_of_write (field : Draft σ → Option α) (write : Setting σ → Option α)
    (hset : ∀ d s, field (d.set wall s) = (write s).or (field d)) (d : Draft σ)
    (settings : List (Setting σ)) :
    field (d.setAll wall settings) = (lastWrite write settings).or (field d) := by
  have h := setAll_of_dated field (fun c => write c.2) hset d settings
  rwa [← lastWrite_map, Setting.map_snd_dated] at h

/-- A switch that can only be turned on stays on. -/
theorem setAll_of_switch (switch : Draft σ → Bool) (isOn : Setting σ → Bool)
    (hset : ∀ d s, switch (d.set wall s) = (isOn s || switch d)) (d : Draft σ)
    (settings : List (Setting σ)) :
    switch (d.setAll wall settings) = (settings.any isOn || switch d) := by
  induction settings generalizing d with
  | nil => rfl
  | cons s later ih =>
    have hlater := ih (d.set wall s)
    rw [hset, ← Bool.or_assoc, Bool.or_comm (later.any isOn)] at hlater
    rw [List.any_cons]
    exact hlater

end

/-! ## What is built -/

/-- The draft that the settings make of a fresh one. -/
def settled (generate : σ → String × σ) (wall : Instant) (settings : List (Setting σ)) : Draft σ :=
  ({ generate } : Draft σ).setAll wall settings

section
variable {α : Type} {generate : σ → String × σ} {wall : Instant} {settings : List (Setting σ)}

/-- A field that is closed from the start. -/
theorem settled_of_overwrite (field : Draft σ → α) (write : Setting σ → Option α)
    (hset : ∀ d s, field (d.set wall s) = (write s).getD (field d) := by
      intro d s; cases s <;> rfl) :
    field (settled generate wall settings)
      = (lastWrite write settings).getD (field { generate }) := by
  have hsome : ∀ d s, some (field (d.set wall s)) = (write s).or (some (field d)) := fun d s => by
    rw [hset, Option.or_some]
  have h := setAll_of_write (fun d => some (field d)) write hsome { generate } settings
  rw [Option.or_some] at h
  exact Option.some.inj h

/-- A field that is open at first. -/
theorem settled_of_write (field : Draft σ → Option α) (write : Setting σ → Option α)
    (hset : ∀ d s, field (d.set wall s) = (write s).or (field d) := by
      intro d s; cases s <;> rfl)
    (hopen : field { generate } = none := by rfl) :
    field (settled generate wall settings) = lastWrite write settings := by
  rw [settled, setAll_of_write field write hset, hopen, Option.or_none]

theorem settled_of_dated (field : Draft σ → Option α) (write : Instant × Setting σ → Option α)
    (hset : ∀ d s, field (d.set wall s) = (write (d.now wall, s)).or (field d) := by
      intro d s; cases s <;> rfl)
    (hopen : field { generate } = none := by rfl) :
    field (settled generate wall settings) = lastWrite write (dated wall settings) := by
  rw [settled, setAll_of_dated field write hset, hopen, Option.or_none]
  rfl

theorem settled_of_switch (switch : Draft σ → Bool) (isOn : Setting σ → Bool)
    (hset : ∀ d s, switch (d.set wall s) = (isOn s || switch d) := by
      intro d s; cases s <;> rfl)
    (hoff : switch { generate } = false := by rfl) :
    switch (settled generate wall settings) = settings.any isOn := by
  rw [settled, setAll_of_switch switch isOn hset, hoff, Bool.or_false]

theorem key_settled : (settled generate wall settings).key
    = (lastWrite Setting.key? settings).getD [] :=
  settled_of_overwrite Draft.key Setting.key?

theorem now_settled : (settled generate wall settings).now wall = present wall settings := by
  rw [now, settled_of_write Draft.clock Setting.clock?]
  rfl

theorem body_settled (name : String) : (settled generate wall settings).body.get? name
    = (lastWrite (Setting.bodyAt? name) settings).getD none := by
  refine settled_of_overwrite (fun d => d.body.get? name) (Setting.bodyAt? name) fun d s => ?_
  cases s with
  | bodyEntry k v =>
    rw [Setting.bodyAt?, set, Json.Object.get?_insert]
    split <;> rfl
  | _ => rfl

theorem expectations_settled : (settled generate wall settings).expectations
    = (Writes.ofSettings generate wall settings).expectations := by
  rw [Expectations.mk.injEq]
  exact ⟨settled_of_write (fun d => d.expectations.audience) Setting.expectAudience?,
    settled_of_write (fun d => d.expectations.issuer) Setting.expectIssuer?,
    settled_of_switch (fun d => d.expectations.requireId) Setting.isRequireId,
    settled_of_overwrite (fun d => d.expectations.leewaySeconds) Setting.leeway?,
    settled_of_switch (fun d => d.expectations.skipIssuedAt) Setting.isSkipIssuedAt⟩

theorem resolveId_settled (s : σ) : (settled generate wall settings).resolveId s
    = (Writes.ofSettings generate wall settings).drawId s := by
  rw [resolveId, settled_of_write Draft.id Setting.id?,
    settled_of_overwrite Draft.generate Setting.generator?]
  rfl

theorem isWrittenBy_settled (h : (settled generate wall settings).key ≠ []) (id : String) :
    ((settled generate wall settings).token h wall id).IsWrittenBy
      (Writes.ofSettings generate wall settings) where
  key := key_settled
  algorithm := settled_of_overwrite Draft.algorithm Setting.algorithm?
  body := body_settled
  audience := settled_of_overwrite Draft.audience Setting.audience?
  issuer := settled_of_overwrite Draft.issuer Setting.issuer?
  subject := settled_of_overwrite Draft.subject Setting.subject?
  expiresAt := by
    rw [token, settled_of_dated Draft.expiresAt Setting.expiresAt?, now_settled]
    rfl
  issuedAt := by
    rw [token, settled_of_write Draft.issuedAt Setting.issuedAt?, now_settled]
    rfl
  notBefore := by
    rw [token, settled_of_write Draft.notBefore Setting.notBefore?, now_settled]
    rfl
  expectations := expectations_settled

end

section
variable {generate : σ → String × σ} {wall : Instant} {settings : List (Setting σ)} {s : σ}

theorem build_settled_eq_error_iff {e : TokenError} :
    (settled generate wall settings).build wall s = .error e
      ↔ e = .missingKey ∧ (Writes.ofSettings generate wall settings).key = [] := by
  have hkey : (settled generate wall settings).key
    = (Writes.ofSettings generate wall settings).key := key_settled
  rw [← hkey]
  by_cases h : (settled generate wall settings).key = []
  · rw [build_of_key_eq_nil h, Except.error.injEq, eq_comm]
    exact (and_iff_left h).symm
  · rw [build_of_key h]
    exact ⟨nofun, fun hnil => absurd hnil.2 h⟩

theorem build_settled_eq_ok_iff {t : Token} {s' : σ} :
    (settled generate wall settings).build wall s = .ok (t, s')
      ↔ t.IsWrittenBy (Writes.ofSettings generate wall settings)
        ∧ (t.claims.standard.id, s') = (Writes.ofSettings generate wall settings).drawId s := by
  rw [← resolveId_settled]
  by_cases h : (settled generate wall settings).key = []
  · rw [build_of_key_eq_nil h]
    refine ⟨nofun, fun ⟨hwritten, _⟩ => ?_⟩
    exact absurd (hwritten.key.trans (key_settled.symm.trans h)) t.key_ne_nil
  · have hwritten := fun id => isWrittenBy_settled h id
    rw [build_of_key h, Except.ok.injEq, Prod.mk.injEq]
    constructor
    · rintro ⟨rfl, rfl⟩
      exact ⟨hwritten _, rfl⟩
    · rintro ⟨ht, hid⟩
      obtain ⟨hid, hs'⟩ := Prod.mk.inj hid
      exact ⟨(hwritten _).unique ht hid.symm, hs'.symm⟩

theorem build_settled_congr {settings' : List (Setting σ)}
    (h : Writes.ofSettings generate wall settings' = Writes.ofSettings generate wall settings) :
    (settled generate wall settings').build wall s
      = (settled generate wall settings).build wall s := by
  cases hbuild : (settled generate wall settings').build wall s with
  | error e =>
    rw [build_settled_eq_error_iff, h, ← build_settled_eq_error_iff] at hbuild
    exact hbuild.symm
  | ok r =>
    rw [build_settled_eq_ok_iff, h, ← build_settled_eq_ok_iff] at hbuild
    exact hbuild.symm

theorem key_ofSettings_eq_nil_iff : (Writes.ofSettings generate wall settings).key = []
    ↔ lastWrite Setting.key? settings = none ∨ lastWrite Setting.key? settings = some [] := by
  rw [Writes.ofSettings]
  cases lastWrite Setting.key? settings <;> simp

end

/-- A draft fails just if no key was written, or an empty one at last, and it draws no id then. Any
other becomes the token of the last writes. So the writes decide what is built. -/
theorem build_settled (generate : σ → String × σ) (wall : Instant) (settings : List (Setting σ))
    (s : σ) :
    (∀ e, (settled generate wall settings).build wall s = .error e ↔ e = .missingKey
        ∧ (lastWrite Setting.key? settings = none ∨ lastWrite Setting.key? settings = some []))
    ∧ (∀ t s', (settled generate wall settings).build wall s = .ok (t, s')
        ↔ t.IsWrittenBy (Writes.ofSettings generate wall settings)
          ∧ (t.claims.standard.id, s') = (Writes.ofSettings generate wall settings).drawId s)
    ∧ ∀ settings', Writes.ofSettings generate wall settings'
          = Writes.ofSettings generate wall settings →
        (settled generate wall settings').build wall s
          = (settled generate wall settings).build wall s := by
  refine ⟨fun e => ?_, fun t s' => build_settled_eq_ok_iff, fun settings' => build_settled_congr⟩
  rw [build_settled_eq_error_iff, key_ofSettings_eq_nil_iff]

/-- Neither the order nor what was written over is seen in the token. -/
theorem build_settled_reordered :
    (settled (Identifier.random .zeros) .latest [.key [], .bodyEntry "role" (.str "user"),
        .key [107], .audience "api", .bodyEntry "role" (.str "admin")]).build .latest 0
      = (settled (Identifier.random .zeros) .latest [.audience "api",
          .bodyEntry "role" (.str "admin"), .key [107]]).build .latest 0 := by
  refine (build_settled (Identifier.random .zeros) .latest _ 0).2.2 _ ?_
  rw [Writes.mk.injEq]
  refine ⟨rfl, rfl, funext fun name => ?_, rfl, rfl, rfl, rfl, rfl, rfl, rfl, rfl⟩
  by_cases h : "role" = name <;>
    simp [Writes.ofSettings, lastWrite, List.findSome?, Setting.bodyAt?, h]

end Draft

end SignedToken
