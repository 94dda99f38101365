import SignedToken.Proofs.Outcome
import SignedToken.Proofs.Time.Instant
import SignedToken.Proofs.Token.Compact
import SignedToken.Proofs.Token.Payload
import SignedToken.Token.Basic

/-!
# Accepted texts

What a text has to be for a verifier to accept it, stage by stage and as a whole, and what the
verifier then returns.
-/

namespace SignedToken

/-! ## Signatures -/

/-- The algorithms that can sign and verify, with their digests. -/
def Algorithm.hmacFamily : List (Algorithm × Sha2.Size) :=
  [(.hs256, .bits256), (.hs384, .bits384), (.hs512, .bits512)]

theorem Algorithm.hmac?_eq_some_iff {a : Algorithm} {size : Sha2.Size} :
    a.hmac? = some size ↔ (a, size) ∈ hmacFamily := by
  cases a <;> cases size <;> decide

/-- A segment spells a header, as the strict reader sees it. -/
def Header.SpelledBy (segment : List Char) (h : Header) : Prop :=
  ∃ bytes, decodeSegment segment = .ok bytes ∧ Header.readStrictly? bytes = some h

/-- A segment is the signature of a message, in full and to the letter. -/
def IsSignature (key : List UInt8) (algorithm : Algorithm) (message signature : List Char) : Prop :=
  ∃ size, (algorithm, size) ∈ Algorithm.hmacFamily
    ∧ signature = Base64Url.encode (Hmac.code size key (Utf8.encode message))

theorem IsSignature.dot_not_mem {key : List UInt8} {algorithm : Algorithm}
    {message signature : List Char} (h : IsSignature key algorithm message signature) :
    '.' ∉ signature := by
  obtain ⟨size, -, rfl⟩ := h
  exact Base64Url.dot_not_mem_encode _

theorem Token.authenticate_eq_ok_iff {key : List UInt8} {c : Compact} {h : Header} :
    authenticate key c = .ok h ↔
      h.SpelledBy c.header ∧ IsSignature key h.algorithm c.message c.signature := by
  constructor
  · intro ha
    unfold authenticate at ha
    obtain ⟨bytes, hbytes, ha⟩ := Outcome.bind_eq_ok.1 ha
    obtain ⟨header, hheader, ha⟩ := Outcome.bind_eq_ok.1 ha
    split at ha
    · cases ha
    · rename_i size hsize
      split at ha
      · rename_i hsignature
        cases ha
        exact ⟨⟨bytes, Outcome.mapError_eq_ok.1 hbytes, Outcome.elim_eq_ok.1 hheader⟩,
          size, Algorithm.hmac?_eq_some_iff.1 hsize, hsignature⟩
      · cases ha
  · rintro ⟨⟨bytes, hbytes, hheader⟩, size, hsize, hsignature⟩
    rw [authenticate, Outcome.mapError_eq_ok.2 hbytes]
    refine Outcome.bind_eq_ok.2 ⟨bytes, rfl, ?_⟩
    rw [hheader]
    refine Outcome.bind_eq_ok.2 ⟨h, rfl, ?_⟩
    rw [Algorithm.hmac?_eq_some_iff.2 hsize]
    simp only [hsignature, if_true]
    rfl

/-! ## Payloads -/

/-- A segment writes a value, with packed objects as they are. -/
def WritesValue (segment : List Char) (v : Json) : Prop :=
  ∃ bytes, decodeSegment segment = .ok bytes ∧ Json.spelled? bytes = some v

/-- A segment spells an object, with its members as they are read. -/
def SpellsObject (segment : List Char) (members : List (String × Json)) : Prop :=
  ∃ bytes, decodeSegment segment = .ok bytes ∧ Json.read? bytes = some (.obj members)

/-- A segment writes one value at most. -/
theorem WritesValue.unique {segment : List Char} {v w : Json} (h : WritesValue segment v)
    (h' : WritesValue segment w) : v = w := by
  obtain ⟨bytes, hbytes, hspelled⟩ := h
  obtain ⟨bytes', hbytes', hspelled'⟩ := h'
  obtain rfl : bytes = bytes' := Except.ok.inj (hbytes.symm.trans hbytes')
  exact Option.some.inj (hspelled.symm.trans hspelled')

/-- A segment spells one object at most. -/
theorem SpellsObject.unique {segment : List Char} {members members' : List (String × Json)}
    (h : SpellsObject segment members) (h' : SpellsObject segment members') :
    members = members' := by
  obtain ⟨bytes, hbytes, hread⟩ := h
  obtain ⟨bytes', hbytes', hread'⟩ := h'
  obtain rfl : bytes = bytes' := Except.ok.inj (hbytes.symm.trans hbytes')
  exact Json.obj.inj (Option.some.inj (hread.symm.trans hread'))

/-- Nothing is packed in the value that a segment writes. -/
def IsUnpacked (segment : List Char) : Prop := ∀ v, WritesValue segment v → v.isUnpacked = true

theorem WritesValue.isUnpacked {segment : List Char} {v : Json} (h : WritesValue segment v)
    (hunpacked : v.isUnpacked = true) : IsUnpacked segment := by
  intro w hw
  rw [hw.unique h, hunpacked]

theorem WritesValue.spellsObject {segment : List Char} {members : List (String × Json)}
    (h : WritesValue segment (.obj members)) (hunpacked : (Json.obj members).isUnpacked = true) :
    SpellsObject segment members := by
  obtain ⟨bytes, hbytes, hspelled⟩ := h
  exact ⟨bytes, hbytes, Json.read?_of_isUnpacked hspelled hunpacked⟩

/-- What is spelled as an object is written as one, too. -/
theorem SpellsObject.exists_writesValue {segment : List Char} {members : List (String × Json)}
    (h : SpellsObject segment members) : ∃ written, WritesValue segment (.obj written) := by
  obtain ⟨bytes, hbytes, hread⟩ := h
  obtain ⟨w, hspelled, hunpack⟩ := Json.read?_eq_some_iff.1 hread
  cases w with
  | obj written => exact ⟨written, bytes, hbytes, hspelled⟩
  | arr items =>
    obtain ⟨_, -, h⟩ := Option.map_eq_some_iff.1 hunpack
    cases h
  | _ => cases hunpack

theorem SpellsObject.writesValue {segment : List Char} {members : List (String × Json)}
    (h : SpellsObject segment members) (hunpacked : IsUnpacked segment) :
    WritesValue segment (.obj members) := by
  obtain ⟨written, hwrites⟩ := h.exists_writesValue
  obtain rfl := (hwrites.spellsObject (hunpacked _ hwrites)).unique h
  exact hwrites

/-- Each party that is expected is the one named, unless none is named. -/
structure Expectations.MetBy (members : List (String × Json)) (e : Expectations) : Prop where
  issuer : ∀ i, e.issuer = some i → ∀ v, ("iss", v) ∈ members → v = .str i
  audience : ∀ a, e.audience = some a → ∀ v, ("aud", v) ∈ members → v = .str a

/-- The reader of names gets past the members, and each party that is expected is among those named,
if the value of the name has the shape for it. -/
structure Expectations.PassedBy (members : List (String × Json)) (e : Expectations) : Prop where
  passes : Naming.PassesMembers members
  issuer : ∀ i, e.issuer = some i → ∀ v parties, ("iss", v) ∈ members →
    Naming.parties? v = some parties → i ∈ parties
  audience : ∀ a, e.audience = some a → ∀ v parties, ("aud", v) ∈ members →
    Naming.parties? v = some parties → a ∈ parties

theorem exists_naming_iff_passedBy {members : List (String × Json)} {e : Expectations} :
    (∃ n, Naming.ofPayload? (.obj members) = some n ∧ Naming.agrees e.issuer n.issuer = true
        ∧ Naming.agrees e.audience n.audience = true)
      ↔ e.PassedBy members := by
  constructor
  · rintro ⟨n, hn, hissuer, haudience⟩
    have hpasses := Naming.exists_ofPayload?_obj_iff.1 ⟨n, hn⟩
    rw [Naming.ofPayload?_of_once hpasses.once, Option.ite_none_right_eq_some] at hn
    obtain ⟨-, hn⟩ := hn
    cases hn
    exact ⟨hpasses, (Naming.agrees_last?_iff (hpasses.once "iss" (by decide))).1 hissuer,
      (Naming.agrees_last?_iff (hpasses.once "aud" (by decide))).1 haudience⟩
  · rintro ⟨hpasses, hissuer, haudience⟩
    obtain ⟨n, hn⟩ := Naming.exists_ofPayload?_obj_iff.2 hpasses
    refine ⟨n, hn, ?_⟩
    rw [Naming.ofPayload?_of_once hpasses.once, Option.ite_none_right_eq_some] at hn
    obtain ⟨-, hn⟩ := hn
    cases hn
    exact ⟨(Naming.agrees_last?_iff (hpasses.once "iss" (by decide))).2 hissuer,
      (Naming.agrees_last?_iff (hpasses.once "aud" (by decide))).2 haudience⟩

/-- Members that spell claims name a party by a text or not at all. -/
theorem passedBy_iff_metBy {members : List (String × Json)} {c : StandardClaims}
    (h : c.SpelledBy members) {e : Expectations} :
    e.PassedBy members
      ↔ (∀ name ∈ Naming.knownNames, members.countP (·.1 == name) ≤ 1) ∧ e.MetBy members := by
  -- a text names just itself
  have hparty {name value : String} (hname : SpellsText members name value)
      (hcount : members.countP (·.1 == name) ≤ 1) (p : String) :
      (∀ v parties, (name, v) ∈ members → Naming.parties? v = some parties → p ∈ parties)
        ↔ ∀ v, (name, v) ∈ members → v = .str p := by
    have hv (v : Json) (hv : (name, v) ∈ members) : v = .str value := by
      have hlast := Naming.last?_eq_some_of_mem hcount hv
      rcases hname with hname | ⟨hname, -⟩
      · exact Option.some.inj (hlast.symm.trans hname)
      · cases hlast.symm.trans hname
    constructor
    · intro hall v hmem
      obtain rfl := hv v hmem
      have := hall _ [value] hmem rfl
      rw [List.mem_singleton.1 this]
    · intro hall v parties hmem hparties
      rw [hall v hmem] at hparties
      cases hparties
      exact List.mem_singleton.2 rfl
  have hpasses : Naming.PassesMembers members
      ↔ ∀ name ∈ Naming.knownNames, members.countP (·.1 == name) ≤ 1 := by
    rw [← Naming.exists_ofPayload?_obj_iff]
    simp only [Naming.ofPayload?_eq_some_iff h, exists_and_left, exists_eq, and_true]
  constructor
  · rintro ⟨hpast, hissuer, haudience⟩
    have hcount := hpasses.1 hpast
    exact ⟨hcount, fun i hi => (hparty h.issuer (hcount "iss" (by decide)) i).1 (hissuer i hi),
      fun a ha => (hparty h.audience (hcount "aud" (by decide)) a).1 (haudience a ha)⟩
  · rintro ⟨hcount, hissuer, haudience⟩
    exact ⟨hpasses.2 hcount,
      fun i hi => (hparty h.issuer (hcount "iss" (by decide)) i).2 (hissuer i hi),
      fun a ha => (hparty h.audience (hcount "aud" (by decide)) a).2 (haudience a ha)⟩

theorem Token.acceptPayload_eq_ok_iff {expected : Expectations} {payload : List Char} {v : Json} :
    acceptPayload expected payload = .ok v ↔
      (∃ bytes, decodeSegment payload = .ok bytes ∧ Json.read? bytes = some v)
        ∧ ∃ w n, WritesValue payload w ∧ Naming.ofPayload? w = some n
          ∧ Naming.agrees expected.issuer n.issuer = true
          ∧ Naming.agrees expected.audience n.audience = true := by
  constructor
  · intro h
    unfold acceptPayload at h
    obtain ⟨bytes, hbytes, h⟩ := Outcome.bind_eq_ok.1 h
    obtain ⟨value, hvalue, h⟩ := Outcome.bind_eq_ok.1 h
    obtain ⟨naming, hnaming, h⟩ := Outcome.bind_eq_ok.1 h
    obtain ⟨hissuer, h⟩ := Outcome.guard_eq_ok.1 h
    obtain ⟨haudience, h⟩ := Outcome.guard_eq_ok.1 h
    cases h
    obtain ⟨w, hw, hn⟩ := Option.bind_eq_some_iff.1 (Outcome.elim_eq_ok.1 hnaming)
    have hbytes := Outcome.mapError_eq_ok.1 hbytes
    exact ⟨⟨bytes, hbytes, Outcome.elim_eq_ok.1 hvalue⟩, w, naming, ⟨bytes, hbytes, hw⟩, hn,
      by simpa using hissuer, by simpa using haudience⟩
  · rintro ⟨⟨bytes, hbytes, hvalue⟩, w, n, ⟨bytes', hbytes', hw⟩, hn, hissuer, haudience⟩
    obtain rfl : bytes = bytes' := Except.ok.inj (hbytes.symm.trans hbytes')
    rw [acceptPayload, Outcome.mapError_eq_ok.2 hbytes]
    refine Outcome.bind_eq_ok.2 ⟨bytes, rfl, ?_⟩
    rw [hvalue]
    refine Outcome.bind_eq_ok.2 ⟨v, rfl, ?_⟩
    rw [hw, Option.bind_some, hn]
    refine Outcome.bind_eq_ok.2 ⟨n, rfl, ?_⟩
    exact Outcome.guard_eq_ok.2 ⟨by simp [hissuer], Outcome.guard_eq_ok.2 ⟨by simp [haudience], rfl⟩⟩

section
variable {expected : Expectations} {payload : List Char} {bytes : List UInt8}
  (hbytes : decodeSegment payload = .ok bytes)
include hbytes

/-- What cannot be read is refused as a text. -/
theorem Token.acceptPayload_of_read?_eq_none (hread : Json.read? bytes = none) :
    acceptPayload expected payload = .error .json := by
  rw [acceptPayload, hbytes]
  dsimp only [Except.mapError, bind, Except.bind]
  rw [hread]
  rfl

variable {w : Json} (hspelled : Json.spelled? bytes = some w)
include hspelled

/-- So is what names cannot be looked up in. -/
theorem Token.acceptPayload_of_ofPayload?_eq_none (hn : Naming.ofPayload? w = none) :
    acceptPayload expected payload = .error .json := by
  rw [acceptPayload, hbytes]
  dsimp only [Except.mapError, bind, Except.bind]
  rw [hspelled, Option.bind_some, hn]
  cases Json.read? bytes <;> rfl

/-- What names can be looked up in is refused for its parties only, once it is read. -/
theorem Token.acceptPayload_cases {v : Json} {n : Naming} (hread : Json.read? bytes = some v)
    (hn : Naming.ofPayload? w = some n) :
    acceptPayload expected payload = .ok v
      ∨ acceptPayload expected payload = .error .invalidIssuer
      ∨ acceptPayload expected payload = .error .invalidAudience := by
  rw [acceptPayload, hbytes]
  dsimp only [Except.mapError, bind, Except.bind]
  rw [hread, hspelled, Option.bind_some, hn]
  dsimp only [Option.elim_some, pure, Except.pure]
  split
  · exact .inr (.inl rfl)
  split
  · exact .inr (.inr rfl)
  · exact .inl rfl

end

/-- A payload passes, with the claims it spells, just if it is an object and the members that are
written in it get past the reader of names and name the parties expected. -/
theorem Token.acceptPayload_and_ofJson?_iff {expected : Expectations} {payload : List Char}
    {c : Claims} :
    (∃ v, acceptPayload expected payload = .ok v ∧ Claims.ofJson? v = .ok c) ↔
      ∃ written members, WritesValue payload (.obj written) ∧ expected.PassedBy written
        ∧ SpellsObject payload members ∧ Claims.ofJson? (.obj members) = .ok c := by
  constructor
  · rintro ⟨v, haccept, hclaims⟩
    obtain ⟨members, rfl⟩ := Claims.exists_obj_of_ofJson? hclaims
    obtain ⟨hspells, w, n, hw, hn⟩ := acceptPayload_eq_ok_iff.1 haccept
    obtain ⟨written, hwritten⟩ := SpellsObject.exists_writesValue hspells
    obtain rfl := hw.unique hwritten
    exact ⟨written, members, hwritten, exists_naming_iff_passedBy.1 ⟨n, hn⟩, hspells, hclaims⟩
  · rintro ⟨written, members, hwritten, hpassed, hspells, hclaims⟩
    obtain ⟨n, hn⟩ := exists_naming_iff_passedBy.2 hpassed
    exact ⟨.obj members, acceptPayload_eq_ok_iff.2 ⟨hspells, _, n, hwritten, hn⟩, hclaims⟩

/-- If nothing is packed in it, it is written as it is read, so that no known name occurs twice and
the parties are just those expected. -/
theorem Token.acceptPayload_and_ofJson?_iff_of_isUnpacked {expected : Expectations}
    {payload : List Char} (hunpacked : IsUnpacked payload) {c : Claims} :
    (∃ v, acceptPayload expected payload = .ok v ∧ Claims.ofJson? v = .ok c) ↔
      ∃ members, SpellsObject payload members
        ∧ (∀ name ∈ Naming.knownNames, members.countP (·.1 == name) ≤ 1)
        ∧ Claims.ofJson? (.obj members) = .ok c ∧ expected.MetBy members := by
  rw [acceptPayload_and_ofJson?_iff]
  constructor
  · rintro ⟨written, members, hwritten, hpassed, hspells, hclaims⟩
    obtain rfl := Json.obj.inj ((hspells.writesValue hunpacked).unique hwritten)
    have hspelled := (Claims.ofJson?_obj_eq_ok_iff.1 hclaims).2
    obtain ⟨hcount, hmet⟩ := (passedBy_iff_metBy hspelled).1 hpassed
    exact ⟨members, hspells, hcount, hclaims, hmet⟩
  · rintro ⟨members, hspells, hcount, hclaims, hmet⟩
    have hspelled := (Claims.ofJson?_obj_eq_ok_iff.1 hclaims).2
    exact ⟨members, members, hspells.writesValue hunpacked,
      (passedBy_iff_metBy hspelled).2 ⟨hcount, hmet⟩, hspells, hclaims⟩

/-! ## Times and id -/

/-- Each time that is set lies on the right side of `now`, give or take the leeway, and the id is
there if it has to be. -/
structure StandardClaims.PassAt (e : Expectations) (now : Instant) (c : StandardClaims) : Prop where
  expiry : c.expiresAt ≠ 0 → now.seconds ≤ c.expiresAt.toInt + e.leewaySeconds.toNat
  start : c.notBefore ≠ 0 → c.notBefore.toInt ≤ now.seconds + e.leewaySeconds.toNat
  issue : e.skipIssuedAt = false → c.issuedAt ≠ 0 →
    c.issuedAt.toInt ≤ now.seconds + e.leewaySeconds.toNat
  id : e.requireId = true → c.id ≠ ""

/-- The first check that fails decides. No bound of 64 bits shows. -/
theorem Token.checkClaims_eq (e : Expectations) (now : Instant) (c : StandardClaims) :
    checkClaims e now c =
      if c.expiresAt ≠ 0 ∧ c.expiresAt.toInt + e.leewaySeconds.toNat < now.seconds then
        .error .expired
      else if c.notBefore ≠ 0 ∧ now.seconds + e.leewaySeconds.toNat < c.notBefore.toInt then
        .error .notValidYet
      else if e.skipIssuedAt = false ∧ c.issuedAt ≠ 0
          ∧ now.seconds + e.leewaySeconds.toNat < c.issuedAt.toInt then
        .error .issuedAt
      else if e.requireId = true ∧ c.id = "" then .error .id
      else .ok () := by
  have hearliest : c.expiresAt < nearest64 (now.timestamp.toInt - e.leewaySeconds.toNat)
      ↔ c.expiresAt.toInt + e.leewaySeconds.toNat < now.seconds := by
    rw [Int64.lt_iff_toInt_lt, now.toInt_nearest64_sub]
    omega
  have hlatest (n : Int64) : nearest64 (now.timestamp.toInt + e.leewaySeconds.toNat) < n
      ↔ now.seconds + e.leewaySeconds.toNat < n.toInt := by
    rw [Int64.lt_iff_toInt_lt, now.toInt_nearest64_add]
  simp only [checkClaims, hearliest, hlatest]
  rfl

theorem Token.checkClaims_eq_ok_iff {e : Expectations} {now : Instant} {c : StandardClaims} :
    checkClaims e now c = .ok () ↔ c.PassAt e now := by
  rw [checkClaims_eq]
  constructor
  · intro h
    split at h
    · cases h
    split at h
    · cases h
    split at h
    · cases h
    split at h
    · cases h
    rename_i hexpiry hstart hissue hid
    exact {
      expiry := fun hset => Int.not_lt.1 fun hlt => hexpiry ⟨hset, hlt⟩
      start := fun hset => Int.not_lt.1 fun hlt => hstart ⟨hset, hlt⟩
      issue := fun hskip hset => Int.not_lt.1 fun hlt => hissue ⟨hskip, hset, hlt⟩
      id := fun hrequired hempty => hid ⟨hrequired, hempty⟩ }
  · intro h
    rw [if_neg fun hexpiry => Int.not_lt.2 (h.expiry hexpiry.1) hexpiry.2,
      if_neg fun hstart => Int.not_lt.2 (h.start hstart.1) hstart.2,
      if_neg fun hissue => Int.not_lt.2 (h.issue hissue.1 hissue.2.1) hissue.2.2,
      if_neg fun hid => h.id hid.1 hid.2]

/-! ## Whole texts -/

theorem Compact.split?_eq_some_iff_exists {text : String} {P : Compact → Prop} :
    (∃ c, split? text = some c ∧ P c) ↔
      ∃ header payload signature : List Char,
        text.toList = messageOf header payload ++ '.' :: signature
          ∧ '.' ∉ payload ∧ '.' ∉ signature
          ∧ P ⟨messageOf header payload, header, payload, signature⟩ := by
  simp only [split?_eq_some_iff]
  constructor
  · rintro ⟨⟨message, header, payload, signature⟩, ⟨htext, hmessage, hpayload, hsignature⟩, hP⟩
    obtain rfl : message = messageOf header payload := hmessage
    exact ⟨header, payload, signature, htext, hpayload, hsignature, hP⟩
  · rintro ⟨header, payload, signature, htext, hpayload, hsignature, hP⟩
    exact ⟨_, ⟨htext, rfl, hpayload, hsignature⟩, hP⟩

theorem Header.SpelledBy.dot_not_mem {segment : List Char} {h : Header}
    (hs : h.SpelledBy segment) : '.' ∉ segment := by
  obtain ⟨bytes, hbytes, -⟩ := hs
  exact dot_not_mem_of_decodeSegment hbytes

/-- A segment spells one header at most. -/
theorem Header.SpelledBy.unique {segment : List Char} {h h' : Header} (hs : h.SpelledBy segment)
    (hs' : h'.SpelledBy segment) : h = h' := by
  obtain ⟨bytes, hbytes, hread⟩ := hs
  obtain ⟨bytes', hbytes', hread'⟩ := hs'
  obtain rfl : bytes = bytes' := Except.ok.inj (hbytes.symm.trans hbytes')
  exact Option.some.inj (hread.symm.trans hread')

namespace Token

theorem parse_eq_ok_iff_check {t : Token} {now : Instant} {text : String} {p : ParsedToken} :
    t.parse now text = .ok p ↔ t.check now text = .ok p := by
  unfold parse
  cases t.check now text with
  | ok q => simp
  | error e => simp

theorem verify_eq_check (t : Token) (now : Instant) (text : String) :
    t.verify now text = (t.check now text).map ParsedToken.claims := by
  rw [verify, parse]
  cases t.check now text with
  | ok p => rfl
  | error e => rfl

/-- What a verifier takes a text for before it looks at times and id. -/
def recognize (t : Token) (text : String) : Except TokenError ParsedToken := do
  let c ← (Compact.split? text).elim (throw (.ofJwt .invalidToken)) pure
  let header ← (authenticate t.key c).mapError TokenError.ofJwt
  let value ← (acceptPayload t.expectations c.payload).mapError TokenError.ofJwt
  let claims ← (Claims.ofJson? value).mapError fun fault => TokenError.claimsInvalid fault.message
  return { header, claims, signature := String.ofList c.signature, valid := true }

theorem check_eq_recognize (t : Token) (now : Instant) (text : String) :
    t.check now text = do
      let p ← t.recognize text
      checkClaims t.expectations now p.claims.standard
      return p := by
  simp only [check, recognize, bind_assoc, pure_bind]

/-- A text is accepted just if it is recognized and its times and id pass. -/
theorem parse_eq_ok_iff_recognize {t : Token} {now : Instant} {text : String} {p : ParsedToken} :
    t.parse now text = .ok p ↔
      t.recognize text = .ok p ∧ p.claims.standard.PassAt t.expectations now := by
  rw [parse_eq_ok_iff_check, check_eq_recognize]
  constructor
  · intro h
    obtain ⟨q, hq, h⟩ := Outcome.bind_eq_ok.1 h
    obtain ⟨_, hpass, h⟩ := Outcome.bind_eq_ok.1 h
    cases h
    exact ⟨hq, checkClaims_eq_ok_iff.1 hpass⟩
  · rintro ⟨hp, hpass⟩
    exact Outcome.bind_eq_ok.2 ⟨p, hp,
      Outcome.bind_eq_ok.2 ⟨(), checkClaims_eq_ok_iff.2 hpass, rfl⟩⟩

/-- A text is refused before times and id are looked at, or on account of these. -/
theorem parse_eq_error_iff {t : Token} {now : Instant} {text : String} {r : Rejection} :
    t.parse now text = .error r ↔
      (t.recognize text = .error r.error
          ∨ ∃ p, t.recognize text = .ok p
            ∧ checkClaims t.expectations now p.claims.standard = .error r.error)
        ∧ r.handle = ParsedToken.unverified? text := by
  have hcheck (e : TokenError) : t.check now text = .error e ↔ t.recognize text = .error e
      ∨ ∃ p, t.recognize text = .ok p
        ∧ checkClaims t.expectations now p.claims.standard = .error e := by
    rw [check_eq_recognize, Outcome.bind_eq_error]
    refine or_congr_right (exists_congr fun p => and_congr_right fun _ => ?_)
    rw [Outcome.bind_eq_error]
    exact or_iff_left fun ⟨_, _, hok⟩ => by cases hok
  rw [← hcheck, parse]
  obtain ⟨error, handle⟩ := r
  cases t.check now text with
  | ok p => simp
  | error e => simp [eq_comm]

theorem parse_of_recognize_eq_error {t : Token} {text : String} {e : TokenError}
    (h : t.recognize text = .error e) (now : Instant) :
    t.parse now text = .error ⟨e, ParsedToken.unverified? text⟩ :=
  parse_eq_error_iff.2 ⟨.inl h, rfl⟩

theorem parse_of_checkClaims_eq_error {t : Token} {now : Instant} {text : String} {p : ParsedToken}
    {e : TokenError} (h : t.recognize text = .ok p)
    (hcheck : checkClaims t.expectations now p.claims.standard = .error e) :
    t.parse now text = .error ⟨e, ParsedToken.unverified? text⟩ :=
  parse_eq_error_iff.2 ⟨.inr ⟨p, h, hcheck⟩, rfl⟩

section
variable {t : Token} {text : String} {message header payload signature : List Char} {h : Header}
  (hc : Compact.split? text = some ⟨message, header, payload, signature⟩)
  (hh : authenticate t.key ⟨message, header, payload, signature⟩ = .ok h)
include hc hh

/-- Once its signature is found good, of a text only the payload is left to look at. -/
theorem recognize_of_authenticate :
    t.recognize text = do
      let value ← (acceptPayload t.expectations payload).mapError TokenError.ofJwt
      let claims ← (Claims.ofJson? value).mapError fun fault => .claimsInvalid fault.message
      return { header := h, claims, signature := String.ofList signature, valid := true } := by
  rw [recognize, hc]
  dsimp only [Option.elim_some, bind, Except.bind, pure, Except.pure]
  rw [hh]
  rfl

theorem recognize_of_acceptPayload_eq_error {e : JwtError}
    (he : acceptPayload t.expectations payload = .error e) :
    t.recognize text = .error (.ofJwt e) := by
  rw [recognize_of_authenticate hc hh, he]
  rfl

theorem recognize_of_ofJson?_eq_error {v : Json} {fault : ClaimsFault}
    (hv : acceptPayload t.expectations payload = .ok v)
    (hfault : Claims.ofJson? v = .error fault) :
    t.recognize text = .error (.claimsInvalid fault.message) := by
  rw [recognize_of_authenticate hc hh, hv]
  refine Outcome.bind_eq_error.2 (.inr ⟨v, rfl, ?_⟩)
  rw [hfault]
  rfl

theorem recognize_of_ofJson?_eq_ok {v : Json} {claims : Claims}
    (hv : acceptPayload t.expectations payload = .ok v)
    (hclaims : Claims.ofJson? v = .ok claims) :
    t.recognize text = .ok {
      header := h, claims, signature := String.ofList signature, valid := true } := by
  rw [recognize_of_authenticate hc hh, hv]
  refine Outcome.bind_eq_ok.2 ⟨v, rfl, ?_⟩
  rw [hclaims]
  rfl

end

theorem recognize_eq_ok_iff {t : Token} {text : String} {p : ParsedToken} :
    t.recognize text = .ok p ↔
      ∃ c, Compact.split? text = some c
        ∧ (p.header.SpelledBy c.header ∧ IsSignature t.key p.header.algorithm c.message c.signature)
        ∧ (∃ v, acceptPayload t.expectations c.payload = .ok v ∧ Claims.ofJson? v = .ok p.claims)
        ∧ p.signature = String.ofList c.signature ∧ p.valid = true := by
  constructor
  · intro h
    unfold recognize at h
    obtain ⟨c, hc, h⟩ := Outcome.bind_eq_ok.1 h
    obtain ⟨header, hheader, h⟩ := Outcome.bind_eq_ok.1 h
    obtain ⟨value, hvalue, h⟩ := Outcome.bind_eq_ok.1 h
    obtain ⟨claims, hclaims, h⟩ := Outcome.bind_eq_ok.1 h
    cases h
    exact ⟨c, Outcome.elim_eq_ok.1 hc,
      authenticate_eq_ok_iff.1 (Outcome.mapError_eq_ok.1 hheader),
      ⟨value, Outcome.mapError_eq_ok.1 hvalue, Outcome.mapError_eq_ok.1 hclaims⟩, rfl, rfl⟩
  · rintro ⟨c, hc, hheader, ⟨value, hvalue, hclaims⟩, hsignature, hvalid⟩
    obtain ⟨header, claims, signature, valid⟩ := p
    cases hsignature
    cases hvalid
    rw [recognize, hc]
    refine Outcome.bind_eq_ok.2 ⟨c, rfl, ?_⟩
    refine Outcome.bind_eq_ok.2
      ⟨header, Outcome.mapError_eq_ok.2 (authenticate_eq_ok_iff.2 hheader), ?_⟩
    refine Outcome.bind_eq_ok.2 ⟨value, Outcome.mapError_eq_ok.2 hvalue, ?_⟩
    exact Outcome.bind_eq_ok.2 ⟨claims, Outcome.mapError_eq_ok.2 hclaims, rfl⟩

theorem check_eq_ok_iff {t : Token} {now : Instant} {text : String} {p : ParsedToken} :
    t.check now text = .ok p ↔
      ∃ c, Compact.split? text = some c
        ∧ (p.header.SpelledBy c.header ∧ IsSignature t.key p.header.algorithm c.message c.signature)
        ∧ (∃ v, acceptPayload t.expectations c.payload = .ok v ∧ Claims.ofJson? v = .ok p.claims)
        ∧ p.claims.standard.PassAt t.expectations now
        ∧ p.signature = String.ofList c.signature ∧ p.valid = true := by
  rw [← parse_eq_ok_iff_check, parse_eq_ok_iff_recognize, recognize_eq_ok_iff]
  constructor
  · rintro ⟨⟨c, hc, hheader, hclaims, hrest⟩, hpass⟩
    exact ⟨c, hc, hheader, hclaims, hpass, hrest⟩
  · rintro ⟨c, hc, hheader, hclaims, hpass, hrest⟩
    exact ⟨⟨c, hc, hheader, hclaims, hrest⟩, hpass⟩

/-- Nothing is packed in the payload of a text. -/
def HasUnpackedPayload (text : String) : Prop :=
  ∀ c, Compact.split? text = some c → IsUnpacked c.payload

theorem HasUnpackedPayload.of_split? {text : String} {c : Compact}
    (hc : Compact.split? text = some c) (h : IsUnpacked c.payload) : HasUnpackedPayload text := by
  intro c' hc'
  obtain rfl : c = c' := Option.some.inj (hc.symm.trans hc')
  exact h

end Token

end SignedToken
