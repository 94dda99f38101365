import Mathlib.Logic.Basic
import SignedToken.Proofs.Token.Acceptance
import SignedToken.Proofs.Token.Segment

/-!
# Signed tokens are read back

What a token signs spells its header and its claims, so that every verifier with its key accepts the
signed text, as far as times, id and parties are as that verifier expects, and gets the claims back.
-/

namespace SignedToken

open Json (maxDepth)

namespace Token

/-! ## Signing -/

/-- What a token signs: its header and its claims. -/
def message (t : Token) : List Char :=
  Compact.messageOf (Header.ofAlgorithm t.algorithm).toJson.segment t.claims.toJson.segment

theorem sign_eq_ok_iff {key : List UInt8} {algorithm : Algorithm}
    {text signature : List Char} :
    sign key algorithm text = .ok signature ↔ IsSignature key algorithm text signature := by
  unfold sign
  constructor
  · intro h
    split at h
    · rename_i size hsize
      exact ⟨size, Algorithm.hmac?_eq_some_iff.1 hsize, (Except.ok.inj h).symm⟩
    · split at h <;> cases h
  · rintro ⟨size, hsize, rfl⟩
    rw [Algorithm.hmac?_eq_some_iff.2 hsize]

theorem create_eq_ok_iff {t : Token} {signed : String} :
    t.create = .ok signed ↔
      ∃ signature, IsSignature t.key t.algorithm t.message signature
        ∧ signed = String.ofList (t.message ++ '.' :: signature) := by
  simp only [← sign_eq_ok_iff]
  rw [create, ← message]
  cases sign t.key t.algorithm t.message with
  | ok signature => simp [eq_comm]
  | error e => simp

theorem exists_isSignature {algorithm : Algorithm}
    (h : algorithm ∈ [Algorithm.hs256, .hs384, .hs512]) (key : List UInt8) (message : List Char) :
    ∃ signature, IsSignature key algorithm message signature := by
  have hsize : ∃ size, (algorithm, size) ∈ Algorithm.hmacFamily := by
    simp only [List.mem_cons, List.not_mem_nil, or_false] at h
    rcases h with rfl | rfl | rfl
    · exact ⟨.bits256, by decide⟩
    · exact ⟨.bits384, by decide⟩
    · exact ⟨.bits512, by decide⟩
  obtain ⟨size, hsize⟩ := hsize
  exact ⟨_, size, hsize, rfl⟩

theorem exists_create {t : Token} (h : t.algorithm ∈ [Algorithm.hs256, .hs384, .hs512]) :
    ∃ signed, t.create = .ok signed := by
  obtain ⟨signature, hsigned⟩ := exists_isSignature h t.key t.message
  exact ⟨_, create_eq_ok_iff.2 ⟨signature, hsigned, rfl⟩⟩

/-! ## Reading back -/

/-- A token whose payload is read as it was written. -/
structure IsLegible (t : Token) : Prop where
  floatFree : t.claims.body.toJson.isFloatFree = true
  depth_le : t.claims.body.toJson.depth ≤ 126
  unpacked : t.claims.body.toJson.isUnpacked = true

theorem spelledBy_segment (h : Header) : h.SpelledBy h.toJson.segment :=
  ⟨_, decodeSegment_segment _, h.readStrictly?_toJson⟩

theorem spelledBy_header (t : Token) :
    (Header.ofAlgorithm t.algorithm).SpelledBy (Header.ofAlgorithm t.algorithm).toJson.segment :=
  spelledBy_segment _

theorem IsLegible.writesValue {t : Token} (h : t.IsLegible) :
    WritesValue t.claims.toJson.segment t.claims.toJson := by
  have hfree : t.claims.toJson.isFloatFree = true := by
    rw [Claims.isFloatFree_toJson]
    exact h.floatFree
  have hdepth : t.claims.toJson.depth ≤ maxDepth := Claims.depth_toJson_le_iff.2 h.depth_le
  exact ⟨_, decodeSegment_segment _, Json.spelled?_chars hfree hdepth⟩

theorem IsLegible.spellsObject {t : Token} (h : t.IsLegible) :
    SpellsObject t.claims.toJson.segment
      (("body", t.claims.body.toJson) :: t.claims.standard.members) := by
  refine h.writesValue.spellsObject ?_
  rw [← h.unpacked, ← Claims.isUnpacked_toJson]
  rfl

theorem IsLegible.ofJson?_eq {t : Token} (h : t.IsLegible) :
    Claims.ofJson? t.claims.toJson = .ok t.claims := by
  have hunpacked := h.unpacked
  rw [Json.Object.toJson, Json.isUnpacked, Bool.and_eq_true] at hunpacked
  exact Claims.ofJson?_toJson hunpacked.2

theorem split?_message {t : Token} {signature : List Char} (hsignature : '.' ∉ signature) :
    Compact.split? (String.ofList (t.message ++ '.' :: signature)) = some {
      message := t.message
      header := (Header.ofAlgorithm t.algorithm).toJson.segment
      payload := t.claims.toJson.segment
      signature } :=
  Compact.split?_ofList (dot_not_mem_segment _) hsignature

theorem authenticate_message {t verifier : Token} {signature : List Char}
    (hsigned : IsSignature t.key t.algorithm t.message signature)
    (hkey : verifier.key = t.key) :
    authenticate verifier.key {
      message := t.message
      header := (Header.ofAlgorithm t.algorithm).toJson.segment
      payload := t.claims.toJson.segment
      signature } = .ok (Header.ofAlgorithm t.algorithm) := by
  refine authenticate_eq_ok_iff.2 ⟨t.spelledBy_header, ?_⟩
  rw [hkey]
  exact hsigned

/-- Claims as they are written pass an expectation by being silent or saying just that. -/
theorem passedBy_members_iff {e : Expectations} {b : Json} {c : StandardClaims} :
    e.PassedBy (("body", b) :: c.members) ↔
      (∀ a, e.audience = some a → c.audience = "" ∨ c.audience = a)
        ∧ ∀ i, e.issuer = some i → c.issuer = "" ∨ c.issuer = i := by
  have hspelled := c.spelledBy_members b
  have haud (a : String) := Naming.absent_or_eq_iff hspelled.audience
    (c.countP_members_le_one b "aud") (e := a)
  have hiss (i : String) := Naming.absent_or_eq_iff hspelled.issuer
    (c.countP_members_le_one b "iss") (e := i)
  simp only [StandardClaims.last?_aud, ite_eq_right_iff, reduceCtorEq, imp_false, not_not] at haud
  simp only [StandardClaims.last?_iss, ite_eq_right_iff, reduceCtorEq, imp_false, not_not] at hiss
  rw [passedBy_iff_metBy hspelled]
  constructor
  · rintro ⟨-, h⟩
    exact ⟨fun a ha => (haud a).2 (h.audience a ha), fun i hi => (hiss i).2 (h.issuer i hi)⟩
  · rintro ⟨haudience, hissuer⟩
    exact ⟨fun name _ => c.countP_members_le_one b name,
      fun i hi => (hiss i).1 (hissuer i hi), fun a ha => (haud a).1 (haudience a ha)⟩

theorem IsLegible.exists_acceptPayload {t : Token} (h : t.IsLegible) {e : Expectations}
    (haudience : ∀ a, e.audience = some a →
      t.claims.standard.audience = "" ∨ t.claims.standard.audience = a)
    (hissuer : ∀ i, e.issuer = some i →
      t.claims.standard.issuer = "" ∨ t.claims.standard.issuer = i) :
    ∃ v, acceptPayload e t.claims.toJson.segment = .ok v ∧ Claims.ofJson? v = .ok t.claims :=
  acceptPayload_and_ofJson?_iff.2 ⟨_, _, h.writesValue, passedBy_members_iff.2 ⟨haudience, hissuer⟩,
    h.spellsObject, h.ofJson?_eq⟩

/-- Whoever has the key and expects no other parties recognizes a signed token as it was made. -/
theorem IsLegible.recognize_message {t verifier : Token} (h : t.IsLegible) {signature : List Char}
    (hsigned : IsSignature t.key t.algorithm t.message signature) (hkey : verifier.key = t.key)
    (haudience : ∀ a, verifier.expectations.audience = some a →
      t.claims.standard.audience = "" ∨ t.claims.standard.audience = a)
    (hissuer : ∀ i, verifier.expectations.issuer = some i →
      t.claims.standard.issuer = "" ∨ t.claims.standard.issuer = i) :
    verifier.recognize (String.ofList (t.message ++ '.' :: signature)) = .ok {
      header := Header.ofAlgorithm t.algorithm
      claims := t.claims
      signature := String.ofList signature
      valid := true } := by
  obtain ⟨v, haccept, hclaims⟩ := h.exists_acceptPayload haudience hissuer
  exact recognize_of_ofJson?_eq_ok (split?_message hsigned.dot_not_mem)
    (authenticate_message hsigned hkey) haccept hclaims

theorem IsLegible.parse_message {t verifier : Token} (h : t.IsLegible) {now : Instant}
    {signature : List Char} (hsigned : IsSignature t.key t.algorithm t.message signature)
    (hkey : verifier.key = t.key) (hpass : t.claims.standard.PassAt verifier.expectations now)
    (haudience : ∀ a, verifier.expectations.audience = some a →
      t.claims.standard.audience = "" ∨ t.claims.standard.audience = a)
    (hissuer : ∀ i, verifier.expectations.issuer = some i →
      t.claims.standard.issuer = "" ∨ t.claims.standard.issuer = i) :
    verifier.parse now (String.ofList (t.message ++ '.' :: signature)) = .ok {
      header := Header.ofAlgorithm t.algorithm
      claims := t.claims
      signature := String.ofList signature
      valid := true } :=
  parse_eq_ok_iff_recognize.2 ⟨h.recognize_message hsigned hkey haudience hissuer, hpass⟩

end Token

/-! ## Without verifying -/

/-- A text is read without verifying just if its three segments spell header and claims. -/
theorem ParsedToken.unverified?_eq_some_iff {text : String} {p : ParsedToken} :
    unverified? text = some p ↔
      ∃ c, Compact.split? text = some c ∧ '.' ∉ c.header
        ∧ (∃ bytes, decodeSegment c.header = .ok bytes ∧ Header.read? bytes = some p.header)
        ∧ (∃ bytes v, decodeSegment c.payload = .ok bytes ∧ Json.read? bytes = some v
          ∧ Claims.ofJson? v = .ok p.claims)
        ∧ p.signature = String.ofList c.signature ∧ p.valid = false := by
  have hdots (c : Compact) : c.hasThreeSegments = true ↔ '.' ∉ c.header := by
    simp [Compact.hasThreeSegments]
  constructor
  · intro h
    unfold unverified? at h
    obtain ⟨c, hc, h⟩ := Option.bind_eq_some_iff.1 h
    by_cases hthree : c.hasThreeSegments = true
    · simp only [hthree, Bool.not_true, Bool.false_eq_true, if_false] at h
      obtain ⟨headerBytes, hheaderBytes, h⟩ := Option.bind_eq_some_iff.1 h
      obtain ⟨header, hheader, h⟩ := Option.bind_eq_some_iff.1 h
      obtain ⟨bytes, hbytes, h⟩ := Option.bind_eq_some_iff.1 h
      obtain ⟨v, hv, h⟩ := Option.bind_eq_some_iff.1 h
      obtain ⟨claims, hclaims, h⟩ := Option.bind_eq_some_iff.1 h
      cases h
      exact ⟨c, hc, (hdots c).1 hthree,
        ⟨headerBytes, Outcome.toOption_eq_some.1 hheaderBytes, hheader⟩,
        ⟨bytes, v, Outcome.toOption_eq_some.1 hbytes, hv, Outcome.toOption_eq_some.1 hclaims⟩,
        rfl, rfl⟩
    · simp only [hthree, Bool.not_false, if_true] at h
      cases h
  · rintro ⟨c, hc, hdot, ⟨headerBytes, hheaderBytes, hheader⟩, ⟨bytes, v, hbytes, hv, hclaims⟩,
      hsignature, hvalid⟩
    obtain ⟨header, claims, signature, valid⟩ := p
    cases hsignature
    cases hvalid
    rw [unverified?, hc]
    simp only [bind, Option.bind_some, (hdots c).2 hdot, Bool.not_true, Bool.false_eq_true, if_false,
      hheaderBytes, Except.toOption, hheader, hbytes, hv, hclaims]
    rfl

theorem ParsedToken.unverified?_of_split? {text : String}
    {message header payload signature : List Char} {h : Header} {v : Json} {claims : Claims}
    {headerBytes payloadBytes : List UInt8}
    (hc : Compact.split? text = some ⟨message, header, payload, signature⟩)
    (hheader : decodeSegment header = .ok headerBytes) (hh : Header.read? headerBytes = some h)
    (hpayload : decodeSegment payload = .ok payloadBytes) (hv : Json.read? payloadBytes = some v)
    (hclaims : Claims.ofJson? v = .ok claims) :
    unverified? text = some ⟨h, claims, String.ofList signature, false⟩ :=
  unverified?_eq_some_iff.2 ⟨_, hc, dot_not_mem_of_decodeSegment hheader,
    ⟨_, hheader, hh⟩, ⟨_, _, hpayload, hv, hclaims⟩, rfl, rfl⟩

theorem Token.IsLegible.unverified?_message {t : Token} (h : t.IsLegible) {signature : List Char}
    (hsignature : '.' ∉ signature) :
    ParsedToken.unverified? (String.ofList (t.message ++ '.' :: signature)) = some {
      header := Header.ofAlgorithm t.algorithm
      claims := t.claims
      signature := String.ofList signature
      valid := false } := by
  obtain ⟨bytes, hbytes, hread⟩ := h.spellsObject
  exact ParsedToken.unverified?_of_split? (split?_message hsignature) (decodeSegment_segment _)
    (Header.read?_toJson _) hbytes hread h.ofJson?_eq

theorem Token.IsLegible.exists_unverified? {t : Token} (h : t.IsLegible) {signed : String}
    (hcreate : t.create = .ok signed) :
    ∃ p, ParsedToken.unverified? signed = some p ∧ p.claims = t.claims := by
  obtain ⟨signature, hsigned, rfl⟩ := create_eq_ok_iff.1 hcreate
  exact ⟨_, h.unverified?_message hsigned.dot_not_mem, rfl⟩

/-! ## Payloads that cannot be read -/

namespace Token

variable {t verifier : Token} {signature : List Char}

theorem unverified?_message_eq_none (hread : Json.read? (Utf8.encode t.claims.toJson.chars) = none)
    (hdot : '.' ∉ signature) :
    ParsedToken.unverified? (String.ofList (t.message ++ '.' :: signature)) = none := by
  have hpayload : readSegment? Json.read? t.claims.toJson.segment = none := by
    rw [readSegment?_segment, hread]
  exact ParsedToken.unverified?_of_readSegment?_eq_none (split?_message hdot) hpayload

theorem parse_message_of_read?_eq_none
    (hread : Json.read? (Utf8.encode t.claims.toJson.chars) = none)
    (hsigned : IsSignature t.key t.algorithm t.message signature) (hkey : verifier.key = t.key)
    (now : Instant) :
    verifier.parse now (String.ofList (t.message ++ '.' :: signature))
      = .error ⟨.malformed "JSON error", none⟩ := by
  have hjson : acceptPayload verifier.expectations t.claims.toJson.segment = .error .json :=
    acceptPayload_of_read?_eq_none (decodeSegment_segment _) hread
  have hrecognize := recognize_of_acceptPayload_eq_error
    (split?_message (t := t) hsigned.dot_not_mem) (authenticate_message hsigned hkey) hjson
  rw [parse_of_recognize_eq_error hrecognize,
    unverified?_message_eq_none hread hsigned.dot_not_mem]
  rfl

/-! ## Round trip -/

/-- A token of the HMAC family whose payload has no floats, nests at most 126 deep and has nothing
packed in it can be signed, and every verifier that has its key, lets its times and id pass and
expects no other parties gets back what the token says. -/
theorem parse_create {t : Token} (halgorithm : t.algorithm ∈ [Algorithm.hs256, .hs384, .hs512])
    (hfree : t.claims.body.toJson.isFloatFree = true)
    (hdepth : t.claims.body.toJson.depth ≤ 126)
    (hunpacked : t.claims.body.toJson.isUnpacked = true) :
    ∃ message signature : List Char, '.' ∉ signature
      ∧ t.create = .ok (String.ofList (message ++ '.' :: signature))
      ∧ ∀ (verifier : Token) (now : Instant), verifier.key = t.key →
        t.claims.standard.PassAt verifier.expectations now →
        (∀ a, verifier.expectations.audience = some a →
          t.claims.standard.audience = "" ∨ t.claims.standard.audience = a) →
        (∀ i, verifier.expectations.issuer = some i →
          t.claims.standard.issuer = "" ∨ t.claims.standard.issuer = i) →
        verifier.parse now (String.ofList (message ++ '.' :: signature)) = .ok {
          header := ⟨t.algorithm, some "JWT"⟩
          claims := t.claims
          signature := String.ofList signature
          valid := true } := by
  have hlegible : t.IsLegible := ⟨hfree, hdepth, hunpacked⟩
  obtain ⟨signature, hsigned⟩ := exists_isSignature halgorithm t.key t.message
  refine ⟨t.message, signature, hsigned.dot_not_mem, ?_, ?_⟩
  · exact create_eq_ok_iff.2 ⟨signature, hsigned, rfl⟩
  · intro verifier now hkey hpass haudience hissuer
    exact hlegible.parse_message hsigned hkey hpass haudience hissuer

/-- A token with the name of a claim inside its payload, a text to be escaped, a time before 1970
and no audience. -/
def sample : Token where
  key := [0x6B]
  key_ne_nil := by decide
  algorithm := .hs384
  claims := {
    body := .ofMembers [("exp", .arr [.str "\"\n", .obj [("body", .null)], .ofInt64 (-7)])]
    standard := { audience := "", expiresAt := 200, id := "x", issuer := "app", notBefore := -5 } }
  expectations := {}

/-- A verifier with the key of the sample that expects an id and both parties. -/
def sampleVerifier : Token where
  key := [0x6B]
  key_ne_nil := by decide
  algorithm := .hs256
  claims := {}
  expectations := {
    audience := some "server", issuer := some "app", requireId := true, leewaySeconds := 5 }

theorem parse_create_sample :
    ∃ message signature : List Char, '.' ∉ signature
      ∧ sample.create = .ok (String.ofList (message ++ '.' :: signature))
      ∧ sampleVerifier.parse ⟨205, 0, by decide, by decide, by decide, by decide⟩
          (String.ofList (message ++ '.' :: signature)) = .ok {
        header := ⟨.hs384, some "JWT"⟩
        claims := sample.claims
        signature := String.ofList signature
        valid := true } := by
  obtain ⟨message, signature, hdot, hcreate, hparse⟩ :=
    parse_create (t := sample) (by decide) (by decide) (by decide) (by decide)
  refine ⟨message, signature, hdot, hcreate, hparse sampleVerifier _ rfl ?_ ?_ ?_⟩
  · exact ⟨by decide, by decide, by decide, by decide⟩
  · intro a _
    exact .inl rfl
  · intro i hi
    cases hi
    exact .inr rfl

/-- What is written with nothing packed in it has nothing packed in it. -/
theorem hasUnpackedPayload_message (hunpacked : t.claims.body.toJson.isUnpacked = true)
    (hdot : '.' ∉ signature) :
    HasUnpackedPayload (String.ofList (t.message ++ '.' :: signature)) := by
  refine .of_split? (split?_message hdot) ?_
  rintro v ⟨bytes, hbytes, hspelled⟩
  rw [decodeSegment_segment] at hbytes
  cases hbytes
  rw [Json.isUnpacked_of_spelled? hspelled, Claims.isUnpacked_toJson, hunpacked]

/-- A token whose payload is packed, but not as a text. -/
def packed : Token where
  key := sample.key
  key_ne_nil := sample.key_ne_nil
  algorithm := .hs256
  claims := {
    body := .ofMembers [(Json.packedName, .ofInt64 1)]
    standard := { id := "x" } }
  expectations := {}

theorem read?_packed : Json.read? (Utf8.encode packed.claims.toJson.chars) = none :=
  Claims.read?_toJson_eq_none (by decide) (by decide) rfl

/-- It has no floats and is not deep, but it is signed and then malformed to everyone who has the
key, itself included. -/
theorem packed_malformed :
    packed.claims.body.toJson.isFloatFree = true ∧ packed.claims.body.toJson.depth ≤ 126
      ∧ ∃ signed, packed.create = .ok signed ∧ ∀ (verifier : Token) (now : Instant),
        verifier.key = packed.key →
        verifier.parse now signed = .error ⟨.malformed "JSON error", none⟩ := by
  obtain ⟨signature, hsigned⟩ : ∃ signature, IsSignature packed.key packed.algorithm
      packed.message signature := exists_isSignature (by decide) packed.key packed.message
  refine ⟨by decide, by decide, _, create_eq_ok_iff.2 ⟨signature, hsigned, rfl⟩, ?_⟩
  intro verifier now hkey
  exact parse_message_of_read?_eq_none read?_packed hsigned hkey now

end Token

/-! ## Registered claims -/

/-- Whatever the payload is read as, behind it stand the registered claims that were written. -/
theorem SpellsObject.eq_members {c : Claims} {members : List (String × Json)}
    (h : SpellsObject c.toJson.segment members) :
    ∃ b, members = ("body", b) :: c.standard.members := by
  obtain ⟨bytes, hbytes, hread⟩ := h
  rw [decodeSegment_segment] at hbytes
  cases hbytes
  obtain ⟨b, hb⟩ := Claims.exists_members_of_read? hread
  exact ⟨b, Json.obj.inj hb⟩

theorem WritesValue.eq_members {c : Claims} {written : List (String × Json)}
    (h : WritesValue c.toJson.segment (.obj written)) :
    ∃ b, written = ("body", b) :: c.standard.members := by
  obtain ⟨bytes, hbytes, hspelled⟩ := h
  rw [decodeSegment_segment] at hbytes
  cases hbytes
  obtain ⟨ms, hms, -⟩ := Claims.exists_members_of_spelled? hspelled
  exact ⟨.obj ms, Json.obj.inj hms⟩

theorem SpellsObject.standard_of_ofJson? {c c' : Claims} {members : List (String × Json)}
    (h : SpellsObject c.toJson.segment members) (hclaims : Claims.ofJson? (.obj members) = .ok c') :
    c'.standard = c.standard := by
  obtain ⟨b, rfl⟩ := h.eq_members
  exact (Claims.ofJson?_obj_eq_ok_iff.1 hclaims).2.unique (c.standard.spelledBy_members b)

/-- Whatever a signed token is read as without verifying, its registered claims are read right. -/
theorem Token.standard_of_unverified? {t : Token} {signed : String} {p : ParsedToken}
    (hcreate : t.create = .ok signed) (h : ParsedToken.unverified? signed = some p) :
    p.claims.standard = t.claims.standard := by
  obtain ⟨signature, hsigned, rfl⟩ := create_eq_ok_iff.1 hcreate
  obtain ⟨c, hc, -, -, ⟨bytes, v, hbytes, hv, hclaims⟩, -⟩ :=
    ParsedToken.unverified?_eq_some_iff.1 h
  rw [split?_message hsigned.dot_not_mem] at hc
  cases hc
  obtain ⟨members, rfl⟩ := Claims.exists_obj_of_ofJson? hclaims
  exact SpellsObject.standard_of_ofJson? ⟨bytes, hbytes, hv⟩ hclaims

/-- Whoever recognizes a signed token, be it with another key, has looked at what it says. -/
theorem Token.exists_writesValue_of_recognize {t verifier : Token} {signed : String}
    {p : ParsedToken} (hcreate : t.create = .ok signed) (h : verifier.recognize signed = .ok p) :
    ∃ written members, WritesValue t.claims.toJson.segment (.obj written)
      ∧ verifier.expectations.PassedBy written ∧ SpellsObject t.claims.toJson.segment members
      ∧ Claims.ofJson? (.obj members) = .ok p.claims := by
  obtain ⟨signature, hsigned, rfl⟩ := create_eq_ok_iff.1 hcreate
  obtain ⟨c, hc, -, haccept, -⟩ := recognize_eq_ok_iff.1 h
  rw [split?_message hsigned.dot_not_mem] at hc
  cases hc
  exact acceptPayload_and_ofJson?_iff.1 haccept

/-- Whoever recognizes a signed token expects the parties that it names, if any. -/
theorem Token.parties_of_recognize {t verifier : Token} {signed : String} {p : ParsedToken}
    (hcreate : t.create = .ok signed) (h : verifier.recognize signed = .ok p) :
    (∀ a, verifier.expectations.audience = some a →
        t.claims.standard.audience = "" ∨ t.claims.standard.audience = a)
      ∧ ∀ i, verifier.expectations.issuer = some i →
        t.claims.standard.issuer = "" ∨ t.claims.standard.issuer = i := by
  obtain ⟨written, _, hwritten, hpassed, -⟩ := exists_writesValue_of_recognize hcreate h
  obtain ⟨b, rfl⟩ := hwritten.eq_members
  exact passedBy_members_iff.1 hpassed

theorem Token.standard_of_verify {t verifier : Token} {now : Instant} {signed : String}
    {claims : Claims} (hcreate : t.create = .ok signed)
    (h : verifier.verify now signed = .ok claims) : claims.standard = t.claims.standard := by
  rw [verify_eq_check, check_eq_recognize] at h
  obtain ⟨p, hp, rfl⟩ := Outcome.map_eq_ok.1 h
  obtain ⟨q, hq, hp⟩ := Outcome.bind_eq_ok.1 hp
  obtain ⟨_, -, hp⟩ := Outcome.bind_eq_ok.1 hp
  cases hp
  obtain ⟨_, members, -, -, hmembers, hclaims⟩ := exists_writesValue_of_recognize hcreate hq
  exact hmembers.standard_of_ofJson? hclaims

end SignedToken
