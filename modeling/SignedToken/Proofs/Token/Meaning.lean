import SignedToken.Proofs.Token.Agreement
import SignedToken.Proofs.Token.Unsigned

/-!
# What a payload means

Of a payload only the object counts that it stands for: how its names are ordered, spelled and
repeated does not show in what a verifier says, as long as no name that the reader of parties knows
is repeated. That the object is packed does show, as that reader does not look inside.
-/

namespace SignedToken

/-! ## Parties of an object -/

namespace Naming

open Json (canonical canonicalItems canonicalMembers last? Object)

@[simp] theorem passesTime_canonical (v : Json) : passesTime v.canonical = passesTime v := by
  cases v with
  | arr items => cases items <;> rfl
  | obj members =>
    cases members with
    | nil => rfl
    | cons m rest =>
      -- an object that is not empty is not made empty
      have hne : canonicalMembers (m :: rest) ≠ [] := by
        simp [Json.canonicalMembers_eq_nil_iff]
      obtain ⟨m', rest', hcons⟩ := List.exists_cons_of_ne_nil hne
      rw [canonical, hcons]
      rfl
  | _ => rfl

@[simp] theorem passesSubject_canonical (v : Json) :
    passesSubject v.canonical = passesSubject v := by
  cases v <;> rfl

theorem texts?_canonicalItems (items : List Json) : texts? (canonicalItems items) = texts? items := by
  induction items with
  | nil => rfl
  | cons v rest ih =>
    cases v with
    | str s => rw [canonicalItems, canonical, texts?, texts?, ih]
    | _ => rfl

@[simp] theorem parties?_canonical (v : Json) : parties? v.canonical = parties? v := by
  cases v with
  | arr items => exact texts?_canonicalItems items
  | _ => rfl

theorem agrees_canonical (expected : Option String) (value : Option Json) :
    agrees expected (value.map canonical) = agrees expected value := by
  cases value with
  | none => rfl
  | some v => simp only [agrees, Option.map_some, Option.bind_some, parties?_canonical]

variable {members : List (String × Json)}

/-- The reader of parties finds in an object what it finds in the members it is made of. -/
theorem ofPayload?_ofMembers (honce : ∀ name ∈ knownNames, members.countP (·.1 == name) ≤ 1) :
    ofPayload? (Object.ofMembers members).toJson
      = (ofPayload? (.obj members)).map fun n =>
        ⟨n.issuer.map canonical, n.audience.map canonical⟩ := by
  have hlast (name : String) : last? name (Object.ofMembers members).members
      = (last? name members).map canonical := Json.last?_canonicalMembers name members
  have honce' : ∀ name ∈ knownNames, (Object.ofMembers members).members.countP (·.1 == name) ≤ 1 :=
    fun name _ => Json.countP_canonicalMembers_le_one members name
  rw [Object.toJson, ofPayload?_of_once honce', ofPayload?_of_once honce]
  simp only [hlast, Option.all_map, passesTime_canonical, passesSubject_canonical]
  split <;> rfl

end Naming

namespace Token

/-! ## Judging an object -/

/-- Whether the parties of an object are as expected. -/
def judgeParties (e : Expectations) (o : Json.Object) : Except TokenError Unit :=
  match Naming.ofPayload? o.toJson with
  | none => .error (.ofJwt .json)
  | some n =>
    if Naming.agrees e.issuer n.issuer = false then .error .issuer
    else if Naming.agrees e.audience n.audience = false then .error .audience
    else .ok ()

/-- What is said of a payload that stands for an object. -/
def judge (e : Expectations) (now : Instant) (o : Json.Object) : Except TokenError Claims := do
  judgeParties e o
  let claims ← (Claims.ofObject? o).mapError fun m => TokenError.claimsInvalid m.message
  checkClaims e now claims.standard
  return claims

section
variable {e : Expectations} {payload : List Char} {members : List (String × Json)}

theorem acceptPayload_eq_judgeParties (h : SpellsObject payload members)
    (hunpacked : IsUnpacked payload)
    (honce : ∀ name ∈ Naming.knownNames, members.countP (·.1 == name) ≤ 1) :
    (acceptPayload e payload).mapError TokenError.ofJwt
      = (judgeParties e (.ofMembers members)).map fun _ => .obj members := by
  obtain ⟨bytes', hbytes', hspelled⟩ := h.writesValue hunpacked
  obtain ⟨bytes, hbytes, hread⟩ := h
  obtain rfl : bytes = bytes' := Except.ok.inj (hbytes.symm.trans hbytes')
  rw [judgeParties, Naming.ofPayload?_ofMembers honce, acceptPayload, hbytes]
  dsimp only [Except.mapError, bind, Except.bind]
  rw [hread, hspelled, Option.bind_some]
  dsimp only [Option.elim_some, pure, Except.pure]
  cases Naming.ofPayload? (.obj members) with
  | none => rfl
  | some n =>
    simp only [Option.map_some, Option.elim_some, Except.pure, Naming.agrees_canonical]
    cases Naming.agrees e.issuer n.issuer with
    | false => rfl
    | true =>
      cases Naming.agrees e.audience n.audience with
      | false => rfl
      | true => rfl

theorem ofJson?_eq_ofObject? :
    (Claims.ofJson? (.obj members)).mapError (fun fault => TokenError.claimsInvalid fault.message)
      = (Claims.ofObject? (.ofMembers members)).mapError
        fun m => TokenError.claimsInvalid m.message := by
  rw [Claims.ofJson?]
  cases Claims.ofObject? (.ofMembers members) with
  | ok c => rfl
  | error m => rfl

end

/-! ## Texts with one meaning -/

/-- The payload of a text is an object with these members, as they are read one by one. -/
def HasPayload (text : String) (members : List (String × Json)) : Prop :=
  ∃ header payload signature : List Char,
    text.toList = header ++ '.' :: payload ++ '.' :: signature ∧ '.' ∉ payload ∧ '.' ∉ signature
      ∧ SpellsObject payload members

theorem exists_isSignedWith {h : Header} {header payload : List Char}
    {members : List (String × Json)} (halgorithm : h.algorithm ∈ [Algorithm.hs256, .hs384, .hs512])
    (hheader : h.SpelledBy header) (hpayload : SpellsObject payload members) (key : List UInt8) :
    ∃ (signed : String) (signature : List Char), IsSignedWith key signed ∧ HasPayload signed members
      ∧ Compact.split? signed = some ⟨header ++ '.' :: payload, header, payload, signature⟩ := by
  obtain ⟨signature, hsigned⟩ := exists_isSignature halgorithm key (header ++ '.' :: payload)
  obtain ⟨bytes, hbytes, hread⟩ := hpayload
  have hdot := dot_not_mem_of_decodeSegment hbytes
  have hdot' := hsigned.dot_not_mem
  exact ⟨String.ofList (header ++ '.' :: payload ++ '.' :: signature), signature,
    ⟨header, payload, signature, h, String.toList_ofList, hdot, hdot', hheader, hsigned⟩,
    ⟨header, payload, signature, String.toList_ofList, hdot, hdot', bytes, hbytes, hread⟩,
    Compact.split?_ofList hdot hdot'⟩

section
variable {t : Token} {text : String} {members : List (String × Json)}

/-- Of a text signed with the verifier's key nothing counts but the object that its payload stands
for. -/
theorem verify_eq_judge (hsigned : IsSignedWith t.key text) (hpayload : HasPayload text members)
    (hunpacked : HasUnpackedPayload text)
    (honce : ∀ name ∈ Naming.knownNames, members.countP (·.1 == name) ≤ 1) (now : Instant) :
    t.verify now text = judge t.expectations now (.ofMembers members) := by
  obtain ⟨c, hc, h, hauthenticate⟩ := isSignedWith_iff_authenticate.1 hsigned
  obtain ⟨header, payload, signature, htext, hdot, hdot', hspells⟩ := hpayload
  obtain rfl := Compact.eq_of_split? hc htext hdot hdot'
  rw [verify_eq_check, check_eq_recognize, recognize_of_authenticate hc hauthenticate,
    acceptPayload_eq_judgeParties hspells (hunpacked _ hc) honce, judge]
  cases judgeParties t.expectations (.ofMembers members) with
  | error e => rfl
  | ok _ =>
    dsimp only [Except.map, bind, Except.bind, pure, Except.pure]
    rw [ofJson?_eq_ofObject?]
    cases Claims.ofObject? (.ofMembers members) with
    | error m => rfl
    | ok claims =>
      dsimp only [Except.mapError]
      cases checkClaims t.expectations now claims.standard with
      | error e => rfl
      | ok _ => rfl

theorem ofJson?_of_judge {e : Expectations} {now : Instant} {c : Claims}
    (h : judge e now (.ofMembers members) = .ok c) : Claims.ofJson? (.obj members) = .ok c := by
  unfold judge at h
  obtain ⟨_, -, h⟩ := Outcome.bind_eq_ok.1 h
  obtain ⟨c', hc', h⟩ := Outcome.bind_eq_ok.1 h
  obtain ⟨_, -, h⟩ := Outcome.bind_eq_ok.1 h
  cases h
  rw [← Outcome.mapError_eq_ok, ofJson?_eq_ofObject?]
  exact hc'

end

/-- Of two texts that are signed with the verifier's key and whose payloads stand for one object the
verifier says the same, if neither has anything packed in it nor repeats a name that the reader of
parties knows. The parties that this reader finds are those of the claims that are returned. -/
theorem verify_of_same_object {t : Token} {text text' : String}
    {members members' : List (String × Json)}
    (hsigned : IsSignedWith t.key text) (hsigned' : IsSignedWith t.key text')
    (hpayload : HasPayload text members) (hpayload' : HasPayload text' members')
    (hunpacked : HasUnpackedPayload text) (hunpacked' : HasUnpackedPayload text')
    (hsame : Json.Object.ofMembers members = Json.Object.ofMembers members')
    (honce : ∀ name ∈ Naming.knownNames, members.countP (·.1 == name) ≤ 1)
    (honce' : ∀ name ∈ Naming.knownNames, members'.countP (·.1 == name) ≤ 1) (now : Instant) :
    t.verify now text = t.verify now text'
      ∧ ∀ c, t.verify now text = .ok c → ∃ n, Naming.ofPayload? (.obj members) = some n
        ∧ (n.issuer = some (.str c.standard.issuer) ∨ n.issuer = none ∧ c.standard.issuer = "")
        ∧ (n.audience = some (.str c.standard.audience)
          ∨ n.audience = none ∧ c.standard.audience = "") := by
  have hjudge := verify_eq_judge hsigned hpayload hunpacked honce now
  have hjudge' := verify_eq_judge hsigned' hpayload' hunpacked' honce' now
  refine ⟨by rw [hjudge, hjudge', hsame], fun c hc => ?_⟩
  rw [hjudge] at hc
  have hspelled := (Claims.ofJson?_obj_eq_ok_iff.1 (ofJson?_of_judge hc)).2
  exact ⟨_, (Naming.ofPayload?_eq_some_iff hspelled).2 ⟨honce, rfl⟩, hspelled.issuer,
    hspelled.audience⟩

/-- The loose payload and the print of the object that it stands for, under different headers. -/
theorem verify_of_same_object_loose :
    ∃ (signed signed' : String) (members : List (String × Json)),
      IsSignedWith sampleVerifier.key signed ∧ IsSignedWith sampleVerifier.key signed'
        ∧ HasPayload signed looseMembers ∧ HasPayload signed' members
        ∧ HasUnpackedPayload signed ∧ HasUnpackedPayload signed'
        ∧ Json.Object.ofMembers looseMembers = Json.Object.ofMembers members
        ∧ ∃ c, sampleVerifier.verify .latest signed = .ok c ∧ c.standard.issuer = "app"
          ∧ sampleVerifier.verify .latest signed' = .ok c := by
  obtain ⟨signed, _, hsigned, hpayload, hsplit⟩ := exists_isSignedWith (by simp)
    spelledBy_looseHeader spellsObject_loosePayload sampleVerifier.key
  have hunpacked := HasUnpackedPayload.of_split? hsplit
    (writesValue_loosePayload.isUnpacked (by decide))
  have hprint : WritesValue (Json.Object.ofMembers looseMembers).toJson.segment
      (Json.Object.ofMembers looseMembers).toJson :=
    ⟨_, decodeSegment_segment _, Json.spelled?_chars (by cbv) (by cbv)⟩
  have hunpackedPrint : (Json.Object.ofMembers looseMembers).toJson.isUnpacked = true := by cbv
  obtain ⟨signed', _, hsigned', hpayload', hsplit'⟩ := exists_isSignedWith
    (by simp [Header.ofAlgorithm]) (spelledBy_segment (.ofAlgorithm .hs256))
    (hprint.spellsObject hunpackedPrint) sampleVerifier.key
  have hunpacked' := HasUnpackedPayload.of_split? hsplit' (hprint.isUnpacked hunpackedPrint)
  have honce : ∀ name ∈ Naming.knownNames, looseMembers.countP (·.1 == name) ≤ 1 := by
    simp [Naming.knownNames, looseMembers]
  have honce' : ∀ name ∈ Naming.knownNames,
      (Json.Object.ofMembers looseMembers).members.countP (·.1 == name) ≤ 1 :=
    fun name _ => Json.countP_canonicalMembers_le_one looseMembers name
  have hsame : Json.Object.ofMembers looseMembers
      = .ofMembers (Json.Object.ofMembers looseMembers).members := by simp
  have hjudge : judge sampleVerifier.expectations .latest (.ofMembers looseMembers)
      = .ok { standard := { id := "x", issuer := "app" } } := by cbv
  have hverify := (verify_eq_judge hsigned hpayload hunpacked honce .latest).trans hjudge
  obtain ⟨heq, -⟩ := verify_of_same_object hsigned hsigned' hpayload hpayload' hunpacked hunpacked'
    hsame honce honce' .latest
  exact ⟨signed, signed', _, hsigned, hsigned', hpayload, hpayload', hunpacked, hunpacked', hsame,
    _, hverify, rfl, heq.symm.trans hverify⟩

/-! ## Packed payloads -/

/-- A value packed into an object. -/
def packedAround (v : Json) : Json := .obj [(Json.packedName, .str (String.ofList v.chars))]

theorem writesValue_packedAround (v : Json) :
    WritesValue (packedAround v).segment (packedAround v) := by
  have hdepth : (packedAround v).depth ≤ Json.maxDepth := by
    change 1 ≤ 127
    omega
  exact ⟨_, decodeSegment_segment _, Json.spelled?_chars rfl hdepth⟩

/-- A packed object is read as if it were not. -/
theorem spellsObject_packedAround {members : List (String × Json)}
    (hfree : (Json.obj members).isFloatFree = true)
    (hdepth : (Json.obj members).depth ≤ Json.maxDepth)
    (hunpacked : (Json.obj members).isUnpacked = true) :
    SpellsObject (packedAround (.obj members)).segment members := by
  obtain ⟨bytes, hbytes, hspelled⟩ := writesValue_packedAround (.obj members)
  refine ⟨bytes, hbytes, ?_⟩
  rw [Json.read?_eq, hspelled, Option.bind_some]
  change Json.read? (Utf8.bytes (String.ofList (Json.obj members).chars)) = _
  rw [Utf8.bytes, String.toList_ofList]
  exact Json.read?_chars hfree hdepth hunpacked

/-- The reader of parties finds only the name that marks a packed object. -/
theorem acceptPayload_packedAround {v : Json} {members : List (String × Json)}
    (h : SpellsObject (packedAround v).segment members) (e : Expectations) :
    acceptPayload e (packedAround v).segment = .ok (.obj members) := by
  have hparties : Naming.ofPayload? (packedAround v) = some ⟨none, none⟩ := rfl
  refine acceptPayload_eq_ok_iff.2 ⟨h, _, _, writesValue_packedAround v, hparties, ?_, ?_⟩
  · cases e.issuer <;> rfl
  · cases e.audience <;> rfl

/-- A packed payload is accepted for what else its claims say, whichever parties they name. -/
theorem verify_of_packedAround {t : Token} {text : String} {c : Compact} {v : Json}
    {members : List (String × Json)} {claims : Claims} {now : Instant}
    (hsigned : IsSignedWith t.key text) (hc : Compact.split? text = some c)
    (hpayload : c.payload = (packedAround v).segment) (hspells : SpellsObject c.payload members)
    (hclaims : Claims.ofJson? (.obj members) = .ok claims)
    (hpass : claims.standard.PassAt t.expectations now) : t.verify now text = .ok claims := by
  obtain ⟨c', hc', h, hheader⟩ := isSignedWith_iff_authenticate.1 hsigned
  obtain rfl := Option.some.inj (hc'.symm.trans hc)
  rw [hpayload] at hspells
  have haccept : acceptPayload t.expectations c'.payload = .ok (.obj members) := by
    rw [hpayload]
    exact acceptPayload_packedAround hspells t.expectations
  have hparse := parse_eq_ok_iff_recognize.2
    ⟨recognize_of_ofJson?_eq_ok hc hheader haccept hclaims, hpass⟩
  rw [verify_eq_check, parse_eq_ok_iff_check.1 hparse]
  rfl

/-- An audience and an id. -/
def evilMembers : List (String × Json) := [("aud", .str "evil"), ("jti", .str "x")]

/-- Whoever expects another audience refuses a text that names it, but not one that does so packed:
what is accepted has the audience that is refused. -/
theorem packed_audience_accepted :
    ∃ signed signed' : String,
      IsSignedWith sampleVerifier.key signed ∧ IsSignedWith sampleVerifier.key signed'
        ∧ HasPayload signed evilMembers ∧ HasPayload signed' evilMembers
        ∧ (∀ name ∈ Naming.knownNames, evilMembers.countP (·.1 == name) ≤ 1)
        ∧ sampleVerifier.verify .latest signed = .error .audience
        ∧ sampleVerifier.verify .latest signed'
          = .ok { standard := { audience := "evil", id := "x" } } := by
  have hheader := spelledBy_segment (.ofAlgorithm .hs256)
  have hwrites : WritesValue (Json.obj evilMembers).segment (.obj evilMembers) :=
    ⟨_, decodeSegment_segment _, Json.spelled?_chars (by decide) (by decide)⟩
  have hspells' : SpellsObject (packedAround (.obj evilMembers)).segment evilMembers :=
    spellsObject_packedAround (by decide) (by decide) (by decide)
  have honce : ∀ name ∈ Naming.knownNames, evilMembers.countP (·.1 == name) ≤ 1 := by decide
  obtain ⟨signed, _, hsigned, hpayload, hsplit⟩ := exists_isSignedWith
    (by simp [Header.ofAlgorithm]) hheader (hwrites.spellsObject (by decide)) sampleVerifier.key
  obtain ⟨signed', _, hsigned', hpayload', hsplit'⟩ := exists_isSignedWith
    (by simp [Header.ofAlgorithm]) hheader hspells' sampleVerifier.key
  refine ⟨signed, signed', hsigned, hsigned', hpayload, hpayload', honce, ?_, ?_⟩
  · have hunpacked := HasUnpackedPayload.of_split? hsplit (hwrites.isUnpacked (by decide))
    rw [verify_eq_judge hsigned hpayload hunpacked honce .latest]
    cbv
  · have hclaims : Claims.ofJson? (.obj evilMembers)
        = .ok { standard := { audience := "evil", id := "x" } } := by cbv
    have hpass : StandardClaims.PassAt sampleVerifier.expectations .latest
        { audience := "evil", id := "x" } := ⟨by simp, by simp, by simp, by simp⟩
    exact verify_of_packedAround hsigned' hsplit' rfl hspells' hclaims hpass

end Token

end SignedToken
