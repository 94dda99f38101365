import SignedToken.Proofs.Token.Errors

/-!
# Payloads that are not claims

A payload may be JSON without being claims. A verifier that expects no parties says so if the reader
of names gets past the payload; otherwise it takes the whole text for malformed.
-/

namespace SignedToken.Token

section
variable {t : Token} {text : String} {message header payload signature : List Char} {h : Header}
  {bytes : List UInt8} {w v : Json} {fault : ClaimsFault}
  (hc : Compact.split? text = some ⟨message, header, payload, signature⟩)
  (hbytes : decodeSegment payload = .ok bytes)
include hc hbytes

theorem unverified?_of_ofJson?_eq_error (hread : Json.read? bytes = some v)
    (hfault : Claims.ofJson? v = .error fault) :
    ParsedToken.unverified? text = none := by
  refine Option.eq_none_iff_forall_ne_some.2 fun p hp => ?_
  obtain ⟨c', hc', -, -, ⟨bytes', v', hbytes', hread', hclaims⟩, -⟩ :=
    ParsedToken.unverified?_eq_some_iff.1 hp
  rw [hc] at hc'
  cases hc'
  obtain rfl : bytes = bytes' := Except.ok.inj (hbytes.symm.trans hbytes')
  obtain rfl : v = v' := Option.some.inj (hread.symm.trans hread')
  rw [hfault] at hclaims
  cases hclaims

variable (hspelled : Json.spelled? bytes = some w)
  (hheader : authenticate t.key ⟨message, header, payload, signature⟩ = .ok h)
include hspelled hheader

theorem recognize_of_getsPast (hread : Json.read? bytes = some v)
    (haudience : t.expectations.audience = none) (hissuer : t.expectations.issuer = none)
    (hpast : Naming.GetsPast w) (hfault : Claims.ofJson? v = .error fault) :
    t.recognize text = .error (.claimsInvalid fault.message) := by
  obtain ⟨n, hn⟩ := Naming.exists_ofPayload?_iff.2 hpast
  have haccept : acceptPayload t.expectations payload = .ok v := by
    refine acceptPayload_eq_ok_iff.2
      ⟨⟨bytes, hbytes, hread⟩, w, n, ⟨bytes, hbytes, hspelled⟩, hn, ?_, ?_⟩
    · rw [hissuer]
      rfl
    · rw [haudience]
      rfl
  exact recognize_of_ofJson?_eq_error hc hheader haccept hfault

theorem recognize_of_not_getsPast (hstop : ¬Naming.GetsPast w) :
    t.recognize text = .error (.malformed "JSON error") := by
  have hnone : Naming.ofPayload? w = none :=
    Option.eq_none_iff_forall_ne_some.2 fun n hn => hstop (Naming.exists_ofPayload?_iff.1 ⟨n, hn⟩)
  exact recognize_of_acceptPayload_eq_error hc hheader
    (acceptPayload_of_ofPayload?_eq_none hbytes hspelled hnone)

end

/-- Of a text whose header and signature are good, a payload that is JSON but not claims is refused
for its claims, with what is wrong with them, if the reader of names gets past what is written
there; else the text is refused as malformed. Either way nothing is shown of it. -/
theorem parse_misshapen {t : Token} {text : String} {header payload signature : List Char}
    {h : Header} {bytes : List UInt8} {w v : Json} {fault : ClaimsFault}
    (htext : text.toList = header ++ '.' :: payload ++ '.' :: signature)
    (hheader : h.SpelledBy header)
    (hsigned : IsSignature t.key h.algorithm (header ++ '.' :: payload) signature)
    (hbytes : decodeSegment payload = .ok bytes) (hspelled : Json.spelled? bytes = some w)
    (hread : Json.read? bytes = some v) (hfault : Claims.ofJson? v = .error fault)
    (haudience : t.expectations.audience = none) (hissuer : t.expectations.issuer = none)
    (now : Instant) :
    (Naming.GetsPast w →
        t.parse now text = .error ⟨.claimsInvalid fault.message, none⟩)
      ∧ (¬Naming.GetsPast w → t.parse now text = .error ⟨.malformed "JSON error", none⟩) := by
  have hc : Compact.split? text = some ⟨header ++ '.' :: payload, header, payload, signature⟩ :=
    Compact.split?_eq_some_iff.2
      ⟨htext, rfl, dot_not_mem_of_decodeSegment hbytes, hsigned.dot_not_mem⟩
  have hauthentic : authenticate t.key ⟨header ++ '.' :: payload, header, payload, signature⟩
      = .ok h := authenticate_eq_ok_iff.2 ⟨hheader, hsigned⟩
  rw [← unverified?_of_ofJson?_eq_error hc hbytes hread hfault]
  constructor
  · intro hpast
    have hrecognize :=
      recognize_of_getsPast hc hbytes hspelled hauthentic hread haudience hissuer hpast hfault
    exact parse_of_recognize_eq_error hrecognize now
  · intro hstop
    have hrecognize := recognize_of_not_getsPast hc hbytes hspelled hauthentic hstop
    exact parse_of_recognize_eq_error hrecognize now

/-- What the sample would sign if its payload were any value. -/
def messageOfPayload (v : Json) : List Char :=
  Compact.messageOf (Header.ofAlgorithm sample.algorithm).toJson.segment v.segment

theorem parse_misshapen_text :
    ∃ signature, IsSignature sample.key .hs384
        (messageOfPayload (.obj [("exp", .str "soon")])) signature
      ∧ sample.parse .latest
          (String.ofList (messageOfPayload (.obj [("exp", .str "soon")]) ++ '.' :: signature))
        = .error ⟨.claimsInvalid "invalid type: string \"soon\", expected i64", none⟩ := by
  obtain ⟨signature, hsigned⟩ : ∃ signature, IsSignature sample.key .hs384
      (messageOfPayload (.obj [("exp", .str "soon")])) signature :=
    exists_isSignature (by decide) _ _
  have hfault : Claims.ofJson? (.obj [("exp", .str "soon")])
      = .error (.mismatch (.type (.str "soon") .signed64)) := rfl
  have hspelled := Json.spelled?_chars (v := .obj [("exp", .str "soon")]) (by decide) (by decide)
  refine ⟨signature, hsigned, ?_⟩
  have hread := Json.read?_of_isUnpacked hspelled (by decide)
  refine (parse_misshapen String.toList_ofList sample.spelledBy_header hsigned
    (decodeSegment_segment _) hspelled hread hfault rfl rfl .latest).1 ?_
  exact ⟨by decide, by simp [Naming.passesTime], by simp, by simp⟩

/-- A payload that stops the reader of names is malformed, whatever is wrong with it as claims. -/
theorem exists_parse_eq_malformed {v : Json} {fault : ClaimsFault}
    (hfree : v.isFloatFree = true) (hdepth : v.depth ≤ Json.maxDepth)
    (hunpacked : v.isUnpacked = true) (hfault : Claims.ofJson? v = .error fault)
    (hstop : ¬Naming.GetsPast v) :
    ∃ signature, IsSignature sample.key .hs384 (messageOfPayload v) signature
      ∧ ∀ now : Instant,
        sample.parse now (String.ofList (messageOfPayload v ++ '.' :: signature))
          = .error ⟨.malformed "JSON error", none⟩ := by
  obtain ⟨signature, hsigned⟩ : ∃ signature,
      IsSignature sample.key .hs384 (messageOfPayload v) signature :=
    exists_isSignature (by decide) _ _
  have hspelled := Json.spelled?_chars hfree hdepth
  have hread := Json.read?_of_isUnpacked hspelled hunpacked
  have hc : Compact.split? (String.ofList (messageOfPayload v ++ '.' :: signature))
      = some ⟨_, _, v.segment, signature⟩ :=
    Compact.split?_ofList (dot_not_mem_segment _) hsigned.dot_not_mem
  have hrecognize := recognize_of_not_getsPast (t := sample) hc (decodeSegment_segment v) hspelled
    (authenticate_eq_ok_iff.2 ⟨sample.spelledBy_header, hsigned⟩) hstop
  refine ⟨signature, hsigned, fun now => ?_⟩
  rw [parse_of_recognize_eq_error hrecognize,
    unverified?_of_ofJson?_eq_error hc (decodeSegment_segment v) hread hfault]

/-- Neither a payload that is no object nor one with a list as its subject is refused for its
claims, though neither spells any. -/
theorem misshapen_malformed :
    (Claims.ofJson? .null = .error .notAnObject
      ∧ ∃ signature, IsSignature sample.key .hs384 (messageOfPayload .null) signature
        ∧ ∀ now : Instant,
          sample.parse now (String.ofList (messageOfPayload .null ++ '.' :: signature))
            = .error ⟨.malformed "JSON error", none⟩)
    ∧ (∃ m, Claims.ofJson? (.obj [("sub", .arr [])]) = .error (.mismatch m))
      ∧ ∃ signature,
        IsSignature sample.key .hs384 (messageOfPayload (.obj [("sub", .arr [])])) signature
          ∧ ∀ now : Instant,
            sample.parse now
                (String.ofList (messageOfPayload (.obj [("sub", .arr [])]) ++ '.' :: signature))
              = .error ⟨.malformed "JSON error", none⟩ := by
  have hnull : Claims.ofJson? .null = .error .notAnObject := rfl
  have hlist : Claims.ofJson? (.obj [("sub", .arr [])])
      = .error (.mismatch (.type (.arr []) .text)) := rfl
  have hstop : ¬Naming.GetsPast (.obj [("sub", .arr [])]) := fun hpast =>
    absurd (hpast.subject (.arr []) (by simp)) (by decide)
  exact ⟨⟨hnull, exists_parse_eq_malformed rfl (by decide) rfl hnull not_false⟩,
    ⟨_, hlist⟩, exists_parse_eq_malformed rfl (by decide) (by decide) hlist hstop⟩

end SignedToken.Token
