import SignedToken.Proofs.Token.Errors

/-!
# What a late refusal shows

Times and id are looked at last, when the header is verified and the claims are read. Whoever
refuses a text for these shows what was verified of it if its header is an object, and nothing if
its header is an array.
-/

namespace SignedToken

/-! ## Headers that are objects -/

/-- A segment that is an object, whatever its members. -/
def IsObject (segment : List Char) : Prop :=
  ∃ bytes ms, decodeSegment segment = .ok bytes ∧ Json.outline? bytes = some (.members ms)

theorem isObject_header (t : Token) : IsObject (Header.ofAlgorithm t.algorithm).toJson.segment := by
  rw [Header.toJson_eq_textMembers]
  obtain ⟨ms, hms, -⟩ := Json.outline?_textMembers (Header.ofAlgorithm t.algorithm).fields
  exact ⟨_, ms, decodeSegment_segment _, hms⟩

namespace Header.SpelledBy

variable {segment : List Char} {h : Header}

theorem exists_read? (hs : h.SpelledBy segment) (hobject : IsObject segment) :
    ∃ bytes, decodeSegment segment = .ok bytes ∧ Header.read? bytes = some h := by
  obtain ⟨bytes, hbytes, hread⟩ := hs
  obtain ⟨bytes', ms, hbytes', ho⟩ := hobject
  obtain rfl : bytes = bytes' := Except.ok.inj (hbytes.symm.trans hbytes')
  exact ⟨bytes, hbytes, read?_of_members ho hread⟩

theorem read?_eq_none (hs : h.SpelledBy segment) (harray : ¬IsObject segment) {bytes : List UInt8}
    (hbytes : decodeSegment segment = .ok bytes) : Header.read? bytes = none := by
  obtain ⟨bytes', hbytes', hread⟩ := hs
  obtain rfl : bytes = bytes' := Except.ok.inj (hbytes.symm.trans hbytes')
  cases ho : Json.outline? bytes with
  | none =>
    rw [Header.read?, ho]
    rfl
  | some o =>
    cases o with
    | members ms => exact absurd ⟨bytes, ms, hbytes, ho⟩ harray
    | items items => exact read?_of_items ho hread

end Header.SpelledBy

/-! ## Handles -/

namespace Token

variable {t : Token} {text : String} {p : ParsedToken} {c : Compact}

/-- Without the key the same is read as with it. -/
theorem unverified?_of_recognize (h : t.recognize text = .ok p)
    (hc : Compact.split? text = some c) (hobject : IsObject c.header) :
    ParsedToken.unverified? text = some { p with valid := false } := by
  obtain ⟨c', hc', ⟨hheader, -⟩, ⟨v, haccept, hclaims⟩, hsignature, -⟩ := recognize_eq_ok_iff.1 h
  obtain rfl : c = c' := Option.some.inj (hc.symm.trans hc')
  obtain ⟨⟨bytes, hbytes, hread⟩, -⟩ := acceptPayload_eq_ok_iff.1 haccept
  exact ParsedToken.unverified?_eq_some_iff.2 ⟨c, hc, hheader.dot_not_mem,
    hheader.exists_read? hobject, ⟨bytes, v, hbytes, hread, hclaims⟩, hsignature, rfl⟩

theorem unverified?_eq_none_of_recognize (h : t.recognize text = .ok p)
    (hc : Compact.split? text = some c) (harray : ¬IsObject c.header) :
    ParsedToken.unverified? text = none := by
  obtain ⟨c', hc', ⟨hheader, -⟩, -⟩ := recognize_eq_ok_iff.1 h
  obtain rfl : c = c' := Option.some.inj (hc.symm.trans hc')
  refine Option.eq_none_iff_forall_ne_some.2 fun q hq => ?_
  obtain ⟨c', hc', -, ⟨bytes, hbytes, hread⟩, -⟩ := ParsedToken.unverified?_eq_some_iff.1 hq
  obtain rfl : c = c' := Option.some.inj (hc.symm.trans hc')
  rw [hheader.read?_eq_none harray hbytes] at hread
  cases hread

/-- Times and id are all that is refused of a text that was recognized. -/
theorem recognize_of_parse {now : Instant} {r : Rejection} (h : t.parse now text = .error r)
    (hlate : r.error ∈ [TokenError.expired, .notValidYet, .issuedAt, .id]) :
    ∃ p, t.recognize text = .ok p
      ∧ checkClaims t.expectations now p.claims.standard = .error r.error := by
  refine (parse_eq_error_iff.1 h).1.resolve_left fun hrecognize => ?_
  have htimeless := isTimeless_of_recognize hrecognize
  generalize r.error = e at hlate htimeless
  cases htimeless <;> simp at hlate

/-- Of a text that is refused for its times or its id, header and signature were verified and the
claims were read and judged. Just these are shown, as not valid, if the header is an object; of a
header that is an array nothing is shown. -/
theorem handle_of_late_refusal {t : Token} {now : Instant} {text : String} {r : Rejection}
    (hparse : t.parse now text = .error r)
    (hlate : r.error ∈ [TokenError.expired, .notValidYet, .issuedAt, .id]) :
    ∃ (header payload signature : List Char) (h : Header) (members : List (String × Json))
      (claims : Claims),
      text.toList = header ++ '.' :: payload ++ '.' :: signature
        ∧ '.' ∉ header ∧ '.' ∉ payload ∧ '.' ∉ signature
        ∧ h.SpelledBy header
        ∧ IsSignature t.key h.algorithm (header ++ '.' :: payload) signature
        ∧ SpellsObject payload members ∧ Claims.ofJson? (.obj members) = .ok claims
        ∧ checkClaims t.expectations now claims.standard = .error r.error
        ∧ (IsObject header →
          r.handle = some ⟨h, claims, String.ofList signature, false⟩)
        ∧ (¬IsObject header → r.handle = none) := by
  obtain ⟨p, hp, hcheck⟩ := recognize_of_parse hparse hlate
  have hhandle := (parse_eq_error_iff.1 hparse).2
  obtain ⟨c, hc, ⟨hheader, hsigned⟩, haccept, hsignature, -⟩ := recognize_eq_ok_iff.1 hp
  obtain ⟨_, members, -, -, hmembers, hclaims⟩ := acceptPayload_and_ofJson?_iff.1 haccept
  obtain ⟨htext, hmessage, hpayload, hdot⟩ := Compact.split?_eq_some_iff.1 hc
  rw [Compact.messageOf] at hmessage
  rw [hmessage] at htext hsigned
  refine ⟨c.header, c.payload, c.signature, p.header, members, p.claims, htext,
    hheader.dot_not_mem, hpayload, hdot, hheader, hsigned, hmembers, hclaims, hcheck,
    fun hobject => ?_, fun harray => ?_⟩
  · rw [hhandle, unverified?_of_recognize hp hc hobject, ← hsignature]
  · rw [hhandle, unverified?_eq_none_of_recognize hp hc harray]

theorem checkClaims_sample_latest :
    checkClaims sample.expectations .latest sample.claims.standard = .error .expired := by
  rw [checkClaims_eq]
  exact if_pos (by decide)

theorem handle_of_late_refusal_expired :
    ∃ (signed : String) (r : Rejection), sample.create = .ok signed
      ∧ sample.parse .latest signed = .error r ∧ r.error = .expired
      ∧ ∃ p, r.handle = some p ∧ p.valid = false
        ∧ checkClaims sample.expectations .latest p.claims.standard = .error .expired := by
  obtain ⟨signature, hsigned⟩ : ∃ signature,
      IsSignature sample.key .hs384 sample.message signature :=
    exists_isSignature (by decide) _ _
  have hsplit := split?_message (t := sample) hsigned.dot_not_mem
  have hlegible : sample.IsLegible := ⟨by decide, by decide, by decide⟩
  have hrecognize := hlegible.recognize_message hsigned (Eq.refl sample.key)
    (fun _ h => by cases h) fun _ h => by cases h
  have hparse := parse_of_checkClaims_eq_error hrecognize checkClaims_sample_latest
  obtain ⟨header, payload, signature', h, members, claims, htext, -, hpayload, hdot, -, -, -, -,
    hcheck, hobject, -⟩ := handle_of_late_refusal hparse (by simp)
  -- a text is cut in one way only, so this header is the one that was written
  have hsplit' : Compact.split? (String.ofList (sample.message ++ '.' :: signature))
      = some ⟨header ++ '.' :: payload, header, payload, signature'⟩ :=
    Compact.split?_eq_some_iff.2 ⟨htext, rfl, hpayload, hdot⟩
  obtain rfl := congrArg Compact.header (Option.some.inj (hsplit.symm.trans hsplit'))
  exact ⟨_, _, create_eq_ok_iff.2 ⟨signature, hsigned, rfl⟩, hparse, rfl, _,
    hobject (isObject_header sample), rfl, hcheck⟩

/-- A header as an array, the type before the algorithm and nothing in the other eight places. -/
def tabulated : Json := .arr (.str "JWT" :: .str "HS256" :: List.replicate 8 .null)

theorem readStrictly?_tabulated :
    Header.readStrictly? (Utf8.encode tabulated.chars) = some (Header.ofAlgorithm .hs256) := by
  decide +kernel

theorem not_isObject_tabulated : ¬IsObject tabulated.segment := by
  rintro ⟨bytes, ms, hbytes, ho⟩
  rw [decodeSegment_segment] at hbytes
  cases hbytes
  have hread := Header.read?_of_members ho readStrictly?_tabulated
  have hnone : Header.read? (Utf8.encode tabulated.chars) = none := by decide +kernel
  rw [hnone] at hread
  cases hread

/-- The sample under such a header is out of date, and nothing is shown of it. -/
theorem late_refusal_without_handle :
    ∃ message signature : List Char,
      message = Compact.messageOf tabulated.segment sample.claims.toJson.segment
        ∧ IsSignature sample.key .hs256 message signature
        ∧ sample.parse .latest (String.ofList (message ++ '.' :: signature))
          = .error ⟨.expired, none⟩ := by
  obtain ⟨signature, hsigned⟩ : ∃ signature, IsSignature sample.key .hs256
      (Compact.messageOf tabulated.segment sample.claims.toJson.segment) signature :=
    exists_isSignature (by decide) _ _
  refine ⟨_, signature, rfl, hsigned, ?_⟩
  have hsplit : Compact.split? (String.ofList
      (Compact.messageOf tabulated.segment sample.claims.toJson.segment ++ '.' :: signature))
        = some ⟨_, tabulated.segment, sample.claims.toJson.segment, signature⟩ :=
    Compact.split?_ofList (dot_not_mem_segment _) hsigned.dot_not_mem
  have hlegible : sample.IsLegible := ⟨by decide, by decide, by decide⟩
  have haccept := hlegible.exists_acceptPayload (e := sample.expectations)
    (fun _ h => by cases h) fun _ h => by cases h
  have hspelled : (Header.ofAlgorithm .hs256).SpelledBy tabulated.segment :=
    ⟨_, decodeSegment_segment _, readStrictly?_tabulated⟩
  have hrecognize : sample.recognize _ = .ok
      ⟨Header.ofAlgorithm .hs256, sample.claims, String.ofList signature, true⟩ :=
    recognize_eq_ok_iff.2 ⟨_, hsplit, ⟨hspelled, hsigned⟩, haccept, rfl, rfl⟩
  rw [parse_of_checkClaims_eq_error hrecognize checkClaims_sample_latest,
    unverified?_eq_none_of_recognize hrecognize hsplit not_isObject_tabulated]

end Token

end SignedToken
