import SignedToken.Proofs.Token.Substitution

/-!
# Other signatures on a signed text

What is signed has one signature under a key. A signed text that is given another signature is
refused as forged, and what it says is still shown; given more segments it is no token at all.
-/

namespace SignedToken

/-! ## One signature a message -/

theorem IsSignature.unique {key : List UInt8} {algorithm : Algorithm}
    {message signature signature' : List Char} (h : IsSignature key algorithm message signature)
    (h' : IsSignature key algorithm message signature') : signature = signature' := by
  obtain ⟨size, hsize, rfl⟩ := h
  obtain ⟨size', hsize', rfl⟩ := h'
  rw [← Algorithm.hmac?_eq_some_iff] at hsize hsize'
  obtain rfl : size = size' := Option.some.inj (hsize.symm.trans hsize')
  rfl

namespace Token

variable {t verifier : Token} {now : Instant} {text : String} {p : ParsedToken}
  {header payload signature signature' : List Char}

/-- However an accepted text is cut into three, its parts are those that were looked at. -/
theorem signed_of_parse (hparse : verifier.parse now text = .ok p)
    (htext : text.toList = header ++ '.' :: payload ++ '.' :: signature) :
    p.header.SpelledBy header
      ∧ IsSignature verifier.key p.header.algorithm (header ++ '.' :: payload) signature := by
  obtain ⟨c, hsplit, ⟨hspelled, hsigned⟩, -⟩ := check_eq_ok_iff.1 (parse_eq_ok_iff_check.1 hparse)
  obtain ⟨htext', hmessage', hpayload', hsignature'⟩ := Compact.split?_eq_some_iff.1 hsplit
  -- an accepted text has two dots, so there is none inside the parts
  have hdots : text.toList.count '.' = 2 := by
    simp [htext', hmessage', Compact.messageOf, List.count_eq_zero.2 hspelled.dot_not_mem,
      List.count_eq_zero.2 hpayload', List.count_eq_zero.2 hsignature']
  simp only [htext, List.count_append, List.count_cons_self] at hdots
  have hpayload : '.' ∉ payload := List.count_eq_zero.1 (by omega)
  have hsignature : '.' ∉ signature := List.count_eq_zero.1 (by omega)
  obtain rfl := Compact.eq_of_split? hsplit htext hpayload hsignature
  exact ⟨hspelled, hsigned⟩

/-- Under one key no header and payload are accepted with two signatures. -/
theorem signature_unique_of_parse {verifier' : Token} {now' : Instant} {text' : String}
    {p' : ParsedToken} (hkey : verifier.key = verifier'.key)
    (hparse : verifier.parse now text = .ok p)
    (htext : text.toList = header ++ '.' :: payload ++ '.' :: signature)
    (hparse' : verifier'.parse now' text' = .ok p')
    (htext' : text'.toList = header ++ '.' :: payload ++ '.' :: signature') :
    signature = signature' := by
  obtain ⟨hheader, hsigned⟩ := signed_of_parse hparse htext
  obtain ⟨hheader', hsigned'⟩ := signed_of_parse hparse' htext'
  rw [hheader.unique hheader', hkey] at hsigned
  exact hsigned.unique hsigned'

/-! ## Other signatures -/

/-- Whoever has the key finds another signature invalid, and shows what can be read of the text. -/
theorem parse_of_other_signature
    (hsigned : IsSignature t.key t.algorithm t.message signature) (hkey : verifier.key = t.key)
    (hne : signature' ≠ signature) (hdot : '.' ∉ signature') (now : Instant) :
    verifier.parse now (String.ofList (t.message ++ '.' :: signature')) = .error ⟨.signatureInvalid,
      ParsedToken.unverified? (String.ofList (t.message ++ '.' :: signature'))⟩ := by
  have hunsigned (h : Header)
      (hh : h.SpelledBy (Header.ofAlgorithm t.algorithm).toJson.segment) :
      ¬IsSignature verifier.key h.algorithm t.message signature' := by
    rw [hh.unique t.spelledBy_header, hkey]
    exact fun hsigned' => hne (hsigned'.unique hsigned)
  obtain ⟨size, hsize, -⟩ := hsigned
  have hhmac : t.algorithm.hmac? = some size := Algorithm.hmac?_eq_some_iff.2 hsize
  rw [parse_eq_fault (split?_message hdot) fun h hh => hunsigned h hh.1 hh.2,
    Compact.fault_of_spelledBy t.spelledBy_header]
  simp [Header.ofAlgorithm, hhmac, TokenError.ofJwt]

/-- A text of more than three segments is malformed, and nothing is shown of it. -/
theorem parse_of_more_segments (hdots : 2 < text.toList.count '.') (verifier : Token)
    (now : Instant) : ∃ detail, verifier.parse now text = .error ⟨.malformed detail, none⟩ := by
  obtain ⟨c, hc⟩ := Compact.exists_split? (Nat.le_of_lt hdots)
  obtain ⟨htext, hmessage, hpayload, hsignature⟩ := Compact.split?_eq_some_iff.1 hc
  have hheader : '.' ∈ c.header := by
    rw [htext, hmessage, Compact.messageOf] at hdots
    simp only [List.count_append, List.count_cons_self, List.count_eq_zero.2 hpayload,
      List.count_eq_zero.2 hsignature] at hdots
    exact List.count_pos_iff.1 (by omega)
  have hnone (h : Header) : ¬h.SpelledBy c.header := fun hh => hh.dot_not_mem hheader
  have hhandle : ParsedToken.unverified? text = none := by
    refine Option.eq_none_iff_forall_ne_some.2 fun p hp => ?_
    obtain ⟨c', hc', hdot, -⟩ := ParsedToken.unverified?_eq_some_iff.1 hp
    obtain rfl : c = c' := Option.some.inj (hc.symm.trans hc')
    exact hdot hheader
  obtain ⟨detail, hdetail⟩ := Compact.fault_of_not_spelledBy hnone
  exact ⟨detail, by rw [parse_eq_fault hc fun h hh => hnone h hh.1, hdetail, hhandle]⟩

/-- A text that an HMAC token has signed is refused by everyone with the key once its signature is
any other text: as forged if the other text has no dot, and as malformed if it has. The claims of a
forged text are still shown if they have no floats, nest at most 126 deep and have nothing packed in
them. So under one key no header and payload pass with two signatures. -/
theorem refused_with_other_signature {t : Token}
    (halgorithm : t.algorithm ∈ [Algorithm.hs256, .hs384, .hs512]) :
    (∃ message signature : List Char, '.' ∉ signature
      ∧ t.create = .ok (String.ofList (message ++ '.' :: signature))
      ∧ ∀ (verifier : Token) (now : Instant) (signature' : List Char),
        verifier.key = t.key → signature' ≠ signature →
        ('.' ∉ signature' → ∃ handle,
          verifier.parse now (String.ofList (message ++ '.' :: signature'))
              = .error ⟨.signatureInvalid, handle⟩
            ∧ (t.claims.body.toJson.isFloatFree = true → t.claims.body.toJson.depth ≤ 126 →
              t.claims.body.toJson.isUnpacked = true →
              handle = some ⟨⟨t.algorithm, some "JWT"⟩, t.claims, String.ofList signature', false⟩))
        ∧ ('.' ∈ signature' → ∃ detail,
          verifier.parse now (String.ofList (message ++ '.' :: signature'))
            = .error ⟨.malformed detail, none⟩))
      ∧ ∀ (verifier verifier' : Token) (now now' : Instant) (text text' : String)
        (p p' : ParsedToken) (header payload signature signature' : List Char),
        verifier.key = verifier'.key →
        text.toList = header ++ '.' :: payload ++ '.' :: signature →
        text'.toList = header ++ '.' :: payload ++ '.' :: signature' →
        verifier.parse now text = .ok p → verifier'.parse now' text' = .ok p' →
        signature = signature' := by
  obtain ⟨signature, hsigned⟩ := exists_isSignature halgorithm t.key t.message
  refine ⟨⟨t.message, signature, hsigned.dot_not_mem,
    create_eq_ok_iff.2 ⟨signature, hsigned, rfl⟩, ?_⟩, ?_⟩
  · intro verifier now signature' hkey hne
    refine ⟨fun hdot => ?_, fun hdot => ?_⟩
    · refine ⟨_, parse_of_other_signature hsigned hkey hne hdot now, ?_⟩
      intro hfree hdepth hunpacked
      exact IsLegible.unverified?_message ⟨hfree, hdepth, hunpacked⟩ hdot
    · refine parse_of_more_segments ?_ verifier now
      have hmore : 0 < signature'.count '.' := List.count_pos_iff.2 hdot
      rw [String.toList_ofList, message, Compact.messageOf]
      simp only [List.count_append, List.count_cons_self]
      omega
  · intro verifier verifier' now now' text text' p p' header payload signature signature' hkey
      htext htext' hparse hparse'
    exact signature_unique_of_parse hkey hparse htext hparse' htext'

/-- The sample with a padded signature and with a segment behind it. -/
theorem refused_with_other_signature_sample :
    sample.algorithm ∈ [Algorithm.hs256, .hs384, .hs512]
      ∧ ∃ message signature : List Char,
        sample.create = .ok (String.ofList (message ++ '.' :: signature))
          ∧ sampleVerifier.parse .latest (String.ofList (message ++ '.' :: (signature ++ ['='])))
            = .error ⟨.signatureInvalid, some ⟨⟨.hs384, some "JWT"⟩, sample.claims,
              String.ofList (signature ++ ['=']), false⟩⟩
          ∧ ∃ detail, sampleVerifier.parse .latest
              (String.ofList (message ++ '.' :: (signature ++ ['.'])))
            = .error ⟨.malformed detail, none⟩ := by
  have halgorithm : sample.algorithm ∈ [Algorithm.hs256, .hs384, .hs512] := by simp [sample]
  obtain ⟨⟨message, signature, hdot, hcreate, hrefused⟩, -⟩ :=
    refused_with_other_signature halgorithm
  obtain ⟨handle, hpadded, hhandle⟩ :=
    (hrefused sampleVerifier .latest (signature ++ ['=']) rfl (by simp)).1 (by simpa using hdot)
  rw [hhandle (by decide) (by decide) (by decide)] at hpadded
  have hlonger := (hrefused sampleVerifier .latest (signature ++ ['.']) rfl (by simp)).2 (by simp)
  exact ⟨halgorithm, message, signature, hcreate, hpadded, hlonger⟩

/-- Nothing is shown of the packed token with another signature, though it has no floats and is not
deep. -/
theorem packed_forged :
    packed.claims.body.toJson.isFloatFree = true ∧ packed.claims.body.toJson.depth ≤ 126
      ∧ ∃ message signature : List Char,
        packed.create = .ok (String.ofList (message ++ '.' :: signature))
          ∧ ∀ (verifier : Token) (now : Instant) (signature' : List Char),
            verifier.key = packed.key → signature' ≠ signature → '.' ∉ signature' →
            verifier.parse now (String.ofList (message ++ '.' :: signature'))
              = .error ⟨.signatureInvalid, none⟩ := by
  obtain ⟨signature, hsigned⟩ : ∃ signature, IsSignature packed.key packed.algorithm
      packed.message signature := exists_isSignature (by decide) packed.key packed.message
  refine ⟨by decide, by decide, packed.message, signature,
    create_eq_ok_iff.2 ⟨signature, hsigned, rfl⟩, ?_⟩
  intro verifier now signature' hkey hne hdot
  rw [parse_of_other_signature hsigned hkey hne hdot now,
    unverified?_message_eq_none read?_packed hdot]

end Token

end SignedToken
