import SignedToken.Proofs.Digest.Length
import SignedToken.Proofs.Token.Unsigned

/-!
# Signatures under another header

A verifier takes the algorithm from the header of the text it is given. A signature still passes for
one algorithm only: its length tells which, whatever was signed with whatever key. So a signature
that is put behind a header with another algorithm is refused, by everyone and whatever the payload.
-/

namespace SignedToken

/-! ## Signatures tell their algorithm -/

theorem Algorithm.eq_of_mem_hmacFamily {a a' : Algorithm} {size : Sha2.Size}
    (h : (a, size) ∈ hmacFamily) (h' : (a', size) ∈ hmacFamily) : a = a' := by
  simp only [hmacFamily, List.mem_cons, Prod.mk.injEq, List.not_mem_nil, or_false] at h h'
  rcases h with ⟨rfl, rfl⟩ | ⟨rfl, rfl⟩ | ⟨rfl, rfl⟩
  · exact Eq.symm (by simpa using h')
  · exact Eq.symm (by simpa using h')
  · exact Eq.symm (by simpa using h')

theorem Algorithm.isSome_hmac?_iff {a : Algorithm} :
    a.hmac?.isSome = true ↔ a ∈ [Algorithm.hs256, .hs384, .hs512] := by
  cases a <;> simp [hmac?]

section
variable {key key' : List UInt8} {algorithm algorithm' : Algorithm}
  {message message' signature : List Char}

theorem IsSignature.exists_length (h : IsSignature key algorithm message signature) :
    ∃ size, (algorithm, size) ∈ Algorithm.hmacFamily
      ∧ signature.length = (4 * size.digestBytes + 2) / 3 := by
  obtain ⟨size, hsize, rfl⟩ := h
  exact ⟨size, hsize, by rw [Base64Url.length_encode, Hmac.length_code]⟩

/-- No text is a signature of two algorithms, not even of two messages under two keys. -/
theorem IsSignature.algorithm_unique (h : IsSignature key algorithm message signature)
    (h' : IsSignature key' algorithm' message' signature) : algorithm = algorithm' := by
  obtain ⟨size, hsize, hlength⟩ := h.exists_length
  obtain ⟨size', hsize', hlength'⟩ := h'.exists_length
  have hbytes : size.digestBytes = size'.digestBytes := by omega
  obtain rfl := Sha2.Size.digestBytes_inj.1 hbytes
  exact Algorithm.eq_of_mem_hmacFamily hsize hsize'

/-- Behind a header with another algorithm a signature is no signature. -/
theorem IsSignature.not_isSignature_of_ne {header : List Char} {h : Header}
    (hsigned : IsSignature key algorithm message signature) (hheader : h.SpelledBy header)
    (hne : h.algorithm ≠ algorithm) (h' : Header) :
    ¬(h'.SpelledBy header ∧ IsSignature key' h'.algorithm message' signature) := by
  rintro ⟨hheader', hsigned'⟩
  obtain rfl := hheader.unique hheader'
  exact hne (hsigned'.algorithm_unique hsigned)

end

namespace Token

/-! ## Other headers -/

section
variable {verifier : Token} {now : Instant} {text : String} {c : Compact}

theorem parse_eq_fault (hc : Compact.split? text = some c)
    (hunsigned : ∀ h : Header, ¬(h.SpelledBy c.header
      ∧ IsSignature verifier.key h.algorithm c.message c.signature)) :
    verifier.parse now text = .error ⟨.ofJwt c.fault, ParsedToken.unverified? text⟩ := by
  have h : ¬IsSignedWith verifier.key text := by
    rw [isSignedWith_iff_authenticate]
    rintro ⟨c', hc', h, hh⟩
    obtain rfl : c = c' := Option.some.inj (hc.symm.trans hc')
    exact hunsigned h (authenticate_eq_ok_iff.1 hh)
  rw [parse_of_not_isSignedWith h, refusal, hc]
  rfl

end

/-- The signature of a signed token passes under no header that names another algorithm, whatever
the payload, the key and the time: it is invalid under a header of the HMAC family, cannot be
verified under another one, and where no header can be read the text is malformed. -/
theorem refused_under_other_header {t : Token}
    (halgorithm : t.algorithm ∈ [Algorithm.hs256, .hs384, .hs512]) :
    ∃ header payload signature : List Char,
      '.' ∉ header ∧ '.' ∉ payload ∧ '.' ∉ signature
        ∧ t.create = .ok (String.ofList (header ++ '.' :: payload ++ '.' :: signature))
        ∧ ∀ (verifier : Token) (now : Instant) (header' payload' : List Char) (text : String),
          '.' ∉ payload' → text.toList = header' ++ '.' :: payload' ++ '.' :: signature →
          (∀ h : Header, h.SpelledBy header' → h.algorithm ∈ [Algorithm.hs256, .hs384, .hs512] →
            h.algorithm ≠ t.algorithm →
            verifier.parse now text = .error ⟨.signatureInvalid, ParsedToken.unverified? text⟩)
          ∧ (∀ h : Header, h.SpelledBy header' →
            h.algorithm ∉ [Algorithm.hs256, .hs384, .hs512] →
            verifier.parse now text
              = .error ⟨.unverifiable "InvalidAlgorithm", ParsedToken.unverified? text⟩)
          ∧ ((∀ h : Header, ¬h.SpelledBy header') → ∃ detail,
            verifier.parse now text
              = .error ⟨.malformed detail, ParsedToken.unverified? text⟩) := by
  obtain ⟨signature, hsigned⟩ := exists_isSignature halgorithm t.key t.message
  refine ⟨_, _, signature, dot_not_mem_segment _, dot_not_mem_segment _, hsigned.dot_not_mem,
    create_eq_ok_iff.2 ⟨signature, hsigned, rfl⟩, ?_⟩
  intro verifier now header' payload' text hpayload htext
  have hc : Compact.split? text = some ⟨header' ++ '.' :: payload', header', payload', signature⟩ :=
    Compact.split?_eq_some_iff.2 ⟨htext, rfl, hpayload, hsigned.dot_not_mem⟩
  refine ⟨fun h hheader hhmac hne => ?_, fun h hheader hother => ?_, fun hnone => ?_⟩
  · rw [parse_eq_fault hc (hsigned.not_isSignature_of_ne hheader hne),
      Compact.fault_of_spelledBy hheader, if_pos (Algorithm.isSome_hmac?_iff.2 hhmac)]
    rfl
  · have hne : h.algorithm ≠ t.algorithm := fun heq => hother (heq ▸ halgorithm)
    rw [parse_eq_fault hc (hsigned.not_isSignature_of_ne hheader hne),
      Compact.fault_of_spelledBy hheader, if_neg fun hh => hother (Algorithm.isSome_hmac?_iff.1 hh)]
    rfl
  · obtain ⟨detail, hdetail⟩ := Compact.fault_of_not_spelledBy
      (c := ⟨header' ++ '.' :: payload', header', payload', signature⟩) hnone
    refine ⟨detail, ?_⟩
    rw [parse_eq_fault hc fun h hh => hnone h hh.1, hdetail]

/-- A text with a signature behind the header that tokens of an algorithm have. -/
def relabelled (algorithm : Algorithm) (payload signature : List Char) : String :=
  String.ofList ((Header.ofAlgorithm algorithm).toJson.segment ++ '.' :: payload ++ '.' :: signature)

/-- The signature of the sample under a header for HS512, under one for RS256 with nothing behind
it, and with a segment too many. -/
theorem refused_under_other_header_sample :
    sample.algorithm ∈ [Algorithm.hs256, .hs384, .hs512]
      ∧ ∃ header payload signature : List Char,
        sample.create = .ok (String.ofList (header ++ '.' :: payload ++ '.' :: signature))
          ∧ sample.parse .latest (relabelled .hs512 payload signature) = .error
            ⟨.signatureInvalid, ParsedToken.unverified? (relabelled .hs512 payload signature)⟩
          ∧ stranger.parse .latest (relabelled .rs256 [] signature) = .error
            ⟨.unverifiable "InvalidAlgorithm",
              ParsedToken.unverified? (relabelled .rs256 [] signature)⟩
          ∧ ∃ detail, sample.parse .latest
              (String.ofList ((header ++ '.' :: payload) ++ '.' :: payload ++ '.' :: signature))
            = .error ⟨.malformed detail, ParsedToken.unverified?
              (String.ofList
                ((header ++ '.' :: payload) ++ '.' :: payload ++ '.' :: signature))⟩ := by
  have halgorithm : sample.algorithm ∈ [Algorithm.hs256, .hs384, .hs512] := by simp [sample]
  obtain ⟨header, payload, signature, -, hpayload, -, hcreate, hrefused⟩ :=
    refused_under_other_header halgorithm
  have hhs512 := (hrefused sample .latest _ payload _ hpayload String.toList_ofList).1
    _ (spelledBy_segment (.ofAlgorithm .hs512)) (by simp [Header.ofAlgorithm])
    (by simp [Header.ofAlgorithm, sample])
  have hrs256 := (hrefused stranger .latest _ [] _ (by simp) String.toList_ofList).2.1
    _ (spelledBy_segment (.ofAlgorithm .rs256)) (by simp [Header.ofAlgorithm])
  have hlonger := (hrefused sample .latest (header ++ '.' :: payload) payload _ hpayload
    String.toList_ofList).2.2 fun h hh => hh.dot_not_mem (by simp)
  exact ⟨halgorithm, header, payload, signature, hcreate, hhs512, hrs256, hlonger⟩

end Token

end SignedToken
