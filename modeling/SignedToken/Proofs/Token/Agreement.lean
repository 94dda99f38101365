import Mathlib
import SignedToken.Proofs.Json.Depth
import SignedToken.Proofs.Token.Handles

/-!
# Reading with the key and without

Whatever is accepted under a header that is an object is read without the key as well, and what is
read is the same, but for being valid. Under a header that is an array nothing is read.
-/

namespace SignedToken

/-! ## Objects and their outlines -/

namespace Json

open Ascii

variable {text : List UInt8} {members : List (String × Json)}

/-- What is written as an object begins with a brace. -/
theorem exists_openBrace_of_spelled? (h : spelled? text = some (.obj members)) :
    ∃ rest, skipBlank text = openBrace :: rest := by
  rw [spelled?] at h
  split at h
  · rename_i v after hvalue
    obtain rfl : v = .obj members := Option.some.inj (Option.ite_none_right_eq_some.1 h).2
    rw [maxDepth, value] at hvalue
    split at hvalue
    · cases hvalue
    rename_i b rest hb
    rw [hb]
    split at hvalue
    · obtain ⟨_, -, hvalue⟩ := Option.map_eq_some_iff.1 hvalue
      cases hvalue
    split at hvalue
    · rename_i hbrace
      exact ⟨rest, by rw [hbrace]⟩
    · -- a scalar is no object, which is nested at least once
      have hdepth := depth_of_scalar hvalue
      simp [depth] at hdepth
  · cases h

/-- The outline of a text that is written as an object is that of an object. -/
theorem exists_members_of_outline? {o : Outline} (hspelled : spelled? text = some (.obj members))
    (ho : outline? text = some o) : ∃ ms, o = .members ms := by
  obtain ⟨rest, hrest⟩ := exists_openBrace_of_spelled? hspelled
  unfold outline? at ho
  rw [hrest] at ho
  obtain ⟨⟨o', after⟩, ho', ho⟩ := Option.bind_eq_some_iff.1 ho
  obtain rfl : o' = o := Option.some.inj (Option.ite_none_right_eq_some.1 ho).2
  obtain ⟨⟨ms, _⟩, -, hms⟩ := Option.map_eq_some_iff.1 ho'
  exact ⟨ms, (congrArg Prod.fst hms).symm⟩

end Json

theorem SpellsObject.isObject {segment : List Char} {members : List (String × Json)} {h : Header}
    (hobject : SpellsObject segment members) (hs : h.SpelledBy segment) : IsObject segment := by
  obtain ⟨bytes, hbytes, hread⟩ := hs
  obtain ⟨written, bytes', hbytes', hwritten⟩ := hobject.exists_writesValue
  obtain rfl : bytes = bytes' := Except.ok.inj (hbytes.symm.trans hbytes')
  unfold Header.readStrictly? at hread
  obtain ⟨o, ho, -⟩ := Option.bind_eq_some_iff.1 hread
  obtain ⟨ms, rfl⟩ := Json.exists_members_of_outline? hwritten ho
  exact ⟨bytes, ms, hbytes, ho⟩

/-! ## Accepted texts -/

namespace Token

/-- An accepted text is read without the key just if its header is an object, as is each header
that can be read as one. What is read is what was accepted, except that it is not valid. -/
theorem unverified?_of_parse {t : Token} {now : Instant} {text : String} {p : ParsedToken}
    (hparse : t.parse now text = .ok p) :
    ∃ header payload signature : List Char,
      text.toList = header ++ '.' :: payload ++ '.' :: signature
        ∧ '.' ∉ header ∧ '.' ∉ payload ∧ '.' ∉ signature
        ∧ p.valid = true
        ∧ (∀ members, SpellsObject header members → IsObject header)
        ∧ (IsObject header → ParsedToken.unverified? text = some { p with valid := false })
        ∧ (¬IsObject header → ParsedToken.unverified? text = none) := by
  obtain ⟨hp, -⟩ := parse_eq_ok_iff_recognize.1 hparse
  obtain ⟨c, hc, ⟨hheader, -⟩, -, -, hvalid⟩ := recognize_eq_ok_iff.1 hp
  obtain ⟨htext, hmessage, hpayload, hsignature⟩ := Compact.split?_eq_some_iff.1 hc
  rw [hmessage] at htext
  exact ⟨c.header, c.payload, c.signature, htext, hheader.dot_not_mem, hpayload, hsignature, hvalid,
    fun members hobject => hobject.isObject hheader, unverified?_of_recognize hp hc,
    unverified?_eq_none_of_recognize hp hc⟩

/-- A header with blanks, an escape, a parameter that only the strict reader looks at and one that
nobody knows. -/
def looseHeader : String :=
  "\x7b \"kid\" : null, \"x\" : [], \"typ\" : \"J\\u0057T\", \"alg\" : \"HS512\" \x7d"

/-- A payload that says more than once what may be said more than once. -/
def loosePayload : String :=
  "\x7b\"jti\":[],\"iss\":\"\\u0061pp\",\"body\":[],\"jti\":\"x\",\"a\":[],\"body\":null,\"a\":\"\"\x7d"

/-- Its members as they are written. -/
def looseMembers : List (String × Json) :=
  [("jti", .arr []), ("iss", .str "app"), ("body", .arr []), ("jti", .str "x"), ("a", .arr []),
    ("body", .null), ("a", .str "")]

theorem spelledBy_looseHeader : Header.SpelledBy (segmentOf looseHeader) ⟨.hs512, some "JWT"⟩ :=
  ⟨_, decodeSegment_segmentOf _, by cbv⟩

theorem writesValue_loosePayload : WritesValue (segmentOf loosePayload) (.obj looseMembers) :=
  ⟨_, decodeSegment_segmentOf _, by cbv⟩

theorem spellsObject_loosePayload : SpellsObject (segmentOf loosePayload) looseMembers :=
  writesValue_loosePayload.spellsObject (by decide)

/-- What has the loose header and the loose payload is accepted, and read without the key. -/
theorem unverified?_of_parse_loose :
    ∃ (signed : String) (p : ParsedToken), sampleVerifier.parse .latest signed = .ok p
      ∧ p.header = ⟨.hs512, some "JWT"⟩ ∧ p.claims.standard = { id := "x", issuer := "app" }
      ∧ ParsedToken.unverified? signed = some { p with valid := false } := by
  have hobject : IsObject (segmentOf looseHeader) := by
    obtain ⟨members, hspelled, hunpacked⟩ : ∃ members,
        Json.spelled? (Utf8.bytes looseHeader) = some (.obj members)
          ∧ (Json.obj members).isUnpacked = true := ⟨_, by cbv, by decide⟩
    have hwrites : WritesValue (segmentOf looseHeader) (.obj members) :=
      ⟨_, decodeSegment_segmentOf _, hspelled⟩
    exact (hwrites.spellsObject hunpacked).isObject spelledBy_looseHeader
  have hclaims : Claims.ofJson? (.obj looseMembers)
      = .ok { standard := { id := "x", issuer := "app" } } := by cbv
  have haccept : acceptPayload sampleVerifier.expectations (segmentOf loosePayload)
      = .ok (.obj looseMembers) :=
    acceptPayload_eq_ok_iff.2
      ⟨spellsObject_loosePayload, _, _, writesValue_loosePayload, rfl, by cbv, by cbv⟩
  have hpass : StandardClaims.PassAt sampleVerifier.expectations .latest
      { id := "x", issuer := "app" } := ⟨by simp, by simp, by simp, by simp⟩
  obtain ⟨signature, hsigned⟩ : ∃ signature, IsSignature sampleVerifier.key .hs512
      (Compact.messageOf (segmentOf looseHeader) (segmentOf loosePayload)) signature :=
    exists_isSignature (by simp) _ _
  have hsplit : Compact.split? (String.ofList (Compact.messageOf (segmentOf looseHeader)
      (segmentOf loosePayload) ++ '.' :: signature))
        = some ⟨_, segmentOf looseHeader, segmentOf loosePayload, signature⟩ :=
    Compact.split?_ofList (dot_not_mem_segmentOf _) hsigned.dot_not_mem
  have hrecognize := recognize_of_ofJson?_eq_ok hsplit
    (authenticate_eq_ok_iff.2 ⟨spelledBy_looseHeader, hsigned⟩) haccept hclaims
  have hparse := parse_eq_ok_iff_recognize.2 ⟨hrecognize, hpass⟩
  obtain ⟨header, payload, signature', htext, -, hpayload, hdot, -, -, hunverified, -⟩ :=
    unverified?_of_parse hparse
  obtain rfl := congrArg Compact.header (Compact.eq_of_split? hsplit htext hpayload hdot)
  exact ⟨_, _, hparse, rfl, rfl, hunverified hobject⟩

end Token

end SignedToken
