import SignedToken.Proofs.Json.Canonical
import SignedToken.Proofs.Json.Reread
import SignedToken.Proofs.Token.Compact
import SignedToken.Proofs.Token.Header
import SignedToken.Token.Basic

/-!
# Segments and what they stand for

A segment that is written is read back as what was written, for headers of any kind and, down to
where the reader stops, for values without floats in which nothing is packed. It consists of symbols
alone, and no two texts are read as the same bytes.
-/

namespace SignedToken

/-! ## Symbols -/

theorem Base64Url.IsSymbol.ne_of_not {c d : Char} (h : IsSymbol c) (hd : ¬ IsSymbol d) : c ≠ d :=
  fun heq => hd (heq ▸ h)

theorem Base64Url.not_isSymbol_dot : ¬ IsSymbol '.' := by
  unfold IsSymbol
  decide

theorem Base64Url.not_isSymbol_pad : ¬ IsSymbol '=' := by
  unfold IsSymbol
  decide

/-! ## Reading a segment -/

/-- What a reader makes of the bytes that a segment stands for. -/
def readSegment? {α : Type} (read : List UInt8 → Option α) (segment : List Char) : Option α :=
  (decodeSegment segment).toOption.bind read

theorem readSegment?_segment {α : Type} (read : List UInt8 → Option α) (v : Json) :
    readSegment? read v.segment = read (Utf8.encode v.chars) := by
  rw [readSegment?, decodeSegment_segment]
  rfl

/-- A text that is not verified is read segment by segment. -/
theorem ParsedToken.unverified?_eq_readSegment? (text : String) :
    unverified? text = (do
      let c ← Compact.split? text
      if !c.hasThreeSegments then none
      let header ← readSegment? Header.read? c.header
      let value ← readSegment? Json.read? c.payload
      let claims ← (Claims.ofJson? value).toOption
      return { header, claims, signature := String.ofList c.signature, valid := false }) := by
  simp only [unverified?, readSegment?, bind, Option.bind_assoc]

theorem ParsedToken.unverified?_of_readSegment?_eq_none {text : String} {c : Compact}
    (hc : Compact.split? text = some c) (h : readSegment? Json.read? c.payload = none) :
    unverified? text = none := by
  rw [unverified?_eq_readSegment?, hc]
  simp only [bind, Option.bind_some, h, Option.bind_none]
  split
  · rfl
  · cases readSegment? Header.read? c.header <;> rfl

/-! ## Values -/

namespace Json

variable {v : Json}

theorem readSegment?_eq_iff (hfree : v.isFloatFree = true) (hdepth : v.depth ≤ maxDepth) :
    readSegment? read? v.segment = some v ↔ v.isUnpacked = true := by
  rw [readSegment?_segment, read?_eq_iff_of_spelled? (spelled?_chars hfree hdepth)]

theorem readSegment?_of_lt_depth (hdepth : maxDepth < v.depth) :
    readSegment? read? v.segment = none := by
  rw [readSegment?_segment]
  refine Option.eq_none_iff_forall_ne_some.2 fun w hread => ?_
  obtain ⟨w', hspelled, -⟩ := read?_eq_some_iff.1 hread
  exact Nat.not_le.2 hdepth (exists_spelled?_chars_iff.1 ⟨w', hspelled⟩).1

theorem map_canonical_readSegment? (hfree : v.isFloatFree = true) (hdepth : v.depth ≤ maxDepth)
    (hunpacked : v.isUnpacked = true) (hcanonical : v.IsCanonical) :
    (readSegment? read? v.segment).map canonical = some v := by
  rw [(readSegment?_eq_iff hfree hdepth).2 hunpacked, Option.map_some,
    canonical_of_isCanonical v hcanonical]

theorem isSymbol_of_mem_segment {c : Char} (h : c ∈ v.segment) : Base64Url.IsSymbol c :=
  Base64Url.isSymbol_of_mem_encode h

end Json

/-! ## One spelling of everything -/

/-- Headers are read back from their segment. A value without floats that nests at most 127 deep is
read back just if nothing is packed in it; of a value that nests deeper nothing is read. A segment
that is written holds letters, digits, hyphens and low lines of ASCII and so neither a dot nor
padding. A segment that is read is what is written for its bytes, so that no other segment stands
for them. -/
theorem segment_canonical (h : Header) (v : Json) :
    readSegment? Header.read? h.toJson.segment = some h
    ∧ (v.isFloatFree = true → v.depth ≤ 127 →
      (readSegment? Json.read? v.segment = some v ↔ v.isUnpacked = true))
    ∧ (127 < v.depth → readSegment? Json.read? v.segment = none)
    ∧ (v.isFloatFree = true → v.depth ≤ 127 → v.isUnpacked = true → v.IsCanonical →
      (readSegment? Json.read? v.segment).map Json.canonical = some v)
    ∧ (∀ c ∈ v.segment, Base64Url.IsSymbol c ∧ c ≠ '.' ∧ c ≠ '=')
    ∧ (∀ segment bytes, decodeSegment segment = .ok bytes → Base64Url.encode bytes = segment)
    ∧ ∀ segment segment' bytes, decodeSegment segment = .ok bytes →
      decodeSegment segment' = .ok bytes → segment = segment' := by
  refine ⟨?_, Json.readSegment?_eq_iff, Json.readSegment?_of_lt_depth,
    Json.map_canonical_readSegment?, fun c hc => ?_,
    fun segment bytes hs => (decodeSegment_eq_ok_iff.1 hs).symm,
    fun segment segment' bytes hs hs' => ?_⟩
  · rw [readSegment?_segment, h.read?_toJson]
  · have hsymbol := Json.isSymbol_of_mem_segment hc
    exact ⟨hsymbol, hsymbol.ne_of_not Base64Url.not_isSymbol_dot,
      hsymbol.ne_of_not Base64Url.not_isSymbol_pad⟩
  · exact (decodeSegment_eq_ok_iff.1 hs).trans (decodeSegment_eq_ok_iff.1 hs').symm

/-- The empty object below a name that has to be escaped, and a segment of two symbols for one
byte, of which four bits belong to nothing. -/
theorem segment_canonical_escaped :
    readSegment? Json.read? (Json.obj [("\n", .obj [])]).segment = some (.obj [("\n", .obj [])])
      ∧ Base64Url.encode [255] = ['_', 'w']
      ∧ ∀ segment, decodeSegment segment = .ok [255] → segment = ['_', 'w'] := by
  obtain ⟨-, hvalue, -, -, -, hwritten, hunique⟩ :=
    segment_canonical (Header.ofAlgorithm .hs256) (.obj [("\n", .obj [])])
  have hdecode : decodeSegment ['_', 'w'] = .ok [255] := decodeSegment_encode [255]
  exact ⟨(hvalue rfl (by decide)).2 (by decide), hwritten _ _ hdecode,
    fun segment h => hunique _ _ _ h hdecode⟩

/-- A number that is packed as if it were a text. -/
def packedNumber : Json := .obj [(Json.packedName, .ofInt64 1)]

/-- It has neither floats nor depth, but it is not read back, and nor is a text with it as its
payload. -/
theorem packedNumber_unread :
    packedNumber.isFloatFree = true ∧ packedNumber.depth ≤ 127 ∧ packedNumber.IsCanonical
      ∧ readSegment? Json.read? packedNumber.segment = none
      ∧ ∀ header signature : List Char, '.' ∉ signature →
        ParsedToken.unverified? (String.ofList
          (Compact.messageOf header packedNumber.segment ++ '.' :: signature)) = none := by
  have hread : readSegment? Json.read? packedNumber.segment = none := by
    rw [readSegment?_segment, Json.read?_eq, Json.spelled?_chars (by decide) (by decide)]
    rfl
  refine ⟨by decide, by decide, ⟨List.pairwise_singleton _ _, trivial, trivial⟩, hread, ?_⟩
  intro header signature hdot
  exact ParsedToken.unverified?_of_readSegment?_eq_none
    (Compact.split?_ofList (dot_not_mem_segment _) hdot) hread

end SignedToken
