import SignedToken.Proofs.Token.Errors

/-!
# Whether signed tokens can be read

What a token signs can be read if its payload nests no deeper than a reader goes, its floats are in
range and nothing is packed in it. Then nobody who has the key finds anything wrong with the form of
the text. If it is too deep or has other floats, nobody gets anything out of it. A token without
floats is shown to every verifier as it was made, whether it is accepted or not.
-/

namespace SignedToken

/-- The payload can be read once it is written, unless something is packed in it. -/
structure Claims.IsReadable (c : Claims) : Prop where
  depth_le : c.body.toJson.depth ≤ 126
  floatsInRange : c.body.toJson.hasFloatsInRange = true

theorem Claims.isReadable_iff {c : Claims} :
    c.IsReadable ↔ ∃ v, Json.spelled? (Utf8.encode c.toJson.chars) = some v := by
  rw [exists_spelled?_toJson_iff]
  exact ⟨fun h => ⟨h.depth_le, h.floatsInRange⟩, fun h => ⟨h.1, h.2⟩⟩

theorem Claims.read?_eq_none {c : Claims} (hunreadable : ¬c.IsReadable) :
    Json.read? (Utf8.encode c.toJson.chars) = none := by
  refine Option.eq_none_iff_forall_ne_some.2 fun v hread => hunreadable ?_
  obtain ⟨w, hspelled, -⟩ := Json.read?_eq_some_iff.1 hread
  exact isReadable_iff.2 ⟨w, hspelled⟩

/-- A payload that can be read, with nothing packed in it, spells claims. -/
theorem Claims.IsReadable.exists_ofJson? {c : Claims} (h : c.IsReadable)
    (hunpacked : c.body.toJson.isUnpacked = true) :
    ∃ members read, Json.spelled? (Utf8.encode c.toJson.chars) = some (.obj members)
      ∧ Json.read? (Utf8.encode c.toJson.chars) = some (.obj members)
      ∧ (∀ name, members.countP (·.1 == name) ≤ 1)
      ∧ ofJson? (.obj members) = .ok read ∧ read.standard = c.standard := by
  obtain ⟨v, hspelled⟩ := isReadable_iff.1 h
  obtain ⟨members, read, rfl, hcount, hclaims, hstandard⟩ :=
    exists_ofJson?_of_spelled? hspelled hunpacked
  have hmembers : (Json.obj members).isUnpacked = true := by
    rw [Json.isUnpacked_of_spelled? hspelled, isUnpacked_toJson, hunpacked]
  exact ⟨members, read, hspelled, Json.read?_of_isUnpacked hspelled hmembers, hcount, hclaims,
    hstandard⟩

namespace Token

variable {t verifier : Token} {signature : List Char}

/-! ## Payloads that can be read -/

/-- What can be refused of a text that is well-formed: its parties, its times and its id. -/
def contentErrors : List TokenError :=
  [.issuer, .audience, .expired, .notValidYet, .issuedAt, .id]

section
variable (hreadable : t.claims.IsReadable) (hunpacked : t.claims.body.toJson.isUnpacked = true)
include hreadable hunpacked

theorem mem_contentErrors_of_recognize
    (hsigned : IsSignature t.key t.algorithm t.message signature) (hkey : verifier.key = t.key)
    {e : TokenError}
    (h : verifier.recognize (String.ofList (t.message ++ '.' :: signature)) = .error e) :
    e ∈ contentErrors := by
  obtain ⟨members, claims, hspelled, hread, hcount, hclaims, -⟩ :=
    hreadable.exists_ofJson? hunpacked
  have hstandard := (Claims.ofJson?_obj_eq_ok_iff.1 hclaims).2
  have hnaming := (Naming.ofPayload?_eq_some_iff hstandard).2 ⟨fun name _ => hcount name, rfl⟩
  have hsplit := split?_message (t := t) hsigned.dot_not_mem
  have hheader := authenticate_message hsigned hkey
  have hcases := @acceptPayload_cases verifier.expectations _ _
    (decodeSegment_segment t.claims.toJson) _ hspelled _ _ hread hnaming
  rcases hcases with haccept | haccept | haccept
  · rw [recognize_of_ofJson?_eq_ok hsplit hheader haccept hclaims] at h
    cases h
  · rw [recognize_of_acceptPayload_eq_error hsplit hheader haccept] at h
    cases h
    decide
  · rw [recognize_of_acceptPayload_eq_error hsplit hheader haccept] at h
    cases h
    decide

theorem mem_contentErrors_of_parse
    (hsigned : IsSignature t.key t.algorithm t.message signature) (hkey : verifier.key = t.key)
    {now : Instant} {r : Rejection}
    (h : verifier.parse now (String.ofList (t.message ++ '.' :: signature)) = .error r) :
    r.error ∈ contentErrors := by
  obtain ⟨hrecognize | ⟨p, -, hcheck⟩, -⟩ := parse_eq_error_iff.1 h
  · exact mem_contentErrors_of_recognize hreadable hunpacked hsigned hkey hrecognize
  · exact List.mem_append_right [.issuer, .audience] (mem_of_checkClaims hcheck)

/-- Without the key the header and the registered claims are read as well. -/
theorem exists_unverified?_message (hdot : '.' ∉ signature) :
    ∃ p, ParsedToken.unverified? (String.ofList (t.message ++ '.' :: signature)) = some p
      ∧ p.header = Header.ofAlgorithm t.algorithm ∧ p.claims.standard = t.claims.standard := by
  obtain ⟨members, claims, -, hread, -, hclaims, hstandard⟩ := hreadable.exists_ofJson? hunpacked
  have hunverified := ParsedToken.unverified?_of_split? (split?_message hdot)
    (decodeSegment_segment _) (Header.read?_toJson _) (decodeSegment_segment _) hread hclaims
  exact ⟨_, hunverified, rfl, hstandard⟩

end

/-! ## Both together -/

/-- What a token of the HMAC family signs can be read if its payload nests at most 126 deep, its
floats are in range and nothing is packed in it: it is then read without the key, and with the key
only its parties, times and id can be refused. If the payload nests deeper or has other floats, what
is signed is malformed to everyone. -/
theorem create_readable_or_malformed {t : Token}
    (halgorithm : t.algorithm ∈ [Algorithm.hs256, .hs384, .hs512]) :
    ∃ signed, t.create = .ok signed
      ∧ (t.claims.IsReadable → t.claims.body.toJson.isUnpacked = true →
        (∃ p, ParsedToken.unverified? signed = some p ∧ p.header = ⟨t.algorithm, some "JWT"⟩
          ∧ p.claims.standard = t.claims.standard)
        ∧ ∀ (verifier : Token) (now : Instant) (r : Rejection), verifier.key = t.key →
          verifier.parse now signed = .error r → r.error ∈ contentErrors)
      ∧ (¬t.claims.IsReadable →
        ParsedToken.unverified? signed = none
        ∧ ∀ (verifier : Token) (now : Instant), verifier.key = t.key →
          verifier.parse now signed = .error ⟨.malformed "JSON error", none⟩) := by
  obtain ⟨signature, hsigned⟩ := exists_isSignature halgorithm t.key t.message
  refine ⟨_, create_eq_ok_iff.2 ⟨signature, hsigned, rfl⟩, fun hreadable hunpacked => ⟨?_, ?_⟩,
    fun hunreadable => ⟨?_, ?_⟩⟩
  · exact exists_unverified?_message hreadable hunpacked hsigned.dot_not_mem
  · intro verifier now r hkey hparse
    exact mem_contentErrors_of_parse hreadable hunpacked hsigned hkey hparse
  · exact unverified?_message_eq_none (Claims.read?_eq_none hunreadable) hsigned.dot_not_mem
  · intro verifier now hkey
    exact parse_message_of_read?_eq_none (Claims.read?_eq_none hunreadable) hsigned hkey now

/-- Arrays in one another, `n` around the innermost one. -/
def nestedArrays : Nat → Json
  | 0 => .arr []
  | n + 1 => .arr [nestedArrays n]

theorem depth_nestedArrays (n : Nat) : (nestedArrays n).depth = n + 1 := by
  induction n with
  | zero => rfl
  | succ n ih => simp [nestedArrays, Json.depth, Json.itemsDepth, ih]

theorem isCanonical_nestedArrays (n : Nat) : (nestedArrays n).IsCanonical := by
  induction n with
  | zero => trivial
  | succ n ih => exact ⟨ih, trivial⟩

theorem hasFloatsInRange_nestedArrays (n : Nat) : (nestedArrays n).hasFloatsInRange = true := by
  induction n with
  | zero => rfl
  | succ n ih =>
    simp [nestedArrays, Json.hasFloatsInRange, Json.haveItemsFloatsInRange, ih]

/-- A token whose payload is arrays in one another under a name. -/
def nested (n : Nat) : Token where
  key := sample.key
  key_ne_nil := sample.key_ne_nil
  algorithm := .hs256
  claims := {
    body := {
      members := [("a", nestedArrays n)]
      isCanonical := ⟨List.pairwise_singleton _ _, isCanonical_nestedArrays n, trivial⟩ }
    standard := { id := "x" } }
  expectations := {}

theorem isReadable_nested_iff {n : Nat} : (nested n).claims.IsReadable ↔ n ≤ 124 := by
  have hdepth : (nested n).claims.body.toJson.depth = n + 2 := by
    change max (nestedArrays n).depth 0 + 1 = n + 2
    rw [depth_nestedArrays, Nat.max_zero]
  have hfloats : (nested n).claims.body.toJson.hasFloatsInRange = true := by
    change ((nestedArrays n).hasFloatsInRange && true) = true
    rw [hasFloatsInRange_nestedArrays, Bool.and_true]
  constructor
  · intro h
    have := h.depth_le
    omega
  · intro h
    exact ⟨by omega, hfloats⟩

theorem isUnpacked_nestedArrays (n : Nat) : (nestedArrays n).isUnpacked = true := by
  induction n with
  | zero => rfl
  | succ n ih => simp [nestedArrays, Json.isUnpacked, Json.areItemsUnpacked, ih]

theorem create_readable_or_malformed_nested :
    (nested 124).algorithm ∈ [Algorithm.hs256, .hs384, .hs512]
      ∧ ∃ signed, (nested 124).create = .ok signed
        ∧ (∃ p, ParsedToken.unverified? signed = some p
          ∧ p.claims.standard = (nested 124).claims.standard)
        ∧ ∀ (verifier : Token) (now : Instant) (r : Rejection), verifier.key = sample.key →
          verifier.parse now signed = .error r → r.error ∈ contentErrors := by
  have halgorithm : (nested 124).algorithm ∈ [Algorithm.hs256, .hs384, .hs512] := by decide
  obtain ⟨signed, hcreate, hreadable, -⟩ := create_readable_or_malformed halgorithm
  have hunpacked : (nested 124).claims.body.toJson.isUnpacked = true := by
    change (true && ((nestedArrays 124).isUnpacked && true)) = true
    rw [isUnpacked_nestedArrays]
    rfl
  obtain ⟨⟨p, hp, -, hstandard⟩, hparse⟩ :=
    hreadable (isReadable_nested_iff.2 (Nat.le_refl _)) hunpacked
  exact ⟨halgorithm, signed, hcreate, ⟨p, hp, hstandard⟩, hparse⟩

/-- One level more, and what was signed is malformed to whoever has the key. -/
theorem nested_malformed :
    ∃ signed, (nested 125).create = .ok signed ∧ ParsedToken.unverified? signed = none
      ∧ ∀ (verifier : Token) (now : Instant), verifier.key = sample.key →
        verifier.parse now signed = .error ⟨.malformed "JSON error", none⟩ := by
  have hunreadable : ¬(nested 125).claims.IsReadable :=
    fun h => absurd (isReadable_nested_iff.1 h) (by decide)
  obtain ⟨signature, hsigned⟩ : ∃ signature,
      IsSignature (nested 125).key (nested 125).algorithm (nested 125).message signature :=
    exists_isSignature (by decide) _ _
  have hread := Claims.read?_eq_none hunreadable
  refine ⟨_, create_eq_ok_iff.2 ⟨signature, hsigned, rfl⟩,
    unverified?_message_eq_none hread hsigned.dot_not_mem, fun verifier now hkey => ?_⟩
  exact parse_message_of_read?_eq_none hread hsigned hkey now

/-! ## Contents -/

/-- Whoever accepts a signed text, with whatever key, gets what was signed. -/
theorem IsLegible.eq_of_parse {now : Instant} {p : ParsedToken} (h : t.IsLegible)
    (hdot : '.' ∉ signature)
    (hparse : verifier.parse now (String.ofList (t.message ++ '.' :: signature)) = .ok p) :
    p = {
      header := Header.ofAlgorithm t.algorithm
      claims := t.claims
      signature := String.ofList signature
      valid := true } := by
  -- under another key the signature may be good by chance, so only the segments are looked at
  obtain ⟨c, hc, ⟨hheader, -⟩, ⟨v, haccept, hclaims⟩, -, hsignature, hvalid⟩ :=
    check_eq_ok_iff.1 (parse_eq_ok_iff_check.1 hparse)
  rw [split?_message hdot] at hc
  cases hc
  dsimp only at hheader haccept hsignature
  obtain ⟨⟨bytes, hbytes, hread⟩, -⟩ := acceptPayload_eq_ok_iff.1 haccept
  obtain ⟨bytes', hbytes', hread'⟩ := h.spellsObject
  obtain rfl : bytes = bytes' := Except.ok.inj (hbytes.symm.trans hbytes')
  obtain rfl := Option.some.inj (hread.symm.trans hread')
  obtain ⟨header, claims, signature', valid⟩ := p
  rw [ParsedToken.mk.injEq]
  exact ⟨hheader.unique t.spelledBy_header,
    Except.ok.inj (hclaims.symm.trans h.ofJson?_eq), hsignature, hvalid⟩

/-- Whether it accepts or refuses what a token without floats and with nothing packed in its payload
signed, and whatever its key, every verifier shows what is in it; what is shown is valid just if it
is accepted. -/
theorem parse_shows_contents {t : Token}
    (halgorithm : t.algorithm ∈ [Algorithm.hs256, .hs384, .hs512])
    (hfree : t.claims.body.toJson.isFloatFree = true)
    (hdepth : t.claims.body.toJson.depth ≤ 126)
    (hunpacked : t.claims.body.toJson.isUnpacked = true) :
    ∃ message signature : List Char, '.' ∉ signature
      ∧ t.create = .ok (String.ofList (message ++ '.' :: signature))
      ∧ ∀ (verifier : Token) (now : Instant),
        verifier.parse now (String.ofList (message ++ '.' :: signature)) = .ok {
            header := ⟨t.algorithm, some "JWT"⟩
            claims := t.claims
            signature := String.ofList signature
            valid := true }
          ∨ ∃ error, verifier.parse now (String.ofList (message ++ '.' :: signature)) = .error {
            error
            handle := some {
              header := ⟨t.algorithm, some "JWT"⟩
              claims := t.claims
              signature := String.ofList signature
              valid := false } } := by
  have hlegible : t.IsLegible := ⟨hfree, hdepth, hunpacked⟩
  obtain ⟨signature, hsigned⟩ := exists_isSignature halgorithm t.key t.message
  refine ⟨t.message, signature, hsigned.dot_not_mem,
    create_eq_ok_iff.2 ⟨signature, hsigned, rfl⟩, fun verifier now => ?_⟩
  cases hparse : verifier.parse now (String.ofList (t.message ++ '.' :: signature)) with
  | ok p =>
    left
    rw [hlegible.eq_of_parse hsigned.dot_not_mem hparse]
    rfl
  | error r =>
    right
    have hhandle : r.handle = some {
        header := ⟨t.algorithm, some "JWT"⟩
        claims := t.claims
        signature := String.ofList signature
        valid := false } :=
      (parse_eq_error_iff.1 hparse).2.trans
        (hlegible.unverified?_message hsigned.dot_not_mem)
    refine ⟨r.error, ?_⟩
    rw [← hhandle]

theorem parse_shows_contents_sample :
    ∃ message signature : List Char,
      sample.create = .ok (String.ofList (message ++ '.' :: signature))
        ∧ (stranger.parse .latest (String.ofList (message ++ '.' :: signature)) = .ok {
            header := ⟨.hs384, some "JWT"⟩
            claims := sample.claims
            signature := String.ofList signature
            valid := true }
          ∨ ∃ error, stranger.parse .latest (String.ofList (message ++ '.' :: signature)) = .error {
            error
            handle := some {
              header := ⟨.hs384, some "JWT"⟩
              claims := sample.claims
              signature := String.ofList signature
              valid := false } }) := by
  obtain ⟨message, signature, -, hcreate, hparse⟩ :=
    parse_shows_contents (t := sample) (by decide) (by decide) (by decide) (by decide)
  exact ⟨message, signature, hcreate, hparse stranger .latest⟩

/-- The packed token has no floats and is not deep, but it is refused by every verifier, whatever
its key, and nothing is shown of it. -/
theorem packed_not_shown :
    packed.claims.body.toJson.isFloatFree = true ∧ packed.claims.body.toJson.depth ≤ 126
      ∧ ∃ signed, packed.create = .ok signed ∧ ∀ (verifier : Token) (now : Instant),
        ∃ error, verifier.parse now signed = .error ⟨error, none⟩ := by
  obtain ⟨signature, hsigned⟩ : ∃ signature, IsSignature packed.key packed.algorithm
      packed.message signature := exists_isSignature (by decide) packed.key packed.message
  have hcreate : packed.create = .ok _ := create_eq_ok_iff.2 ⟨signature, hsigned, rfl⟩
  refine ⟨by decide, by decide, _, hcreate, fun verifier now => ?_⟩
  cases hparse : verifier.parse now (String.ofList (packed.message ++ '.' :: signature)) with
  | ok p =>
    -- whoever accepts a text has read its payload
    obtain ⟨hrecognize, -⟩ := parse_eq_ok_iff_recognize.1 hparse
    obtain ⟨_, members, -, -, ⟨bytes, hbytes, hread⟩, -⟩ :=
      exists_writesValue_of_recognize hcreate hrecognize
    rw [decodeSegment_segment] at hbytes
    cases hbytes
    rw [read?_packed] at hread
    cases hread
  | error r =>
    have hhandle := (parse_eq_error_iff.1 hparse).2
    rw [unverified?_message_eq_none read?_packed hsigned.dot_not_mem] at hhandle
    exact ⟨r.error, by rw [← hhandle]⟩

end Token

end SignedToken
