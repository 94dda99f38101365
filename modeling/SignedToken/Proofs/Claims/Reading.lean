import SignedToken.Claims.Reading
import SignedToken.Proofs.Json.Canonical
import SignedToken.Proofs.Json.Reread
import SignedToken.Proofs.Outcome

/-!
# What claims are read as

The claims that the members of an object spell, and just when they spell any. Claims that were
written are read back, the registered ones even if the payload has floats.
-/

namespace SignedToken

open Json (last?)

variable {members : List (String × Json)}

/-! ## Registered claims -/

/-- The last member called `name` is the text, or there is none and the text is empty. -/
def SpellsText (members : List (String × Json)) (name value : String) : Prop :=
  last? name members = some (.str value) ∨ last? name members = none ∧ value = ""

/-- The last member called `name` is the number, or there is none and the number is 0. -/
def SpellsTime (members : List (String × Json)) (name : String) (value : Int64) : Prop :=
  last? name members = some (.ofInt64 value) ∨ last? name members = none ∧ value = 0

structure StandardClaims.SpelledBy (members : List (String × Json)) (c : StandardClaims) : Prop where
  audience : SpellsText members "aud" c.audience
  expiresAt : SpellsTime members "exp" c.expiresAt
  issuedAt : SpellsTime members "iat" c.issuedAt
  issuer : SpellsText members "iss" c.issuer
  id : SpellsText members "jti" c.id
  notBefore : SpellsTime members "nbf" c.notBefore
  subject : SpellsText members "sub" c.subject

/-- What is there or else unset cannot be two things. -/
theorem eq_of_spelled {α : Type} {write : α → Json} (hwrite : ∀ a b, write a = write b → a = b)
    {o : Option Json} {a b unset : α} (ha : o = some (write a) ∨ o = none ∧ a = unset)
    (hb : o = some (write b) ∨ o = none ∧ b = unset) : a = b := by
  rcases ha with ha | ⟨hnone, rfl⟩
  · rcases hb with hb | ⟨hnone, -⟩
    · exact hwrite a b (Option.some.inj (ha.symm.trans hb))
    · cases ha.symm.trans hnone
  · rcases hb with hb | ⟨-, rfl⟩
    · cases hb.symm.trans hnone
    · rfl

theorem SpellsText.unique {name value value' : String} (h : SpellsText members name value)
    (h' : SpellsText members name value') : value = value' :=
  eq_of_spelled (fun _ _ => Json.str.inj) h h'

theorem SpellsTime.unique {name : String} {value value' : Int64}
    (h : SpellsTime members name value) (h' : SpellsTime members name value') : value = value' := by
  refine eq_of_spelled (fun m n hmn => ?_) h h'
  rw [Json.ofInt64, Json.ofInt64, Json.int.injEq, Json.Integer.mk.injEq] at hmn
  exact Int64.toInt_inj.1 hmn

/-- Members spell one set of registered claims at most. -/
theorem StandardClaims.SpelledBy.unique {c c' : StandardClaims} (h : c.SpelledBy members)
    (h' : c'.SpelledBy members) : c = c' := by
  have haudience := h.audience.unique h'.audience
  have hexpiresAt := h.expiresAt.unique h'.expiresAt
  have hid := h.id.unique h'.id
  have hissuedAt := h.issuedAt.unique h'.issuedAt
  have hissuer := h.issuer.unique h'.issuer
  have hnotBefore := h.notBefore.unique h'.notBefore
  have hsubject := h.subject.unique h'.subject
  cases c
  cases c'
  rw [StandardClaims.mk.injEq]
  exact ⟨haudience, hexpiresAt, hid, hissuedAt, hissuer, hnotBefore, hsubject⟩

theorem Json.asText?_canonical_eq_ok_iff {v : Json} {s : String} :
    v.canonical.asText? = .ok s ↔ v = .str s := by
  cases v <;> simp [canonical, asText?]

theorem Json.asInt64?_eq_ok_iff {v : Json} {n : Int64} : v.asInt64? = .ok n ↔ v = .ofInt64 n := by
  cases v with
  | int i =>
    simp only [asInt64?, Json.ofInt64]
    constructor
    · intro h
      split at h
      · rename_i hi
        cases h
        obtain ⟨i, hl, hg⟩ := i
        have : (Int64.ofInt i).toInt = i := Int64.toInt_ofInt_of_le hl (by simpa using hi)
        simp only [this]
      · cases h
    · intro h
      cases h
      have hlt : n.toInt < 9223372036854775808 := Int64.toInt_lt n
      simp only [hlt, if_true, Int64.ofInt_toInt]
  | _ => simp [asInt64?, Json.ofInt64]

theorem Json.asInt64?_canonical_eq_ok_iff {v : Json} {n : Int64} :
    v.canonical.asInt64? = .ok n ↔ v = .ofInt64 n := by
  rw [asInt64?_eq_ok_iff]
  cases v <;> simp [canonical, Json.ofInt64]

namespace Claims

theorem textClaim_eq_ok_iff {name value : String} :
    textClaim (.ofMembers members) name = .ok value ↔ SpellsText members name value := by
  rw [textClaim, Json.Object.get?_ofMembers, SpellsText]
  cases last? name members with
  | none => simp [eq_comm]
  | some v => simp [Json.asText?_canonical_eq_ok_iff]

theorem timeClaim_eq_ok_iff {name : String} {value : Int64} :
    timeClaim (.ofMembers members) name = .ok value ↔ SpellsTime members name value := by
  rw [timeClaim, Json.Object.get?_ofMembers, SpellsTime]
  cases last? name members with
  | none => simp [eq_comm]
  | some v => simp [Json.asInt64?_canonical_eq_ok_iff]

theorem standardOfObject?_eq_ok_iff {c : StandardClaims} :
    standardOfObject? (.ofMembers members) = .ok c ↔ c.SpelledBy members := by
  constructor
  · intro h
    unfold standardOfObject? at h
    obtain ⟨audience, haud, h⟩ := Outcome.bind_eq_ok.1 h
    obtain ⟨expiresAt, hexp, h⟩ := Outcome.bind_eq_ok.1 h
    obtain ⟨issuedAt, hiat, h⟩ := Outcome.bind_eq_ok.1 h
    obtain ⟨issuer, hiss, h⟩ := Outcome.bind_eq_ok.1 h
    obtain ⟨id, hjti, h⟩ := Outcome.bind_eq_ok.1 h
    obtain ⟨notBefore, hnbf, h⟩ := Outcome.bind_eq_ok.1 h
    obtain ⟨subject, hsub, h⟩ := Outcome.bind_eq_ok.1 h
    cases h
    exact {
      audience := textClaim_eq_ok_iff.1 haud
      expiresAt := timeClaim_eq_ok_iff.1 hexp
      issuedAt := timeClaim_eq_ok_iff.1 hiat
      issuer := textClaim_eq_ok_iff.1 hiss
      id := textClaim_eq_ok_iff.1 hjti
      notBefore := timeClaim_eq_ok_iff.1 hnbf
      subject := textClaim_eq_ok_iff.1 hsub }
  · intro h
    rw [standardOfObject?, textClaim_eq_ok_iff.2 h.audience, timeClaim_eq_ok_iff.2 h.expiresAt,
      timeClaim_eq_ok_iff.2 h.issuedAt, textClaim_eq_ok_iff.2 h.issuer,
      textClaim_eq_ok_iff.2 h.id, timeClaim_eq_ok_iff.2 h.notBefore,
      textClaim_eq_ok_iff.2 h.subject]
    rfl

theorem ofObject?_eq_ok_iff {c : Claims} :
    ofObject? (.ofMembers members) = .ok c ↔
      bodyClaim (.ofMembers members) = .ok c.body ∧ c.standard.SpelledBy members := by
  rw [← standardOfObject?_eq_ok_iff]
  constructor
  · intro h
    unfold ofObject? at h
    obtain ⟨body, hbody, h⟩ := Outcome.bind_eq_ok.1 h
    obtain ⟨standard, hstandard, h⟩ := Outcome.bind_eq_ok.1 h
    cases h
    exact ⟨hbody, hstandard⟩
  · rintro ⟨hbody, hstandard⟩
    rw [ofObject?, hbody, hstandard]
    rfl

theorem ofJson?_obj_eq_ok_iff {c : Claims} :
    ofJson? (.obj members) = .ok c ↔
      bodyClaim (.ofMembers members) = .ok c.body ∧ c.standard.SpelledBy members := by
  rw [← ofObject?_eq_ok_iff, ofJson?]
  split
  · rename_i h
    rw [h]
    simp
  · rename_i h
    rw [h]
    simp

theorem exists_obj_of_ofJson? {v : Json} {c : Claims} (h : ofJson? v = .ok c) :
    ∃ members, v = .obj members := by
  cases v with
  | obj members => exact ⟨members, rfl⟩
  | _ => cases h

end Claims

/-! ## Written claims -/

namespace StandardClaims

open Json

@[simp] theorem last?_textMember (k name value : String) :
    last? k (textMember name value)
      = if value ≠ "" ∧ name = k then some (.str value) else none := by
  by_cases hv : value = "" <;> simp [textMember, last?, hv]

@[simp] theorem last?_timeMember (k name : String) (value : Int64) :
    last? k (timeMember name value)
      = if value ≠ 0 ∧ name = k then some (.ofInt64 value) else none := by
  by_cases hv : value = 0 <;> simp [timeMember, last?, hv]

theorem spelledBy_members (b : Json) (c : StandardClaims) :
    c.SpelledBy (("body", b) :: c.members) := by
  have htext (name value : String) (h : last? name (("body", b) :: c.members)
      = if value ≠ "" then some (.str value) else none) :
      SpellsText (("body", b) :: c.members) name value := by
    by_cases hv : value = "" <;> simp [SpellsText, h, hv]
  have htime (name : String) (value : Int64) (h : last? name (("body", b) :: c.members)
      = if value ≠ 0 then some (.ofInt64 value) else none) :
      SpellsTime (("body", b) :: c.members) name value := by
    by_cases hv : value = 0 <;> simp [SpellsTime, h, hv]
  exact {
    audience := htext _ _ (by simp [members, last?])
    expiresAt := htime _ _ (by simp [members, last?])
    issuedAt := htime _ _ (by simp [members, last?])
    issuer := htext _ _ (by simp [members, last?])
    id := htext _ _ (by simp [members, last?])
    notBefore := htime _ _ (by simp [members, last?])
    subject := htext _ _ (by simp [members, last?]) }

theorem names_members_sublist (c : StandardClaims) :
    (c.members.map Prod.fst).Sublist Claims.registeredNames := by
  have htext (name value : String) : ((textMember name value).map Prod.fst).Sublist [name] := by
    by_cases hv : value = "" <;> simp [textMember, hv]
  have htime (name : String) (value : Int64) :
      ((timeMember name value).map Prod.fst).Sublist [name] := by
    by_cases hv : value = 0 <;> simp [timeMember, hv]
  simp only [members, List.map_append]
  exact (((((((htext _ _).append (htime _ _)).append (htext _ _)).append (htime _ _)).append
    (htext _ _)).append (htime _ _)).append (htext _ _))

theorem countP_members_le_one (b : Json) (c : StandardClaims) (name : String) :
    (("body", b) :: c.members).countP (·.1 == name) ≤ 1 := by
  have hsub : ((("body", b) :: c.members).map Prod.fst).Sublist
      ("body" :: Claims.registeredNames) := c.names_members_sublist.cons_cons "body"
  have hnodup : ("body" :: Claims.registeredNames).Nodup := by decide
  exact countP_le_one_of_nodup (hnodup.sublist hsub) name

theorem last?_iss (b : Json) (c : StandardClaims) :
    last? "iss" (("body", b) :: c.members)
      = if c.issuer ≠ "" then some (.str c.issuer) else none := by
  simp [members, last?]

theorem last?_aud (b : Json) (c : StandardClaims) :
    last? "aud" (("body", b) :: c.members)
      = if c.audience ≠ "" then some (.str c.audience) else none := by
  simp [members, last?]

theorem last?_body (b : Json) (c : StandardClaims) :
    last? "body" (("body", b) :: c.members) = some b := by
  simp [members, last?]

theorem eq_str_or_int_of_mem_members {c : StandardClaims} {m : String × Json} (h : m ∈ c.members) :
    (∃ s, m.2 = .str s) ∨ ∃ n, m.2 = .int n := by
  have htext {name value : String} (h : m ∈ textMember name value) :
      (∃ s, m.2 = .str s) ∨ ∃ n, m.2 = .int n := by
    by_cases hv : value = "" <;> simp [textMember, hv] at h
    rw [h]
    exact .inl ⟨value, rfl⟩
  have htime {name : String} {value : Int64} (h : m ∈ timeMember name value) :
      (∃ s, m.2 = .str s) ∨ ∃ n, m.2 = .int n := by
    by_cases hv : value = 0 <;> simp [timeMember, hv] at h
    rw [h]
    exact .inr ⟨_, rfl⟩
  simp only [members, List.mem_append] at h
  rcases h with (((((h | h) | h) | h) | h) | h) | h
  · exact htext h
  · exact htime h
  · exact htext h
  · exact htime h
  · exact htext h
  · exact htime h
  · exact htext h

theorem isScalar_of_mem_members {c : StandardClaims} {m : String × Json} (h : m ∈ c.members) :
    m.2.depth = 0 ∧ m.2.isFloatFree = true := by
  rcases eq_str_or_int_of_mem_members h with ⟨s, hs⟩ | ⟨n, hn⟩
  · rw [hs]
    exact ⟨rfl, rfl⟩
  · rw [hn]
    exact ⟨rfl, rfl⟩

theorem exists_obj_of_withoutFloats {v : Json} {ms : List (String × Json)}
    (h : v.withoutFloats = .obj ms) : ∃ members, v = .obj members := by
  cases v with
  | obj members => exact ⟨members, rfl⟩
  | _ => cases h

theorem eq_of_withoutFloats {v w : Json} (hw : (∃ s, w = .str s) ∨ ∃ n, w = .int n)
    (h : v.withoutFloats = w) : v = w := by
  rcases hw with ⟨s, rfl⟩ | ⟨n, rfl⟩ <;> cases v <;> cases h <;> rfl

theorem members_withoutFloats (c : StandardClaims) :
    c.members.map memberWithoutFloats = c.members := by
  refine (List.map_congr_left fun m hm => ?_).trans (List.map_id _)
  obtain ⟨k, v⟩ := m
  rcases eq_str_or_int_of_mem_members hm with ⟨s, rfl⟩ | ⟨n, rfl⟩
  · rfl
  · rfl

/-- No other members look like the registered claims up to their floats. -/
theorem eq_members_of_withoutFloats {c : StandardClaims} {ms : List (String × Json)}
    (h : ms.map memberWithoutFloats = c.members) : ms = c.members := by
  rw [← h]
  refine ((List.map_congr_left fun m hm => ?_).trans (List.map_id _)).symm
  have hmem : memberWithoutFloats m ∈ c.members := by
    rw [← h]
    exact List.mem_map_of_mem hm
  have hv : m.2 = m.2.withoutFloats :=
    eq_of_withoutFloats (eq_str_or_int_of_mem_members hmem) rfl
  rw [memberWithoutFloats, ← hv, id_eq]

end StandardClaims

namespace Claims

open Json

theorem bodyClaim_of_last? {ms members : List (String × Json)}
    (h : last? "body" ms = some (.obj members)) (hcanonical : (Json.obj members).IsCanonical)
    (hunpacked : areMembersUnpacked members = true) :
    bodyClaim (.ofMembers ms) = .ok ⟨members, hcanonical⟩ := by
  rw [bodyClaim, Object.get?_ofMembers, h, Option.map_some,
    canonical_of_isCanonical _ hcanonical]
  dsimp only
  rw [asMembers?_of_areMembersUnpacked members hunpacked]
  exact congrArg Except.ok (Object.ofMembers_members ⟨members, hcanonical⟩)

/-- Written claims are read from a value as they are if nothing is packed in the entries of the
payload. -/
theorem ofJson?_toJson {c : Claims} (hunpacked : areMembersUnpacked c.body.members = true) :
    ofJson? c.toJson = .ok c := by
  rw [toJson, ofJson?_obj_eq_ok_iff]
  exact ⟨bodyClaim_of_last? (StandardClaims.last?_body _ _) c.body.isCanonical hunpacked,
    StandardClaims.spelledBy_members _ _⟩

theorem depth_toJson_le_iff {c : Claims} {n : Nat} :
    c.toJson.depth ≤ n + 1 ↔ c.body.toJson.depth ≤ n := by
  rw [toJson, depth, Nat.add_le_add_iff_right, membersDepth_le_iff, List.forall_mem_cons]
  refine ⟨And.left, fun h => ⟨h, fun m hm => ?_⟩⟩
  rw [(StandardClaims.isScalar_of_mem_members hm).1]
  exact Nat.zero_le n

theorem isFloatFree_toJson (c : Claims) : c.toJson.isFloatFree = c.body.toJson.isFloatFree := by
  have h : areMembersFloatFree c.standard.members = true :=
    areMembersFloatFree_iff.2 fun m hm => (StandardClaims.isScalar_of_mem_members hm).2
  rw [toJson, isFloatFree, areMembersFloatFree, h, Bool.and_true]

theorem hasFloatsInRange_toJson (c : Claims) :
    c.toJson.hasFloatsInRange = c.body.toJson.hasFloatsInRange := by
  have h : haveMembersFloatsInRange c.standard.members = true := by
    refine haveMembersFloatsInRange_iff.2 fun m hm => ?_
    rcases StandardClaims.eq_str_or_int_of_mem_members hm with ⟨s, hs⟩ | ⟨n, hn⟩
    · rw [hs]
      rfl
    · rw [hn]
      rfl
  rw [toJson, hasFloatsInRange, haveMembersFloatsInRange, h, Bool.and_true]

/-- Written claims spell a value just if the payload is not too deep and its floats are in range. -/
theorem exists_spelled?_toJson_iff {c : Claims} :
    (∃ v, Json.spelled? (Utf8.encode c.toJson.chars) = some v)
      ↔ c.body.toJson.depth ≤ 126 ∧ c.body.toJson.hasFloatsInRange = true := by
  have hdepth : c.toJson.depth ≤ maxDepth ↔ c.body.toJson.depth ≤ 126 := depth_toJson_le_iff
  rw [exists_spelled?_chars_iff, hasFloatsInRange_toJson, hdepth]

/-- Whatever value written claims spell, the registered ones are those that were written. -/
theorem exists_members_of_spelled? {c : Claims} {v : Json}
    (h : Json.spelled? (Utf8.encode c.toJson.chars) = some v) :
    ∃ ms, v = .obj (("body", .obj ms) :: c.standard.members)
      ∧ (Json.obj ms).withoutFloats = c.body.toJson.withoutFloats := by
  have hv := withoutFloats_of_spelled? h
  rw [toJson, withoutFloats, membersWithoutFloats_eq_map, List.map_cons,
    c.standard.members_withoutFloats] at hv
  cases v with
  | obj ms =>
    rw [withoutFloats, membersWithoutFloats_eq_map, Json.obj.injEq] at hv
    obtain ⟨⟨k, b⟩, ms, rfl, hm, hms⟩ := List.map_eq_cons_iff.1 hv
    obtain ⟨rfl, hb⟩ := Prod.mk.inj hm
    obtain ⟨members, rfl⟩ := StandardClaims.exists_obj_of_withoutFloats hb
    rw [StandardClaims.eq_members_of_withoutFloats hms]
    exact ⟨members, rfl, hb⟩
  | _ => cases hv

theorem areMembersUnpacked_members (c : StandardClaims) :
    areMembersUnpacked c.members = true := by
  refine areMembersUnpacked_iff.2 fun m hm => ?_
  rcases StandardClaims.eq_str_or_int_of_mem_members hm with ⟨s, hs⟩ | ⟨n, hn⟩
  · rw [hs]
    rfl
  · rw [hn]
    rfl

theorem isUnpacked_toJson (c : Claims) : c.toJson.isUnpacked = c.body.toJson.isUnpacked := by
  rw [toJson, isUnpacked, areMembersUnpacked, areMembersUnpacked_members, Bool.and_true]
  exact Bool.true_and _

/-- Nothing is packed in written claims but in the payload. -/
theorem unpack?_members (b : Json) (c : StandardClaims) :
    unpack? (.obj (("body", b) :: c.members))
      = (unpack? b).map fun b' => .obj (("body", b') :: c.members) := by
  have hmembers := unpackMembersWith_of_areMembersUnpacked Json.read? c.members
    (areMembersUnpacked_members c)
  have hpacked : packed? (("body", b) :: c.members) = none := rfl
  rw [unpack?_obj hpacked, unpackMembers?, unpackMembersWith, hmembers, ← unpack?]
  cases unpack? b <;> rfl

/-- Whatever written claims are read as, the registered ones are those that were written. -/
theorem exists_members_of_read? {c : Claims} {v : Json}
    (h : Json.read? (Utf8.encode c.toJson.chars) = some v) :
    ∃ b, v = .obj (("body", b) :: c.standard.members) := by
  obtain ⟨w, hspelled, hunpack⟩ := read?_eq_some_iff.1 h
  obtain ⟨ms, rfl, -⟩ := exists_members_of_spelled? hspelled
  rw [unpack?_members] at hunpack
  obtain ⟨b, -, rfl⟩ := Option.map_eq_some_iff.1 hunpack
  exact ⟨b, rfl⟩

theorem read?_toJson_eq_none {c : Claims} (hfree : c.body.toJson.isFloatFree = true)
    (hdepth : c.body.toJson.depth ≤ 126) (hnone : unpack? c.body.toJson = none) :
    Json.read? (Utf8.encode c.toJson.chars) = none := by
  have hspelled : Json.spelled? (Utf8.encode c.toJson.chars) = some c.toJson :=
    spelled?_chars ((isFloatFree_toJson c).trans hfree) (depth_toJson_le_iff.2 hdepth)
  rw [read?_eq, hspelled, Option.bind_some, toJson, unpack?_members, hnone, Option.map_none]

/-- Written claims that spell a value in which nothing is packed have the shape of claims. -/
theorem exists_ofJson?_of_spelled? {c : Claims} {v : Json}
    (h : Json.spelled? (Utf8.encode c.toJson.chars) = some v)
    (hunpacked : c.body.toJson.isUnpacked = true) :
    ∃ members read, v = .obj members ∧ (∀ name, members.countP (·.1 == name) ≤ 1)
      ∧ ofJson? (.obj members) = .ok read ∧ read.standard = c.standard := by
  obtain ⟨ms, rfl, hms⟩ := exists_members_of_spelled? h
  have hcanonical : (Json.obj ms).IsCanonical := by
    rw [← isCanonical_withoutFloats_iff, hms, isCanonical_withoutFloats_iff]
    exact c.body.isCanonical
  have hmembers : areMembersUnpacked ms = true := by
    rw [← isUnpacked_withoutFloats, ← hms, isUnpacked_withoutFloats, isUnpacked,
      Bool.and_eq_true] at hunpacked
    exact hunpacked.2
  exact ⟨_, ⟨⟨ms, hcanonical⟩, c.standard⟩, rfl, c.standard.countP_members_le_one _,
    ofJson?_obj_eq_ok_iff.2 ⟨bodyClaim_of_last? (StandardClaims.last?_body _ _) hcanonical hmembers,
      c.standard.spelledBy_members _⟩, rfl⟩

end Claims

end SignedToken
