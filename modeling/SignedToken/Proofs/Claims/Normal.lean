import SignedToken.Proofs.Claims.Grammar

/-!
# Claims in normal form

Reading undoes writing, and writing what was read puts an object into normal form: the payload is
there, and of all other members just the registered claims that are set. Other names count for
nothing.
-/

namespace SignedToken

open Json (Object last?)

namespace Claims

def knownNames : List String := "body" :: registeredNames

/-! ## The normal form -/

/-- The values of a claim that is unset. -/
def isUnset : Json → Bool
  | .str s => s == ""
  | .int n => n.val == 0
  | _ => false

def isSet (m : String × Json) : Bool := registeredNames.contains m.1 && !isUnset m.2

/-- The payload of an object; missing or null it is the empty object. -/
def payload (o : Object) : Json :=
  match o.get? "body" with
  | none | some .null => .obj []
  | some v => v

/-- The payload and the registered claims that are set. -/
def normal (o : Object) : Object := .ofMembers (("body", payload o) :: o.members.filter isSet)

theorem get?_normal (o : Object) (k : String) :
    (normal o).get? k = if k = "body" then some (payload o).canonical
      else (o.get? k).filter fun v => isSet (k, v) := by
  have hset : last? k (o.members.filter isSet) = (o.get? k).filter fun v => isSet (k, v) := by
    rw [Json.last?_eq_lookup (o.isCanonical.1.filter _), Json.lookup_filter o.isCanonical.1]
    rfl
  rw [normal, Object.get?_ofMembers, last?, hset]
  by_cases hk : k = "body"
  · subst hk
    have hnone : (o.get? "body").filter (fun v => isSet ("body", v)) = none :=
      Option.filter_eq_none_iff.2 fun _ _ => by simp [isSet, registeredNames]
    simp [hnone]
  · rw [if_neg hk, if_neg (Ne.symm hk), Option.or_none, Object.map_canonical_filter_get?]

/-! ## What was read, written -/

section
variable {o : Object} {name : String}

/-- The payload that is read is the one that is there, or there is none. -/
theorem bodyClaim_cases {b : Object} (hunpacked : PayloadUnpacked o) (h : bodyClaim o = .ok b) :
    (o.get? "body" = none ∨ o.get? "body" = some .null) ∧ b = .empty
      ∨ o.get? "body" = some b.toJson := by
  rw [bodyClaim] at h
  cases hv : o.get? "body" with
  | none =>
    rw [hv] at h
    cases h
    exact .inl ⟨.inl rfl, rfl⟩
  | some v =>
    rw [hv] at h
    cases v with
    | null =>
      cases h
      exact .inl ⟨.inr rfl, rfl⟩
    | obj members =>
      dsimp only at h
      rw [Json.asMembers?_of_areMembersUnpacked members (hunpacked members hv)] at h
      cases h
      have hcanonical := Object.isCanonical_of_get? hv
      exact .inr (congrArg some (Json.canonical_of_isCanonical _ hcanonical).symm)
    | _ => cases h

theorem payload_eq_of_bodyClaim {b : Object} (hunpacked : PayloadUnpacked o)
    (h : bodyClaim o = .ok b) : payload o = b.toJson := by
  rw [payload]
  rcases bodyClaim_cases hunpacked h with ⟨hnone | hnull, rfl⟩ | hbody
  · rw [hnone]
    rfl
  · rw [hnull]
    rfl
  · rw [hbody]
    rfl

theorem areMembersUnpacked_of_bodyClaim {b : Object} (hunpacked : PayloadUnpacked o)
    (h : bodyClaim o = .ok b) : Json.areMembersUnpacked b.members = true := by
  rcases bodyClaim_cases hunpacked h with ⟨-, rfl⟩ | hbody
  · rfl
  · exact hunpacked b.members hbody

theorem isUnset_str (s : String) : isUnset (.str s) = decide (s = "") := rfl

theorem isUnset_ofInt64 (n : Int64) : isUnset (.ofInt64 n) = decide (n = 0) := by
  have hzero : n.toInt = 0 ↔ n = 0 := Int64.toInt_inj (y := 0)
  by_cases hn : n = 0 <;> simp [isUnset, Json.ofInt64, hzero, hn]

/-- A registered claim that is spelled is kept unless it is unset. -/
theorem filter_of_spelled {α : Type} [DecidableEq α] {write : α → Json} {unset value : α}
    (hunset : ∀ a, isUnset (write a) = decide (a = unset)) (hname : name ∈ registeredNames)
    (h : last? name o.members = some (write value)
      ∨ last? name o.members = none ∧ value = unset) :
    (o.get? name).filter (fun v => isSet (name, v))
      = if value ≠ unset then some (write value) else none := by
  rw [o.last?_members] at h
  rcases h with h | ⟨h, rfl⟩
  · by_cases hv : value = unset <;> simp [h, Option.filter_some, isSet, hunset, hname, hv]
  · simp [h]

end

/-- The registered claims that are written are those of the object that are set. -/
theorem last?_members_of_spelledBy {o : Object} {c : StandardClaims} (h : c.SpelledBy o.members)
    (b : Json) {name : String} (hname : name ≠ "body") :
    last? name (("body", b) :: c.members) = (o.get? name).filter fun v => isSet (name, v) := by
  by_cases hregistered : name ∈ registeredNames
  · have hcases := hregistered
    simp only [registeredNames, List.mem_cons, List.not_mem_nil, or_false] at hcases
    rcases hcases with rfl | rfl | rfl | rfl | rfl | rfl | rfl
    · rw [filter_of_spelled isUnset_str hregistered h.audience]
      simp [StandardClaims.members, last?]
    · rw [filter_of_spelled isUnset_ofInt64 hregistered h.expiresAt]
      simp [StandardClaims.members, last?]
    · rw [filter_of_spelled isUnset_str hregistered h.id]
      simp [StandardClaims.members, last?]
    · rw [filter_of_spelled isUnset_ofInt64 hregistered h.issuedAt]
      simp [StandardClaims.members, last?]
    · rw [filter_of_spelled isUnset_str hregistered h.issuer]
      simp [StandardClaims.members, last?]
    · rw [filter_of_spelled isUnset_ofInt64 hregistered h.notBefore]
      simp [StandardClaims.members, last?]
    · rw [filter_of_spelled isUnset_str hregistered h.subject]
      simp [StandardClaims.members, last?]
  · have hset : (o.get? name).filter (fun v => isSet (name, v)) = none :=
      Option.filter_eq_none_iff.2 fun _ _ => by simp [isSet, hregistered]
    rw [hset, Json.last?_eq_none_iff]
    rintro m hm rfl
    rcases List.mem_cons.1 hm with rfl | hm
    · exact hname rfl
    · exact hregistered (c.names_members_sublist.subset (List.mem_map_of_mem hm))

theorem ofMembers_eq_normal {o : Object} {c : Claims} (hunpacked : PayloadUnpacked o)
    (h : ofObject? o = .ok c) :
    Object.ofMembers (("body", c.body.toJson) :: c.standard.members) = normal o := by
  rw [← o.ofMembers_members, ofObject?_eq_ok_iff, o.ofMembers_members] at h
  refine Object.eq_of_get? fun name => ?_
  rw [Object.get?_ofMembers, get?_normal]
  by_cases hname : name = "body"
  · rw [if_pos hname, hname, StandardClaims.last?_body, payload_eq_of_bodyClaim hunpacked h.1,
      Option.map_some]
  · rw [if_neg hname, last?_members_of_spelledBy h.2 c.body.toJson hname,
      Object.map_canonical_filter_get?]

/-! ## Other names -/

theorem ofObject?_congr {o o' : Object} (h : ∀ name ∈ knownNames, o.get? name = o'.get? name) :
    ofObject? o = ofObject? o' := by
  simp only [knownNames, registeredNames, List.forall_mem_cons] at h
  obtain ⟨hbody, haud, hexp, hjti, hiat, hiss, hnbf, hsub, -⟩ := h
  simp only [ofObject?, standardOfObject?, bodyClaim, textClaim, timeClaim, hbody, haud, hexp, hjti,
    hiat, hiss, hnbf, hsub]

/-! ## Values -/

theorem ofJson?_object (o : Object) :
    ofJson? o.toJson = (ofObject? o).mapError .mismatch := by
  rw [Object.toJson, ofJson?_obj, o.ofMembers_members]

theorem canonical_toJson (c : Claims) :
    c.toJson.canonical
      = (Object.ofMembers (("body", c.body.toJson) :: c.standard.members)).toJson :=
  rfl

theorem ofJson?_canonical_toJson {c : Claims}
    (hunpacked : Json.areMembersUnpacked c.body.members = true) :
    ofJson? c.toJson.canonical = .ok c := by
  rw [canonical_toJson, ofJson?_object, ← ofJson?_obj]
  exact ofJson?_toJson hunpacked

/-- Claims with nothing packed in the entries of their payload are read back from the object they
are written as. What is read from an object with nothing packed there is written as its normal form,
which is read as the same claims. What is read from any object depends on the known names alone. -/
theorem ofJson?_normal (c : Claims) (o : Object) :
    (Json.areMembersUnpacked c.body.members = true → ofJson? c.toJson.canonical = .ok c)
      ∧ (∀ c' : Claims, PayloadUnpacked o → ofJson? o.toJson = .ok c' →
        c'.toJson.canonical = (normal o).toJson ∧ ofJson? (normal o).toJson = .ok c')
      ∧ ∀ o' : Object, (∀ name ∈ knownNames, o.get? name = o'.get? name) →
        ofJson? o.toJson = ofJson? o'.toJson := by
  refine ⟨ofJson?_canonical_toJson, fun c' hunpacked h => ?_, fun o' h => ?_⟩
  · rw [ofJson?_object, Outcome.mapError_eq_ok] at h
    have hwritten : c'.toJson.canonical = (normal o).toJson := by
      rw [canonical_toJson, ofMembers_eq_normal hunpacked h]
    rw [← o.ofMembers_members, ofObject?_eq_ok_iff, o.ofMembers_members] at h
    exact ⟨hwritten,
      hwritten ▸ ofJson?_canonical_toJson (areMembersUnpacked_of_bodyClaim hunpacked h.1)⟩
  · rw [ofJson?_object, ofJson?_object, ofObject?_congr h]

/-- An object whose payload is null, with two claims that are unset and a stray name. -/
def overfull : Object :=
  .ofMembers [("body", .null), ("aud", .str ""), ("exp", .ofInt64 0), ("sub", .str "x"),
    ("a", .arr [])]

theorem ofJson?_normal_overfull :
    ∃ c, ofJson? overfull.toJson = .ok c
      ∧ c.toJson.canonical = .obj [("body", .obj []), ("sub", .str "x")]
      ∧ ofJson? (.obj [("body", .obj []), ("sub", .str "x")]) = .ok c
      ∧ ofJson? overfull.toJson = ofJson? (overfull.insert "b" .null).toJson := by
  have hread : ofJson? overfull.toJson = .ok { standard.subject := "x" } := rfl
  have hnormal : (normal overfull).toJson = .obj [("body", .obj []), ("sub", .str "x")] := rfl
  have hother : ∀ name ∈ knownNames,
      overfull.get? name = (overfull.insert "b" .null).get? name := by
    simp [knownNames, registeredNames, Object.get?_insert]
  have hunpacked : PayloadUnpacked overfull := by
    intro entries hentries
    simp [overfull, Object.get?_ofMembers, last?, Json.canonical] at hentries
  obtain ⟨-, hread', hother'⟩ := ofJson?_normal {} overfull
  obtain ⟨hwritten, hreread⟩ := hread' _ hunpacked hread
  rw [hnormal] at hwritten hreread
  exact ⟨_, hread, hwritten, hreread, hother' _ hother⟩

/-- Claims whose payload has an entry that is packed, with another member behind its text. -/
def overpacked : Claims where
  body := .ofMembers [("a", .obj [(Json.packedName, .str "1"), ("b", .ofInt64 1)])]

/-- They are written, but not read back. -/
theorem overpacked_refused :
    ofJson? overpacked.toJson.canonical = .error (.mismatch (.length 2)) :=
  rfl

end Claims

end SignedToken
