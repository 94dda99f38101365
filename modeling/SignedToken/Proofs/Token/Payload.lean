import SignedToken.Proofs.Claims.Reading
import SignedToken.Token.Payload

/-!
# The parties of a payload

A payload that spells claims names parties if each name the reader knows is there once at most; the
parties are then those that the claims have. In other payloads the reader gets past many a value
that no claim can have.
-/

namespace SignedToken.Naming

open Json (last?)

variable {members : List (String × Json)}

theorem last?_eq_getLast? (name : String) (members : List (String × Json)) :
    last? name members = ((members.filter (·.1 == name)).getLast?).map Prod.snd := by
  induction members with
  | nil => rfl
  | cons m rest ih =>
    obtain ⟨k, v⟩ := m
    rw [last?, ih, List.filter_cons]
    by_cases hk : k = name
    · simp only [hk, beq_self_eq_true, if_true, List.getLast?_cons, Option.map_some]
      cases (rest.filter (·.1 == name)).getLast? <;> rfl
    · simp only [hk, beq_eq_false_iff_ne.2 hk, if_false, Bool.false_eq_true, Option.or_none]

theorem single?_eq_some_iff {name : String} {o : Option Json} :
    single? name members = some o ↔
      members.countP (·.1 == name) ≤ 1 ∧ last? name members = o := by
  rw [single?, last?_eq_getLast?, List.countP_eq_length_filter]
  cases members.filter (·.1 == name) with
  | nil => simp
  | cons m rest =>
    cases rest with
    | nil => simp
    | cons m' rest => simp

def knownNames : List String := ["exp", "nbf", "sub", "iss", "aud"]

theorem once_of_ofPayload? {n : Naming} (h : ofPayload? (.obj members) = some n) :
    ∀ name ∈ knownNames, members.countP (·.1 == name) ≤ 1 := by
  simp only [ofPayload?, bind, Option.bind_eq_some_iff, single?_eq_some_iff] at h
  obtain ⟨_, ⟨hexp, -⟩, _, ⟨hnbf, -⟩, _, ⟨hsub, -⟩, _, ⟨hiss, -⟩, _, ⟨haud, -⟩, -⟩ := h
  simpa [knownNames] using ⟨hexp, hnbf, hsub, hiss, haud⟩

/-- Of names that are there once at most only the last values are looked at. -/
theorem ofPayload?_of_once (honce : ∀ name ∈ knownNames, members.countP (·.1 == name) ≤ 1) :
    ofPayload? (.obj members) =
      if (last? "exp" members).all passesTime && (last? "nbf" members).all passesTime
          && (last? "sub" members).all passesSubject then
        some ⟨last? "iss" members, last? "aud" members⟩
      else none := by
  have hsingle (name : String) (hname : name ∈ knownNames) :
      single? name members = some (last? name members) :=
    single?_eq_some_iff.2 ⟨honce name hname, rfl⟩
  simp only [knownNames, List.forall_mem_cons] at hsingle
  obtain ⟨hexp, hnbf, hsub, hiss, haud, -⟩ := hsingle
  simp only [ofPayload?, hexp, hnbf, hsub, hiss, haud, bind, Option.bind_some, pure]

/-- The value of a registered claim is one that the reader gets past. -/
theorem passesTime_of_spellsTime {name : String} {value : Int64}
    (h : SpellsTime members name value) : (last? name members).all passesTime = true := by
  rcases h with h | ⟨h, -⟩
  · rw [h]
    rfl
  · rw [h]
    rfl

theorem passesSubject_of_spellsText {name value : String} (h : SpellsText members name value) :
    (last? name members).all passesSubject = true := by
  rcases h with h | ⟨h, -⟩
  · rw [h]
    rfl
  · rw [h]
    rfl

theorem ofPayload?_eq_some_iff {c : StandardClaims} (h : c.SpelledBy members) {n : Naming} :
    ofPayload? (.obj members) = some n ↔
      (∀ name ∈ knownNames, members.countP (·.1 == name) ≤ 1)
        ∧ n = ⟨last? "iss" members, last? "aud" members⟩ := by
  have hexp := passesTime_of_spellsTime h.expiresAt
  have hnbf := passesTime_of_spellsTime h.notBefore
  have hsub := passesSubject_of_spellsText h.subject
  constructor
  · intro hn
    have honce := once_of_ofPayload? hn
    simp only [ofPayload?_of_once honce, hexp, hnbf, hsub, Bool.and_self, if_true,
      Option.some.injEq] at hn
    exact ⟨honce, hn.symm⟩
  · rintro ⟨honce, rfl⟩
    simp only [ofPayload?_of_once honce, hexp, hnbf, hsub, Bool.and_self, if_true]

theorem last?_eq_some_of_mem {name : String} {v : Json}
    (hcount : members.countP (·.1 == name) ≤ 1) (h : (name, v) ∈ members) :
    last? name members = some v := by
  rw [List.countP_eq_length_filter] at hcount
  have hmem : (name, v) ∈ members.filter (·.1 == name) := List.mem_filter.2 ⟨h, by simp⟩
  obtain ⟨m, hm⟩ := List.length_eq_one_iff.1
    (Nat.le_antisymm hcount (List.length_pos_of_mem hmem))
  rw [hm, List.mem_singleton] at hmem
  rw [last?_eq_getLast?, hm, ← hmem]
  rfl

/-- Of a name that is there once at most, any value is the last one. -/
theorem absent_or_eq_iff {name value : String} (h : SpellsText members name value)
    (hcount : members.countP (·.1 == name) ≤ 1) {e : String} :
    last? name members = none ∨ value = e ↔ ∀ v, (name, v) ∈ members → v = .str e := by
  constructor
  · intro hor v hv
    have hlast := last?_eq_some_of_mem hcount hv
    rcases hor with hnone | rfl
    · rw [hnone] at hlast
      cases hlast
    · rcases h with h | ⟨h, -⟩
      · rw [hlast] at h
        cases h
        rfl
      · rw [hlast] at h
        cases h
  · intro hall
    rcases h with h | ⟨h, -⟩
    · right
      have hstr := hall _ (Json.mem_of_last? h)
      cases hstr
      rfl
    · exact .inl h

/-- Of a name that is there once at most, whatever names parties has to name the one expected. -/
theorem agrees_last?_iff {name : String} (hcount : members.countP (·.1 == name) ≤ 1)
    {expected : Option String} :
    agrees expected (last? name members) = true ↔
      ∀ e, expected = some e → ∀ v parties, (name, v) ∈ members → parties? v = some parties →
        e ∈ parties := by
  cases expected with
  | none => simp [agrees]
  | some e =>
    constructor
    · rintro h _ ⟨⟩ v parties hv hparties
      rw [last?_eq_some_of_mem hcount hv] at h
      simpa [agrees, hparties] using h
    · intro h
      cases hlast : last? name members with
      | none => rfl
      | some v =>
        cases hparties : parties? v with
        | none => simp [agrees, hparties]
        | some parties =>
          have hmem := h e rfl v parties (Json.mem_of_last? hlast) hparties
          simp [agrees, hparties, hmem]

/-! ## What the reader gets past -/

/-- No name that the reader knows is there twice, and none has a value that it stops at. -/
structure PassesMembers (members : List (String × Json)) : Prop where
  once : ∀ name ∈ knownNames, members.countP (·.1 == name) ≤ 1
  expiry : ∀ v, ("exp", v) ∈ members → passesTime v = true
  start : ∀ v, ("nbf", v) ∈ members → passesTime v = true
  subject : ∀ v, ("sub", v) ∈ members → passesSubject v = true

/-- The reader gets past an object with such members and past an array of just five values, the
first three of which stand for these names. -/
def GetsPast : Json → Prop
  | .obj members => PassesMembers members
  | .arr [expiry, start, subject, _, _] =>
    passesTime expiry = true ∧ passesTime start = true ∧ passesSubject subject = true
  | _ => False

theorem all_last?_iff {name : String} {ok : Json → Bool}
    (hcount : members.countP (·.1 == name) ≤ 1) :
    (last? name members).all ok = true ↔ ∀ v, (name, v) ∈ members → ok v = true := by
  constructor
  · intro h v hv
    rw [last?_eq_some_of_mem hcount hv] at h
    exact h
  · intro h
    cases hlast : last? name members with
    | none => rfl
    | some v => exact h v (Json.mem_of_last? hlast)

theorem exists_ofPayload?_obj_iff :
    (∃ n, ofPayload? (.obj members) = some n) ↔ PassesMembers members := by
  constructor
  · rintro ⟨n, hn⟩
    have honce := once_of_ofPayload? hn
    rw [ofPayload?_of_once honce, Option.ite_none_right_eq_some] at hn
    simp only [Bool.and_eq_true] at hn
    obtain ⟨⟨⟨hexp, hnbf⟩, hsub⟩, -⟩ := hn
    exact {
      once := honce
      expiry := (all_last?_iff (honce _ (by simp [knownNames]))).1 hexp
      start := (all_last?_iff (honce _ (by simp [knownNames]))).1 hnbf
      subject := (all_last?_iff (honce _ (by simp [knownNames]))).1 hsub }
  · rintro ⟨honce, hexpiry, hstart, hsubject⟩
    have hexp := (all_last?_iff (honce "exp" (by simp [knownNames]))).2 hexpiry
    have hnbf := (all_last?_iff (honce "nbf" (by simp [knownNames]))).2 hstart
    have hsub := (all_last?_iff (honce "sub" (by simp [knownNames]))).2 hsubject
    refine ⟨⟨last? "iss" members, last? "aud" members⟩, ?_⟩
    simp only [ofPayload?_of_once honce, hexp, hnbf, hsub, Bool.and_self, if_true]

theorem exists_ofPayload?_iff {v : Json} : (∃ n, ofPayload? v = some n) ↔ GetsPast v := by
  unfold GetsPast
  split
  · exact exists_ofPayload?_obj_iff
  · simp only [ofPayload?, Option.ite_none_right_eq_some, Bool.and_eq_true, and_assoc]
    constructor
    · rintro ⟨n, hexpiry, hstart, hsubject, -⟩
      exact ⟨hexpiry, hstart, hsubject⟩
    · rintro ⟨hexpiry, hstart, hsubject⟩
      exact ⟨_, hexpiry, hstart, hsubject, rfl⟩
  · rename_i hobj harr
    refine iff_of_false ?_ not_false
    rintro ⟨n, hn⟩
    unfold ofPayload? at hn
    split at hn
    · exact hobj _ rfl
    · exact harr _ _ _ _ _ rfl
    · cases hn

end SignedToken.Naming
