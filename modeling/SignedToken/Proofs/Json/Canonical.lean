import SignedToken.Json.Basic

/-!
# The canonical form

A value in canonical form is its own. The object that a list of members stands for has, under each
name, the last value the list gives to it.
-/

namespace SignedToken.Json

/-! ## Values already in the form -/

theorem offerMember_of_lt {k : String} {v : Json} {members : List (String × Json)}
    (h : ∀ m ∈ members, k < m.1) : offerMember k v members = (k, v) :: members := by
  cases members with
  | nil => rfl
  | cons m rest => rw [offerMember, if_pos (h m (by simp))]

mutual

theorem canonical_of_isCanonical : (v : Json) → v.IsCanonical → v.canonical = v
  | .arr items, h => by
    rw [canonical, canonicalItems_of_itemsCanonical items h]
  | .obj members, h => by
    rw [canonical, canonicalMembers_of_ascending members h.1 h.2]
  | .null, _ | .bool _, _ | .int _, _ | .float _, _ | .str _, _ => rfl

theorem canonicalItems_of_itemsCanonical : (items : List Json) → ItemsCanonical items →
    canonicalItems items = items
  | [], _ => rfl
  | v :: rest, h => by
    rw [canonicalItems, canonical_of_isCanonical v h.1, canonicalItems_of_itemsCanonical rest h.2]

theorem canonicalMembers_of_ascending : (members : List (String × Json)) → Ascending members →
    MembersCanonical members → canonicalMembers members = members
  | [], _, _ => rfl
  | (k, v) :: rest, hasc, h => by
    obtain ⟨hlt, hrest⟩ := List.pairwise_cons.1 hasc
    rw [canonicalMembers, canonical_of_isCanonical v h.1,
      canonicalMembers_of_ascending rest hrest h.2, offerMember_of_lt hlt]

end

theorem offerMember_ne_nil (k : String) (v : Json) (members : List (String × Json)) :
    offerMember k v members ≠ [] := by
  fun_cases offerMember k v members <;> exact List.cons_ne_nil _ _

theorem canonicalMembers_eq_nil_iff {members : List (String × Json)} :
    canonicalMembers members = [] ↔ members = [] := by
  cases members with
  | nil => simp [canonicalMembers]
  | cons m rest => simp [canonicalMembers, offerMember_ne_nil]

namespace Object

theorem eq_of_members {o o' : Object} (h : o.members = o'.members) : o = o' := by
  cases o
  cases o'
  cases h
  rfl

@[simp] theorem ofMembers_members (o : Object) : ofMembers o.members = o :=
  eq_of_members (canonicalMembers_of_ascending o.members o.isCanonical.1 o.isCanonical.2)

@[simp] theorem canonical_toJson (o : Object) : o.toJson.canonical = o.toJson :=
  canonical_of_isCanonical o.toJson o.isCanonical

end Object

/-! ## Names -/

/-- The value of the last member called `k`. -/
def last? (k : String) : List (String × Json) → Option Json
  | [] => none
  | (k', v) :: rest => (last? k rest).or (if k' = k then some v else none)

@[simp] theorem last?_append (k : String) (xs ys : List (String × Json)) :
    last? k (xs ++ ys) = (last? k ys).or (last? k xs) := by
  induction xs with
  | nil => cases h : last? k ys <;> simp [last?, h]
  | cons x xs ih => rw [List.cons_append, last?, last?, ih, Option.or_assoc]

theorem last?_eq_none_iff {k : String} {members : List (String × Json)} :
    last? k members = none ↔ ∀ m ∈ members, m.1 ≠ k := by
  induction members with
  | nil => simp [last?]
  | cons m rest ih => simp [last?, ih, and_comm]

theorem mem_of_last? {k : String} {v : Json} {members : List (String × Json)}
    (h : last? k members = some v) : (k, v) ∈ members := by
  induction members with
  | nil => cases h
  | cons m rest ih =>
    obtain ⟨k', w⟩ := m
    rw [last?] at h
    cases hrest : last? k rest with
    | some u =>
      rw [hrest] at h
      cases h
      exact List.mem_cons_of_mem _ (ih hrest)
    | none =>
      rw [hrest, Option.none_or] at h
      obtain ⟨rfl, hw⟩ := Option.ite_none_right_eq_some.1 h
      cases hw
      exact List.mem_cons_self

theorem lookup_eq_none_of_lt {k : String} {members : List (String × Json)}
    (h : ∀ m ∈ members, k < m.1) : members.lookup k = none := by
  refine List.lookup_eq_none_iff.2 fun m hm => ?_
  have := h m hm
  grind

theorem lookup_eq_none_of_lt_head {k : String} {m : String × Json} {rest : List (String × Json)}
    (h : Ascending (m :: rest)) (hk : k < m.1) : (m :: rest).lookup k = none := by
  refine lookup_eq_none_of_lt fun m' hm => ?_
  rcases List.mem_cons.1 hm with rfl | hm
  · exact hk
  · exact String.lt_trans hk ((List.pairwise_cons.1 h).1 m' hm)

theorem lookup_offerMember {k k' : String} {v : Json} {members : List (String × Json)}
    (h : Ascending members) :
    (offerMember k v members).lookup k'
      = (members.lookup k').or (if k = k' then some v else none) := by
  induction members with
  | nil => grind [offerMember]
  | cons m rest ih =>
    obtain ⟨k'', w⟩ := m
    obtain ⟨hlt, hrest⟩ := List.pairwise_cons.1 h
    have ih := ih hrest
    rw [offerMember]
    split
    · rename_i hk
      have hnone := lookup_eq_none_of_lt_head h hk
      grind
    split
    · grind
    · grind

theorem lookup_canonicalMembers (k : String) (members : List (String × Json)) :
    (canonicalMembers members).lookup k = (last? k members).map canonical := by
  induction members with
  | nil => rfl
  | cons m rest ih =>
    obtain ⟨k', v⟩ := m
    rw [canonicalMembers, lookup_offerMember (membersCanonical_canonicalMembers rest).1, ih, last?]
    cases last? k rest with
    | some w => rfl
    | none => by_cases hk : k' = k <;> simp [hk]

theorem lookup_insertMember {k k' : String} {v : Json} {members : List (String × Json)}
    (h : Ascending members) :
    (insertMember k v members).lookup k' = if k = k' then some v else members.lookup k' := by
  induction members with
  | nil => grind [insertMember]
  | cons m rest ih =>
    obtain ⟨k'', w⟩ := m
    have ih := ih (List.pairwise_cons.1 h).2
    rw [insertMember]
    split
    · grind
    split
    · grind
    · grind

/-- Where the names ascend, the values of all names make up the list. -/
theorem eq_of_lookup {members members' : List (String × Json)} (h : Ascending members)
    (h' : Ascending members') (heq : ∀ k, members.lookup k = members'.lookup k) :
    members = members' := by
  induction members generalizing members' with
  | nil =>
    cases members' with
    | nil => rfl
    | cons m' rest' =>
      obtain ⟨k', v'⟩ := m'
      simpa using heq k'
  | cons m rest ih =>
    obtain ⟨k, v⟩ := m
    obtain ⟨hlt, hrest⟩ := List.pairwise_cons.1 h
    cases members' with
    | nil => simpa using heq k
    | cons m' rest' =>
      obtain ⟨k', v'⟩ := m'
      obtain ⟨hlt', hrest'⟩ := List.pairwise_cons.1 h'
      have hnone := lookup_eq_none_of_lt hlt
      have hnone' := lookup_eq_none_of_lt hlt'
      -- the lesser of the two first names would be missing on the other side
      have hk : ¬k < k' := fun hk => by simpa [lookup_eq_none_of_lt_head h' hk] using heq k
      have hk' : ¬k' < k := fun hk => by simpa [lookup_eq_none_of_lt_head h hk] using heq k'
      obtain rfl : k = k' := by grind
      obtain rfl : v = v' := by simpa using heq k
      have hrests : ∀ j, rest.lookup j = rest'.lookup j := by
        intro j
        by_cases hj : j = k
        · rw [hj, hnone, hnone']
        · have := heq j
          grind
      rw [ih hrest hrest' hrests]

/-- Where the names ascend, the first value of a name is its last one. -/
theorem last?_eq_lookup {members : List (String × Json)} (h : Ascending members) (k : String) :
    last? k members = members.lookup k := by
  induction members with
  | nil => rfl
  | cons m rest ih =>
    obtain ⟨k', v⟩ := m
    obtain ⟨hlt, hrest⟩ := List.pairwise_cons.1 h
    rw [last?, ih hrest, List.lookup_cons]
    by_cases hk : k' = k
    · subst hk
      simp [lookup_eq_none_of_lt hlt]
    · rw [if_neg hk, beq_eq_false_iff_ne.2 (Ne.symm hk), Option.or_none]

theorem lookup_filter {members : List (String × Json)} (h : Ascending members)
    (p : String × Json → Bool) (k : String) :
    (members.filter p).lookup k = (members.lookup k).filter fun v => p (k, v) := by
  induction members with
  | nil => rfl
  | cons m rest ih =>
    obtain ⟨k', v⟩ := m
    obtain ⟨hlt, hrest⟩ := List.pairwise_cons.1 h
    have ih := ih hrest
    by_cases hk : k = k'
    · subst hk
      rw [lookup_eq_none_of_lt hlt] at ih
      by_cases hp : p (k, v) = true <;> simp [hp, ih, Option.filter_some]
    · rw [List.lookup_cons, beq_eq_false_iff_ne.2 hk, ← ih]
      by_cases hp : p (k', v) = true <;> simp [hp, List.lookup_cons, beq_eq_false_iff_ne.2 hk]

theorem last?_canonicalMembers (k : String) (members : List (String × Json)) :
    last? k (canonicalMembers members) = (last? k members).map canonical := by
  rw [last?_eq_lookup (membersCanonical_canonicalMembers members).1, lookup_canonicalMembers]

theorem countP_le_one_of_nodup {members : List (String × Json)}
    (h : (members.map Prod.fst).Nodup) (name : String) : members.countP (·.1 == name) ≤ 1 := by
  have hcount := List.nodup_iff_count.1 h name
  rwa [List.count_eq_countP, List.countP_map] at hcount

theorem countP_canonicalMembers_le_one (members : List (String × Json)) (name : String) :
    (canonicalMembers members).countP (·.1 == name) ≤ 1 := by
  refine countP_le_one_of_nodup ?_ name
  rw [List.Nodup, List.pairwise_map]
  exact (membersCanonical_canonicalMembers members).1.imp fun hlt => String.ne_of_lt hlt

theorem Object.eq_of_get? {o o' : Object} (h : ∀ k, o.get? k = o'.get? k) : o = o' :=
  Object.eq_of_members (eq_of_lookup o.isCanonical.1 o'.isCanonical.1 h)

theorem Object.last?_members (o : Object) (k : String) : last? k o.members = o.get? k :=
  last?_eq_lookup o.isCanonical.1 k

theorem Object.isCanonical_of_get? {o : Object} {k : String} {v : Json} (h : o.get? k = some v) :
    v.IsCanonical :=
  membersCanonical_iff.1 o.isCanonical.2 (k, v) (mem_of_last? (by rw [o.last?_members, h]))

theorem Object.map_canonical_filter_get? (o : Object) (k : String) (p : Json → Bool) :
    ((o.get? k).filter p).map canonical = (o.get? k).filter p := by
  cases hv : o.get? k with
  | none => rfl
  | some v =>
    have hcanonical := canonical_of_isCanonical v (isCanonical_of_get? hv)
    by_cases hp : p v = true <;> simp [Option.filter_some, hp, hcanonical]

theorem Object.get?_insert (o : Object) (k : String) (v : Json) (k' : String) :
    (o.insert k v).get? k' = if k = k' then some v.canonical else o.get? k' :=
  lookup_insertMember o.isCanonical.1

theorem Object.get?_ofMembers (members : List (String × Json)) (k : String) :
    (ofMembers members).get? k = (last? k members).map canonical :=
  lookup_canonicalMembers k members

end SignedToken.Json
