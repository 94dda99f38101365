import SignedToken.Json.Mismatch
import SignedToken.Proofs.Json.Forward
import SignedToken.Proofs.Json.Canonical

/-!
# Packed values

What a text is read as is what it spells with each packed object replaced. A value in which nothing
is packed is left as it is, and a text that does not say the name of packed objects spells such a
value.
-/

namespace SignedToken.Json

/-! ## Reading on -/

section
variable {read read' : List UInt8 → Option Json}

theorem eq_of_packed? {members rest : List (String × Json)} {v : Json}
    (h : packed? members = some (v, rest)) : members = (packedName, v) :: rest := by
  unfold packed? at h
  split at h
  · rename_i k w rest'
    rw [Option.ite_none_right_eq_some] at h
    obtain ⟨rfl, h⟩ := h
    cases h
    rfl
  · cases h

mutual

/-- Only the strings of a value are read on. -/
theorem unpackWith_congr : (v : Json) →
    (∀ s ∈ v.strings, read (Utf8.bytes s) = read' (Utf8.bytes s)) →
    unpackWith read v = unpackWith read' v
  | .arr vs, h => by rw [unpackWith, unpackWith, unpackItemsWith_congr vs h]
  | .obj ms, h => by
    rw [unpackWith, unpackWith, unpackMembersWith_congr ms h]
    split
    · rename_i s hpacked
      refine h s ?_
      rw [eq_of_packed? hpacked]
      simp [strings, membersStrings]
    · rfl
    · rfl
  | .null, _ | .bool _, _ | .int _, _ | .float _, _ | .str _, _ => rfl

theorem unpackItemsWith_congr : (vs : List Json) →
    (∀ s ∈ itemsStrings vs, read (Utf8.bytes s) = read' (Utf8.bytes s)) →
    unpackItemsWith read vs = unpackItemsWith read' vs
  | [], _ => rfl
  | v :: vs, h => by
    simp only [itemsStrings, List.forall_mem_append] at h
    rw [unpackItemsWith, unpackItemsWith, unpackWith_congr v h.1, unpackItemsWith_congr vs h.2]

theorem unpackMembersWith_congr : (ms : List (String × Json)) →
    (∀ s ∈ membersStrings ms, read (Utf8.bytes s) = read' (Utf8.bytes s)) →
    unpackMembersWith read ms = unpackMembersWith read' ms
  | [], _ => rfl
  | (k, v) :: ms, h => by
    simp only [membersStrings, List.forall_mem_cons, List.forall_mem_append] at h
    rw [unpackMembersWith, unpackMembersWith, unpackWith_congr v h.1.2,
      unpackMembersWith_congr ms h.2]

end

end

/-- A size beyond the length of the text makes no difference. -/
theorem readWithin_of_le {size : Nat} {text : List UInt8} (h : text.length ≤ size) :
    readWithin size text = readWithin text.length text := by
  induction size using Nat.strongRecOn generalizing text with
  | ind size ih =>
    cases hlength : text.length with
    | zero =>
      obtain rfl := List.length_eq_zero_iff.1 hlength
      cases size <;> rfl
    | succ n =>
      obtain ⟨size, rfl⟩ := Nat.exists_eq_add_one_of_ne_zero (by omega : size ≠ 0)
      rw [readWithin, readWithin]
      refine Option.bind_congr fun v hv => unpackWith_congr v fun s hs => ?_
      have hshort := (quotes_of_spelled? hv s hs).length_lt
      rw [ih size (Nat.lt_succ_self size) (by omega), ih n (by omega) (by omega)]

/-- A text is read by replacing each packed object of what it spells. -/
theorem read?_eq (text : List UInt8) : read? text = (spelled? text).bind unpack? := by
  cases hlength : text.length with
  | zero =>
    rw [List.length_eq_zero_iff.1 hlength]
    rfl
  | succ n =>
    rw [read?, hlength, readWithin]
    refine Option.bind_congr fun v hv => unpackWith_congr v fun s hs => ?_
    have hshort := (quotes_of_spelled? hv s hs).length_lt
    exact readWithin_of_le (by omega)

theorem read?_eq_some_iff {text : List UInt8} {v : Json} :
    read? text = some v ↔ ∃ w, spelled? text = some w ∧ unpack? w = some v := by
  rw [read?_eq, Option.bind_eq_some_iff]

/-! ## What is packed where -/

theorem unpack?_arr (items : List Json) :
    unpack? (.arr items) = (unpackItemsWith read? items).map .arr := by
  rw [unpack?, unpackWith]

theorem unpack?_packed (s : String) :
    unpack? (.obj [(packedName, .str s)]) = read? (Utf8.bytes s) := by
  rw [unpack?, unpackWith, packed?, if_pos rfl]

theorem unpack?_obj {members : List (String × Json)} (h : packed? members = none) :
    unpack? (.obj members) = (unpackMembers? members).map .obj := by
  rw [unpack?, unpackWith, h, unpackMembers?]

/-! ## Values in which nothing is packed -/

mutual

/-- Whether no object of the value is packed. -/
def isUnpacked : Json → Bool
  | .arr items => areItemsUnpacked items
  | .obj members => (packed? members).isNone && areMembersUnpacked members
  | .null | .bool _ | .int _ | .float _ | .str _ => true

def areItemsUnpacked : List Json → Bool
  | [] => true
  | v :: rest => v.isUnpacked && areItemsUnpacked rest

def areMembersUnpacked : List (String × Json) → Bool
  | [] => true
  | (_, v) :: rest => v.isUnpacked && areMembersUnpacked rest

end

theorem areMembersUnpacked_iff {members : List (String × Json)} :
    areMembersUnpacked members = true ↔ ∀ m ∈ members, m.2.isUnpacked = true := by
  induction members with
  | nil => simp [areMembersUnpacked]
  | cons m rest ih => simp [areMembersUnpacked, ih]

section
variable (read : List UInt8 → Option Json)

mutual

theorem unpackWith_of_isUnpacked : (v : Json) → v.isUnpacked = true → unpackWith read v = some v
  | .arr vs, h => by
    rw [unpackWith, unpackItemsWith_of_areItemsUnpacked vs h, Option.map_some]
  | .obj ms, h => by
    simp only [isUnpacked, Bool.and_eq_true, Option.isNone_iff_eq_none] at h
    rw [unpackWith, unpackMembersWith_of_areMembersUnpacked ms h.2, h.1, Option.map_some]
  | .null, _ | .bool _, _ | .int _, _ | .float _, _ | .str _, _ => rfl

theorem unpackItemsWith_of_areItemsUnpacked : (vs : List Json) → areItemsUnpacked vs = true →
    unpackItemsWith read vs = some vs
  | [], _ => rfl
  | v :: vs, h => by
    rw [areItemsUnpacked, Bool.and_eq_true] at h
    rw [unpackItemsWith, unpackWith_of_isUnpacked v h.1,
      unpackItemsWith_of_areItemsUnpacked vs h.2]
    rfl

theorem unpackMembersWith_of_areMembersUnpacked : (ms : List (String × Json)) →
    areMembersUnpacked ms = true → unpackMembersWith read ms = some ms
  | [], _ => rfl
  | (k, v) :: ms, h => by
    rw [areMembersUnpacked, Bool.and_eq_true] at h
    rw [unpackMembersWith, unpackWith_of_isUnpacked v h.1,
      unpackMembersWith_of_areMembersUnpacked ms h.2]
    rfl

end

end

theorem read?_of_isUnpacked {text : List UInt8} {v : Json} (h : spelled? text = some v)
    (hunpacked : v.isUnpacked = true) : read? text = some v :=
  read?_eq_some_iff.2 ⟨v, h, unpackWith_of_isUnpacked read? v hunpacked⟩

section
variable {read : List UInt8 → Option Json}

theorem packed?_of_unpackMembersWith {members members' : List (String × Json)}
    (hnone : packed? members = none) (h : unpackMembersWith read members = some members') :
    packed? members' = none := by
  cases members with
  | nil =>
    cases h
    rfl
  | cons m rest =>
    obtain ⟨v, -, h⟩ := Option.bind_eq_some_iff.1 h
    obtain ⟨rest', -, h⟩ := Option.bind_eq_some_iff.1 h
    cases h
    have hne : m.1 ≠ packedName := by simpa [packed?] using hnone
    simp [packed?, hne]

mutual

theorem isUnpacked_of_unpackWith (hread : ∀ text v, read text = some v → v.isUnpacked = true) :
    (v : Json) → {w : Json} → unpackWith read v = some w → w.isUnpacked = true
  | .arr vs, _, h => by
    obtain ⟨ws, hws, rfl⟩ := Option.map_eq_some_iff.1 h
    exact areItemsUnpacked_of_unpackItemsWith hread vs hws
  | .obj ms, w, h => by
    rw [unpackWith] at h
    split at h
    · exact hread _ _ h
    · cases h
    · rename_i hnone
      obtain ⟨ms', hms', rfl⟩ := Option.map_eq_some_iff.1 h
      rw [isUnpacked, packed?_of_unpackMembersWith hnone hms',
        areMembersUnpacked_of_unpackMembersWith hread ms hms']
      rfl
  | .null, _, h | .bool _, _, h | .int _, _, h | .float _, _, h | .str _, _, h => by
    cases h
    rfl

theorem areItemsUnpacked_of_unpackItemsWith
    (hread : ∀ text v, read text = some v → v.isUnpacked = true) : (vs : List Json) →
    {ws : List Json} → unpackItemsWith read vs = some ws → areItemsUnpacked ws = true
  | [], _, h => by
    cases h
    rfl
  | v :: vs, _, h => by
    obtain ⟨w, hw, h⟩ := Option.bind_eq_some_iff.1 h
    obtain ⟨ws, hws, h⟩ := Option.bind_eq_some_iff.1 h
    cases h
    rw [areItemsUnpacked, isUnpacked_of_unpackWith hread v hw,
      areItemsUnpacked_of_unpackItemsWith hread vs hws]
    rfl

theorem areMembersUnpacked_of_unpackMembersWith
    (hread : ∀ text v, read text = some v → v.isUnpacked = true) :
    (ms : List (String × Json)) → {ms' : List (String × Json)} →
    unpackMembersWith read ms = some ms' → areMembersUnpacked ms' = true
  | [], _, h => by
    cases h
    rfl
  | (_, v) :: ms, _, h => by
    obtain ⟨w, hw, h⟩ := Option.bind_eq_some_iff.1 h
    obtain ⟨ms', hms', h⟩ := Option.bind_eq_some_iff.1 h
    cases h
    rw [areMembersUnpacked, isUnpacked_of_unpackWith hread v hw,
      areMembersUnpacked_of_unpackMembersWith hread ms hms']
    rfl

end

end

/-- Nothing is packed any more in what is read. -/
theorem isUnpacked_of_read? {text : List UInt8} {v : Json} (h : read? text = some v) :
    v.isUnpacked = true := by
  have hwithin (size : Nat) : ∀ text v, readWithin size text = some v → v.isUnpacked = true := by
    induction size with
    | zero =>
      intro text v h
      cases h
    | succ size ih =>
      intro text v h
      obtain ⟨w, -, hw⟩ := Option.bind_eq_some_iff.1 h
      exact isUnpacked_of_unpackWith ih w hw
  exact hwithin _ _ _ h

/-- A text is read as what it spells just if nothing is packed in it. -/
theorem read?_eq_iff_of_spelled? {text : List UInt8} {v : Json} (h : spelled? text = some v) :
    read? text = some v ↔ v.isUnpacked = true :=
  ⟨isUnpacked_of_read?, read?_of_isUnpacked h⟩

mutual

theorem asValue?_of_isUnpacked : (v : Json) → v.isUnpacked = true → asValue? v = .ok v
  | .arr vs, h => by
    rw [asValue?, asValues?_of_areItemsUnpacked vs h]
    rfl
  | .obj ms, h => by
    simp only [isUnpacked, Bool.and_eq_true, Option.isNone_iff_eq_none] at h
    rw [asValue?, h.1, asMembers?_of_areMembersUnpacked ms h.2]
    rfl
  | .null, _ | .bool _, _ | .int _, _ | .float _, _ | .str _, _ => rfl

theorem asValues?_of_areItemsUnpacked : (vs : List Json) → areItemsUnpacked vs = true →
    asValues? vs = .ok vs
  | [], _ => rfl
  | v :: vs, h => by
    rw [areItemsUnpacked, Bool.and_eq_true] at h
    rw [asValues?, asValue?_of_isUnpacked v h.1, asValues?_of_areItemsUnpacked vs h.2]
    rfl

theorem asMembers?_of_areMembersUnpacked : (ms : List (String × Json)) →
    areMembersUnpacked ms = true → asMembers? ms = .ok ms
  | [], _ => rfl
  | (k, v) :: ms, h => by
    rw [areMembersUnpacked, Bool.and_eq_true] at h
    rw [asMembers?, asValue?_of_isUnpacked v h.1, asMembers?_of_areMembersUnpacked ms h.2]
    rfl

end

/-! ## Texts in which nothing is packed -/

mutual

theorem isUnpacked_of_not_mem_strings : (v : Json) → packedName ∉ v.strings → v.isUnpacked = true
  | .arr vs, h => areItemsUnpacked_of_not_mem_itemsStrings vs h
  | .obj ms, h => by
    rw [isUnpacked, areMembersUnpacked_of_not_mem_membersStrings ms h, Bool.and_true,
      Option.isNone_iff_eq_none, Option.eq_none_iff_forall_ne_some]
    rintro ⟨v, rest⟩ hpacked
    rw [eq_of_packed? hpacked] at h
    exact h (by simp [strings, membersStrings])
  | .null, _ | .bool _, _ | .int _, _ | .float _, _ | .str _, _ => rfl

theorem areItemsUnpacked_of_not_mem_itemsStrings : (vs : List Json) →
    packedName ∉ itemsStrings vs → areItemsUnpacked vs = true
  | [], _ => rfl
  | v :: vs, h => by
    simp only [itemsStrings, List.mem_append, not_or] at h
    rw [areItemsUnpacked, isUnpacked_of_not_mem_strings v h.1,
      areItemsUnpacked_of_not_mem_itemsStrings vs h.2, Bool.and_true]

theorem areMembersUnpacked_of_not_mem_membersStrings : (ms : List (String × Json)) →
    packedName ∉ membersStrings ms → areMembersUnpacked ms = true
  | [], _ => rfl
  | (k, v) :: ms, h => by
    simp only [membersStrings, List.mem_append, List.mem_cons, not_or] at h
    rw [areMembersUnpacked, isUnpacked_of_not_mem_strings v h.1.2,
      areMembersUnpacked_of_not_mem_membersStrings ms h.2, Bool.and_true]

end

mutual

theorem mem_strings_of_canonical {s : String} : (v : Json) → s ∈ v.canonical.strings →
    s ∈ v.strings
  | .arr vs, h => mem_itemsStrings_of_canonicalItems vs h
  | .obj ms, h => mem_membersStrings_of_canonicalMembers ms h
  | .null, h | .bool _, h | .int _, h | .float _, h | .str _, h => h

theorem mem_itemsStrings_of_canonicalItems {s : String} : (vs : List Json) →
    s ∈ itemsStrings (canonicalItems vs) → s ∈ itemsStrings vs
  | [], h => h
  | v :: vs, h => by
    simp only [canonicalItems, itemsStrings, List.mem_append] at h ⊢
    exact h.imp (mem_strings_of_canonical v) (mem_itemsStrings_of_canonicalItems vs)

theorem mem_membersStrings_of_canonicalMembers {s : String} : (ms : List (String × Json)) →
    s ∈ membersStrings (canonicalMembers ms) → s ∈ membersStrings ms
  | [], h => h
  | (k, v) :: ms, h => by
    rw [canonicalMembers, membersStrings_eq_flatMap, List.mem_flatMap] at h
    obtain ⟨m, hm, hs⟩ := h
    rw [membersStrings, List.mem_append]
    rcases mem_offerMember hm with rfl | hm
    · left
      rcases List.mem_cons.1 hs with rfl | hs
      · exact List.mem_cons_self
      · exact List.mem_cons_of_mem _ (mem_strings_of_canonical v hs)
    · right
      refine mem_membersStrings_of_canonicalMembers ms ?_
      rw [membersStrings_eq_flatMap, List.mem_flatMap]
      exact ⟨m, hm, hs⟩

end

end SignedToken.Json
