import SignedToken.Proofs.Json.RoundTrip

/-!
# What becomes of printed values

A printed value is read just if it nests no deeper than the reader goes and each of its floats is in
range, and what is read then is the value up to its floats.
-/

namespace SignedToken.Json

/-! ## Up to floats -/

mutual

theorem withoutFloats_of_reread? : {depth : Nat} → (v : Json) → {w : Json} →
    reread? depth v = some w → w.withoutFloats = v.withoutFloats
  | depth, .null, w, h | depth, .bool _, w, h | depth, .int _, w, h | depth, .str _, w, h => by
    rw [reread?] at h
    cases h
    rfl
  | depth, .float x, w, h => by
    rw [reread?] at h
    exact withoutFloats_of_rereadFloat? h
  | depth + 1, .arr vs, w, h => by
    rw [reread?] at h
    obtain ⟨ws, hws, rfl⟩ := Option.map_eq_some_iff.1 h
    exact congrArg Json.arr (itemsWithoutFloats_of_rereadItems? vs hws)
  | depth + 1, .obj ms, w, h => by
    rw [reread?] at h
    obtain ⟨ws, hws, rfl⟩ := Option.map_eq_some_iff.1 h
    exact congrArg Json.obj (membersWithoutFloats_of_rereadMembers? ms hws)

theorem itemsWithoutFloats_of_rereadItems? {depth : Nat} : (vs : List Json) → {ws : List Json} →
    rereadItems? depth vs = some ws → itemsWithoutFloats ws = itemsWithoutFloats vs
  | [], ws, h => by
    cases h
    rfl
  | v :: vs, ws, h => by
    simp only [rereadItems?, bind, Option.bind_eq_some_iff, pure] at h
    obtain ⟨w, hw, ws, hws, h⟩ := h
    cases h
    rw [itemsWithoutFloats, itemsWithoutFloats, withoutFloats_of_reread? v hw,
      itemsWithoutFloats_of_rereadItems? vs hws]

theorem membersWithoutFloats_of_rereadMembers? {depth : Nat} : (ms : List (String × Json)) →
    {ws : List (String × Json)} → rereadMembers? depth ms = some ws →
    membersWithoutFloats ws = membersWithoutFloats ms
  | [], ws, h => by
    cases h
    rfl
  | (k, v) :: ms, ws, h => by
    simp only [rereadMembers?, bind, Option.bind_eq_some_iff, pure] at h
    obtain ⟨w, hw, ws, hws, h⟩ := h
    cases h
    rw [membersWithoutFloats, membersWithoutFloats, withoutFloats_of_reread? v hw,
      membersWithoutFloats_of_rereadMembers? ms hws]

end

theorem withoutFloats_of_spelled? {v w : Json} (h : spelled? (Utf8.encode v.chars) = some w) :
    w.withoutFloats = v.withoutFloats := by
  rw [spelled?_chars_eq] at h
  exact withoutFloats_of_reread? v h

theorem ascending_membersWithoutFloats_iff {members : List (String × Json)} :
    Ascending (membersWithoutFloats members) ↔ Ascending members := by
  simp only [Ascending, membersWithoutFloats_eq_map, List.pairwise_map, memberWithoutFloats]

mutual

theorem isCanonical_withoutFloats_iff : (v : Json) → (v.withoutFloats.IsCanonical ↔ v.IsCanonical)
  | .arr vs => itemsCanonical_itemsWithoutFloats_iff vs
  | .obj ms => by
    rw [withoutFloats, IsCanonical, IsCanonical, membersCanonical_membersWithoutFloats_iff ms,
      ascending_membersWithoutFloats_iff]
  | .null | .bool _ | .int _ | .float _ | .str _ => Iff.rfl

theorem itemsCanonical_itemsWithoutFloats_iff : (vs : List Json) →
    (ItemsCanonical (itemsWithoutFloats vs) ↔ ItemsCanonical vs)
  | [] => Iff.rfl
  | v :: vs => by
    rw [itemsWithoutFloats, ItemsCanonical, ItemsCanonical, isCanonical_withoutFloats_iff v,
      itemsCanonical_itemsWithoutFloats_iff vs]

theorem membersCanonical_membersWithoutFloats_iff : (ms : List (String × Json)) →
    (MembersCanonical (membersWithoutFloats ms) ↔ MembersCanonical ms)
  | [] => Iff.rfl
  | (k, v) :: ms => by
    rw [membersWithoutFloats, MembersCanonical, MembersCanonical, isCanonical_withoutFloats_iff v,
      membersCanonical_membersWithoutFloats_iff ms]

end

mutual

/-- Whether anything is packed does not depend on floats. -/
theorem isUnpacked_withoutFloats : (v : Json) → v.withoutFloats.isUnpacked = v.isUnpacked
  | .arr vs => areItemsUnpacked_itemsWithoutFloats vs
  | .obj ms => by
    rw [withoutFloats, isUnpacked, isUnpacked, areMembersUnpacked_membersWithoutFloats ms]
    cases ms with
    | nil => rfl
    | cons m rest =>
      simp only [membersWithoutFloats, packed?]
      split <;> rfl
  | .null | .bool _ | .int _ | .float _ | .str _ => rfl

theorem areItemsUnpacked_itemsWithoutFloats : (vs : List Json) →
    areItemsUnpacked (itemsWithoutFloats vs) = areItemsUnpacked vs
  | [] => rfl
  | v :: vs => by
    rw [itemsWithoutFloats, areItemsUnpacked, areItemsUnpacked, isUnpacked_withoutFloats v,
      areItemsUnpacked_itemsWithoutFloats vs]

theorem areMembersUnpacked_membersWithoutFloats : (ms : List (String × Json)) →
    areMembersUnpacked (membersWithoutFloats ms) = areMembersUnpacked ms
  | [] => rfl
  | (k, v) :: ms => by
    rw [membersWithoutFloats, areMembersUnpacked, areMembersUnpacked, isUnpacked_withoutFloats v,
      areMembersUnpacked_membersWithoutFloats ms]

end

theorem isUnpacked_of_spelled? {v w : Json} (h : spelled? (Utf8.encode v.chars) = some w) :
    w.isUnpacked = v.isUnpacked := by
  rw [← isUnpacked_withoutFloats w, withoutFloats_of_spelled? h, isUnpacked_withoutFloats]

/-! ## In range -/

/-- Whether the float is read back at all: its text is not taken for a number beyond all floats. -/
def isInRange (x : Float) : Bool := (rereadFloat? x).isSome

mutual

/-- Whether each float of the value is read back. -/
def hasFloatsInRange : Json → Bool
  | .float x => isInRange x
  | .arr items => haveItemsFloatsInRange items
  | .obj members => haveMembersFloatsInRange members
  | .null | .bool _ | .int _ | .str _ => true

def haveItemsFloatsInRange : List Json → Bool
  | [] => true
  | v :: rest => v.hasFloatsInRange && haveItemsFloatsInRange rest

def haveMembersFloatsInRange : List (String × Json) → Bool
  | [] => true
  | (_, v) :: rest => v.hasFloatsInRange && haveMembersFloatsInRange rest

end

theorem haveMembersFloatsInRange_iff {members : List (String × Json)} :
    haveMembersFloatsInRange members = true ↔ ∀ m ∈ members, m.2.hasFloatsInRange = true := by
  induction members with
  | nil => simp [haveMembersFloatsInRange]
  | cons m rest ih => simp [haveMembersFloatsInRange, ih]

theorem isSome_both {α β γ : Type} {o : Option α} {o' : Option β} {f : α → β → γ} :
    (do
      let a ← o
      let b ← o'
      return f a b : Option γ).isSome = (o.isSome && o'.isSome) := by
  cases o with
  | none => rfl
  | some a => cases o' <;> rfl

mutual

theorem isSome_reread?_iff : {depth : Nat} → (v : Json) →
    ((reread? depth v).isSome = true ↔ v.depth ≤ depth ∧ v.hasFloatsInRange = true)
  | depth, .null | depth, .bool _ | depth, .int _ | depth, .str _ => by
    rw [reread?]
    exact iff_of_true rfl ⟨Nat.zero_le _, rfl⟩
  | depth, .float x => by
    rw [reread?]
    exact (and_iff_right (Nat.zero_le depth)).symm
  | 0, .arr _ | 0, .obj _ => by
    rw [reread?]
    exact iff_of_false Bool.false_ne_true fun h => Nat.not_succ_le_zero _ h.1
  | depth + 1, .arr vs => by
    rw [reread?, Option.isSome_map, isSome_rereadItems?_iff vs, Json.depth,
      Nat.add_le_add_iff_right, hasFloatsInRange]
  | depth + 1, .obj ms => by
    rw [reread?, Option.isSome_map, isSome_rereadMembers?_iff ms, Json.depth,
      Nat.add_le_add_iff_right, hasFloatsInRange]

theorem isSome_rereadItems?_iff {depth : Nat} : (vs : List Json) →
    ((rereadItems? depth vs).isSome = true
      ↔ itemsDepth vs ≤ depth ∧ haveItemsFloatsInRange vs = true)
  | [] => iff_of_true rfl ⟨Nat.zero_le _, rfl⟩
  | v :: vs => by
    rw [rereadItems?, isSome_both, Bool.and_eq_true, isSome_reread?_iff v,
      isSome_rereadItems?_iff vs, itemsDepth, Nat.max_le, haveItemsFloatsInRange, Bool.and_eq_true,
      and_and_and_comm]

theorem isSome_rereadMembers?_iff {depth : Nat} : (ms : List (String × Json)) →
    ((rereadMembers? depth ms).isSome = true
      ↔ membersDepth ms ≤ depth ∧ haveMembersFloatsInRange ms = true)
  | [] => iff_of_true rfl ⟨Nat.zero_le _, rfl⟩
  | (k, v) :: ms => by
    rw [rereadMembers?, isSome_both, Bool.and_eq_true, isSome_reread?_iff v,
      isSome_rereadMembers?_iff ms, membersDepth, Nat.max_le, haveMembersFloatsInRange,
      Bool.and_eq_true, and_and_and_comm]

end

/-- The text of a value can be read just if it is not too deep and its floats are in range. -/
theorem exists_spelled?_chars_iff {v : Json} :
    (∃ w, spelled? (Utf8.encode v.chars) = some w)
      ↔ v.depth ≤ maxDepth ∧ v.hasFloatsInRange = true := by
  rw [← isSome_reread?_iff, spelled?_chars_eq, Option.isSome_iff_exists]

end SignedToken.Json
