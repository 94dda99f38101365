import SignedToken.Json.Basic

/-!
# The shape of JSON values

How deep a value nests, whether it holds a float, and what it is without its floats. Neither depth
nor floats are made worse by the canonical form.
-/

namespace SignedToken.Json

mutual

/-- How deep arrays and objects nest; a scalar is no level. -/
def depth : Json → Nat
  | .arr items => itemsDepth items + 1
  | .obj members => membersDepth members + 1
  | .null | .bool _ | .int _ | .float _ | .str _ => 0

def itemsDepth : List Json → Nat
  | [] => 0
  | v :: rest => max v.depth (itemsDepth rest)

def membersDepth : List (String × Json) → Nat
  | [] => 0
  | (_, v) :: rest => max v.depth (membersDepth rest)

end

mutual

/-- Whether all numbers of the value are whole. -/
def isFloatFree : Json → Bool
  | .float _ => false
  | .arr items => areItemsFloatFree items
  | .obj members => areMembersFloatFree members
  | .null | .bool _ | .int _ | .str _ => true

def areItemsFloatFree : List Json → Bool
  | [] => true
  | v :: rest => v.isFloatFree && areItemsFloatFree rest

def areMembersFloatFree : List (String × Json) → Bool
  | [] => true
  | (_, v) :: rest => v.isFloatFree && areMembersFloatFree rest

end

mutual

/-- The value with null in place of each float. -/
def withoutFloats : Json → Json
  | .float _ => .null
  | .arr items => .arr (itemsWithoutFloats items)
  | .obj members => .obj (membersWithoutFloats members)
  | .null => .null
  | .bool b => .bool b
  | .int n => .int n
  | .str s => .str s

def itemsWithoutFloats : List Json → List Json
  | [] => []
  | v :: rest => v.withoutFloats :: itemsWithoutFloats rest

def membersWithoutFloats : List (String × Json) → List (String × Json)
  | [] => []
  | (k, v) :: rest => (k, v.withoutFloats) :: membersWithoutFloats rest

end

/-! ## Parts -/

def memberWithoutFloats (m : String × Json) : String × Json := (m.1, m.2.withoutFloats)

theorem membersWithoutFloats_eq_map (members : List (String × Json)) :
    membersWithoutFloats members = members.map memberWithoutFloats := by
  induction members with
  | nil => rfl
  | cons m rest ih => rw [membersWithoutFloats, ih, List.map_cons, memberWithoutFloats]

theorem membersDepth_le_iff {members : List (String × Json)} {n : Nat} :
    membersDepth members ≤ n ↔ ∀ m ∈ members, m.2.depth ≤ n := by
  induction members with
  | nil => simp [membersDepth]
  | cons m rest ih => rw [membersDepth, Nat.max_le, ih, List.forall_mem_cons]

theorem itemsDepth_le_iff {items : List Json} {n : Nat} :
    itemsDepth items ≤ n ↔ ∀ v ∈ items, v.depth ≤ n := by
  induction items with
  | nil => simp [itemsDepth]
  | cons v rest ih => rw [itemsDepth, Nat.max_le, ih, List.forall_mem_cons]

theorem areMembersFloatFree_iff {members : List (String × Json)} :
    areMembersFloatFree members = true ↔ ∀ m ∈ members, m.2.isFloatFree = true := by
  induction members with
  | nil => simp [areMembersFloatFree]
  | cons m rest ih => simp [areMembersFloatFree, ih]

/-! ## The canonical form -/

mutual

theorem depth_canonical_le : (v : Json) → v.canonical.depth ≤ v.depth
  | .arr items => by
    simp only [canonical, depth]
    exact Nat.succ_le_succ (itemsDepth_canonicalItems_le items)
  | .obj members => by
    simp only [canonical, depth]
    exact Nat.succ_le_succ (membersDepth_canonicalMembers_le members)
  | .null | .bool _ | .int _ | .float _ | .str _ => Nat.le_refl _

theorem itemsDepth_canonicalItems_le : (items : List Json) →
    itemsDepth (canonicalItems items) ≤ itemsDepth items
  | [] => Nat.le_refl _
  | v :: rest => by
    simp only [canonicalItems, itemsDepth]
    have hv := depth_canonical_le v
    have hrest := itemsDepth_canonicalItems_le rest
    omega

theorem membersDepth_canonicalMembers_le : (members : List (String × Json)) →
    membersDepth (canonicalMembers members) ≤ membersDepth members
  | [] => Nat.le_refl _
  | (k, v) :: rest => by
    have hv := depth_canonical_le v
    have hrest := membersDepth_le_iff.1 (membersDepth_canonicalMembers_le rest)
    simp only [canonicalMembers, membersDepth]
    refine membersDepth_le_iff.2 fun m hm => ?_
    rcases mem_offerMember hm with rfl | hm
    · exact Nat.le_trans hv (Nat.le_max_left _ _)
    · exact Nat.le_trans (hrest m hm) (Nat.le_max_right _ _)

end

end SignedToken.Json
