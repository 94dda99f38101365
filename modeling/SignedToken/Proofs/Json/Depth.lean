import SignedToken.Json.Reader
import SignedToken.Proofs.Json.Shape

/-!
# How deep a reader goes

What is read of a text nests no deeper than the reader goes.
-/

namespace SignedToken.Json

open Ascii

variable {α : Type}

theorem exists_item_of_moreItems {close : UInt8} {item : List UInt8 → Option (α × List UInt8)}
    {size : Nat} {bs rest : List UInt8} {as : List α}
    (h : moreItems close item size bs = some (as, rest)) :
    ∀ a ∈ as, ∃ bs rest, item bs = some (a, rest) := by
  induction size generalizing bs rest as with
  | zero => cases h
  | succ size ih =>
    rw [moreItems] at h
    obtain ⟨⟨a, after⟩, ha, h⟩ := Option.bind_eq_some_iff.1 h
    intro x hx
    dsimp only at h
    split at h
    · cases h
    split at h
    · obtain ⟨⟨as', rest'⟩, hmore, h⟩ := Option.bind_eq_some_iff.1 h
      cases h
      rcases List.mem_cons.1 hx with rfl | hx
      · exact ⟨bs, after, ha⟩
      · exact ih hmore x hx
    split at h
    · cases h
      rw [List.mem_singleton.1 hx]
      exact ⟨bs, after, ha⟩
    · cases h

theorem exists_item_of_items {close : UInt8} {item : List UInt8 → Option (α × List UInt8)}
    {size : Nat} {bs rest : List UInt8} {as : List α}
    (h : items close item size bs = some (as, rest)) :
    ∀ a ∈ as, ∃ bs rest, item bs = some (a, rest) := by
  unfold items at h
  split at h
  · cases h
  split at h
  · cases h
    simp
  · exact exists_item_of_moreItems h

theorem depth_of_scalar {bs rest : List UInt8} {v : Json} (h : scalar bs = some (v, rest)) :
    v.depth = 0 := by
  have hliteral {word : String} {w : Json} {bs : List UInt8} (hw : w.depth = 0)
      (h : literal word w bs = some (v, rest)) : v.depth = 0 := by
    obtain ⟨_, -, h⟩ := Option.map_eq_some_iff.1 h
    cases h
    exact hw
  rw [scalar.eq_def] at h
  split at h
  · cases h
  split at h
  · obtain ⟨_, -, h⟩ := Option.map_eq_some_iff.1 h
    cases h
    rfl
  split at h
  · exact hliteral rfl h
  split at h
  · exact hliteral rfl h
  split at h
  · exact hliteral rfl h
  · simp only [number, ofNumeral?, bind, Option.bind_eq_some_iff, pure] at h
    obtain ⟨⟨n, after⟩, -, w, hw, h⟩ := h
    cases h
    split at hw
    · cases hw
      rfl
    · obtain ⟨x, -, rfl⟩ := Option.map_eq_some_iff.1 hw
      rfl

theorem depth_le_of_value {size depth : Nat} {bs rest : List UInt8} {v : Json}
    (h : value size depth bs = some (v, rest)) : v.depth ≤ depth := by
  induction depth generalizing bs rest v with
  | zero => exact Nat.le_of_eq (depth_of_scalar h)
  | succ depth ih =>
    rw [value] at h
    split at h
    · cases h
    split at h
    · obtain ⟨⟨vs, after⟩, hitems, h⟩ := Option.map_eq_some_iff.1 h
      cases h
      refine Nat.succ_le_succ (itemsDepth_le_iff.2 fun w hw => ?_)
      obtain ⟨bs', rest', hw⟩ := exists_item_of_items hitems w hw
      exact ih hw
    split at h
    · obtain ⟨⟨ms, after⟩, hitems, h⟩ := Option.map_eq_some_iff.1 h
      cases h
      refine Nat.succ_le_succ (membersDepth_le_iff.2 fun m hm => ?_)
      obtain ⟨bs', rest', hm⟩ := exists_item_of_items hitems m hm
      simp only [member, bind, Option.bind_eq_some_iff, pure] at hm
      obtain ⟨⟨k, behindName⟩, -, ⟨w, behindValue⟩, hw, hm⟩ := hm
      cases hm
      exact ih hw
    · exact Nat.le_trans (Nat.le_of_eq (depth_of_scalar h)) (Nat.zero_le _)

end SignedToken.Json
