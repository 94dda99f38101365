import SignedToken.Text.Case

/-!
# Texts that differ in letter case only

Letters change by their distance in ASCII, so that texts agree in upper case just if they agree in
lower case.
-/

namespace SignedToken.Text

theorem toNat_toUpper (c : Char) :
    c.toUpper.toNat = if 97 ≤ c.toNat ∧ c.toNat ≤ 122 then c.toNat - 32 else c.toNat := by
  delta Char.toUpper
  by_cases h : 'a'.val ≤ c.val ∧ c.val ≤ 'z'.val
  · have hc : 97 ≤ c.toNat ∧ c.toNat ≤ 122 := h
    rw [dif_pos h, if_pos hc, ← Char.toNat_val, UInt32.toNat_add]
    change (c.toNat + 4294967264) % 4294967296 = c.toNat - 32
    omega
  · rw [dif_neg h]
    exact (if_neg h).symm

theorem toNat_toLower (c : Char) :
    c.toLower.toNat = if 65 ≤ c.toNat ∧ c.toNat ≤ 90 then c.toNat + 32 else c.toNat := by
  delta Char.toLower
  by_cases h : 'A'.val ≤ c.val ∧ c.val ≤ 'Z'.val
  · have hc : 65 ≤ c.toNat ∧ c.toNat ≤ 90 := h
    rw [dif_pos h, if_pos hc, ← Char.toNat_val, UInt32.toNat_add]
    change (c.toNat + 32) % 4294967296 = c.toNat + 32
    omega
  · rw [dif_neg h]
    exact (if_neg h).symm

theorem toUpper_eq_iff {c d : Char} : c.toUpper = d.toUpper ↔ c.toLower = d.toLower := by
  rw [← Char.toNat_inj, ← Char.toNat_inj, toNat_toUpper, toNat_toUpper, toNat_toLower,
    toNat_toLower]
  grind

theorem upper_eq_iff {s t : String} : upper s = upper t ↔ lower s = lower t := by
  rw [upper, upper, lower, lower, String.ofList_inj, String.ofList_inj, lowerChars, lowerChars]
  generalize s.toList = cs
  generalize t.toList = ds
  induction cs generalizing ds with
  | nil => simp
  | cons c cs ih =>
    cases ds with
    | nil => simp
    | cons d ds => simp only [List.map_cons, List.cons.injEq, toUpper_eq_iff, ih]

end SignedToken.Text
