/-!
# Cutting a text at a character

The part in front of the first occurrence of a character, and what follows it.
-/

namespace SignedToken.Text

variable {d : Char} {before after : List Char}

theorem takeWhile_cut (h : d ∉ before) :
    (before ++ d :: after).takeWhile (fun c => decide (c ≠ d)) = before := by
  have hne : ∀ c ∈ before, decide (c ≠ d) = true := by
    intro c hc
    rw [decide_eq_true_iff]
    rintro rfl
    exact h hc
  rw [List.takeWhile_append_of_pos hne, List.takeWhile_cons_of_neg (by simp), List.append_nil]

theorem dropWhile_cut (h : d ∉ before) :
    (before ++ d :: after).dropWhile (fun c => decide (c ≠ d)) = d :: after := by
  have hne : ∀ c ∈ before, decide (c ≠ d) = true := by
    intro c hc
    rw [decide_eq_true_iff]
    rintro rfl
    exact h hc
  rw [List.dropWhile_append_of_pos hne, List.dropWhile_cons_of_neg (by simp)]

theorem not_mem_takeWhile (d : Char) (cs : List Char) :
    d ∉ cs.takeWhile (fun c => decide (c ≠ d)) := by
  intro hd
  have h := List.all_eq_true.1 (List.all_takeWhile (p := fun c => decide (c ≠ d)) (l := cs)) d hd
  simp at h

theorem eq_of_dropWhile {cs rest : List Char} {c : Char}
    (h : cs.dropWhile (fun c => decide (c ≠ d)) = c :: rest) :
    c = d ∧ cs = cs.takeWhile (fun c => decide (c ≠ d)) ++ d :: rest := by
  have hc : c = d := by
    have := List.head?_dropWhile_not (fun c => decide (c ≠ d)) cs
    rw [h] at this
    simpa using this
  refine ⟨hc, ?_⟩
  rw [← hc, ← h, hc, List.takeWhile_append_dropWhile]

end SignedToken.Text
