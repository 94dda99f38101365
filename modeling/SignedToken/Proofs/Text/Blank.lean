import SignedToken.Text.Blank

/-!
# Texts without blanks at their ends

Visible ASCII characters are no blanks, and a text that starts and ends with such is left alone.
What is left of any text is known from where it may be cut, and blanks around the text do not count.
-/

namespace SignedToken.Text

def IsVisible (c : Char) : Prop := 0x21 ≤ c.toNat ∧ c.toNat ≤ 0x7E

theorem IsVisible.not_isBlank {c : Char} (h : IsVisible c) : isBlank c = false := by
  obtain ⟨hl, hg⟩ := h
  simp only [isBlank, Bool.or_eq_false_iff, Bool.and_eq_false_iff, decide_eq_false_iff_not,
    beq_eq_false_iff_ne]
  omega

theorem trimStart_cons {c : Char} (h : isBlank c = false) (cs : List Char) :
    trimStart (c :: cs) = c :: cs :=
  List.dropWhile_cons_of_neg (by simp [h])

theorem trimEnd_append {c : Char} (h : isBlank c = false) (cs : List Char) :
    trimEnd (cs ++ [c]) = cs ++ [c] := by
  rw [trimEnd, List.reverse_append, List.reverse_singleton, List.singleton_append,
    List.dropWhile_cons_of_neg (by simp [h]), List.reverse_cons, List.reverse_reverse]

/-! ## What is left -/

def AllBlank (cs : List Char) : Prop := ∀ c ∈ cs, isBlank c = true

/-- `core` stands in `cs` between blanks, and neither starts nor ends with one. -/
structure TrimsTo (cs core : List Char) : Prop where
  between : ∃ before after, AllBlank before ∧ AllBlank after ∧ cs = before ++ core ++ after
  start : ∀ c rest, core = c :: rest → isBlank c = false
  stop : ∀ front c, core = front ++ [c] → isBlank c = false

section
variable {before cs after core : List Char}

theorem trimStart_blank_append (h : AllBlank before) (cs : List Char) :
    trimStart (before ++ cs) = trimStart cs :=
  List.dropWhile_append_of_pos h

theorem trimEnd_append_blank (cs : List Char) (h : AllBlank after) :
    trimEnd (cs ++ after) = trimEnd cs := by
  rw [trimEnd, List.reverse_append,
    List.dropWhile_append_of_pos fun c hc => h c (List.mem_reverse.1 hc), trimEnd]

theorem exists_blank_append_trimStart (cs : List Char) :
    ∃ before, AllBlank before ∧ cs = before ++ trimStart cs := by
  refine ⟨cs.takeWhile isBlank, fun c hc => ?_, List.takeWhile_append_dropWhile.symm⟩
  exact List.all_eq_true.1 List.all_takeWhile c hc

theorem exists_trimEnd_append_blank (cs : List Char) :
    ∃ after, AllBlank after ∧ cs = trimEnd cs ++ after := by
  obtain ⟨after, hafter, hcs⟩ := exists_blank_append_trimStart cs.reverse
  refine ⟨after.reverse, fun c hc => hafter c (List.mem_reverse.1 hc), ?_⟩
  have hreverse := congrArg List.reverse hcs
  rw [List.reverse_append, List.reverse_reverse] at hreverse
  exact hreverse

theorem not_isBlank_of_trimStart {c : Char} {rest : List Char} (h : trimStart cs = c :: rest) :
    isBlank c = false := by
  have hhead := List.head?_dropWhile_not isBlank cs
  rw [← trimStart, h] at hhead
  simpa using hhead

theorem not_isBlank_of_trimEnd {c : Char} {front : List Char} (h : trimEnd cs = front ++ [c]) :
    isBlank c = false := by
  rw [trimEnd, List.reverse_eq_iff, List.reverse_append, List.reverse_singleton] at h
  exact not_isBlank_of_trimStart h

/-- Blanks around a text do not count. -/
theorem trimChars_blanks_around (hbefore : AllBlank before) (cs : List Char)
    (hafter : AllBlank after) : trimChars (before ++ cs ++ after) = trimChars cs := by
  obtain ⟨blanks, hblanks, hcs⟩ := exists_blank_append_trimStart cs
  rw [List.append_assoc, trimChars, trimStart_blank_append hbefore, trimChars]
  cases hstart : trimStart cs with
  | nil =>
    rw [hstart, List.append_nil] at hcs
    rw [hcs, trimStart_blank_append hblanks, ← List.append_nil after, trimStart_blank_append hafter]
    rfl
  | cons c rest =>
    have hc := not_isBlank_of_trimStart hstart
    rw [hcs, hstart, List.append_assoc, trimStart_blank_append hblanks, List.cons_append,
      trimStart_cons hc, ← List.cons_append, trimEnd_append_blank _ hafter]

theorem trimsTo_trimChars (cs : List Char) : TrimsTo cs (trimChars cs) := by
  obtain ⟨before, hbefore, hcs⟩ := exists_blank_append_trimStart cs
  obtain ⟨after, hafter, hstart⟩ := exists_trimEnd_append_blank (trimStart cs)
  refine ⟨⟨before, after, hbefore, hafter, ?_⟩, fun c rest hcore => ?_, fun front c hcore => ?_⟩
  · rw [List.append_assoc, trimChars, ← hstart, ← hcs]
  · rw [trimChars] at hcore
    rw [hcore, List.cons_append] at hstart
    exact not_isBlank_of_trimStart hstart
  · exact not_isBlank_of_trimEnd hcore

theorem TrimsTo.eq (h : TrimsTo cs core) : trimChars cs = core := by
  obtain ⟨before, after, hbefore, hafter, rfl⟩ := h.between
  rw [trimChars_blanks_around hbefore core hafter, trimChars]
  cases hcore : core with
  | nil => rfl
  | cons c rest =>
    rw [trimStart_cons (h.start c rest hcore)]
    rcases List.eq_nil_or_concat (c :: rest) with hnil | ⟨front, last, hlast⟩
    · cases hnil
    · rw [List.concat_eq_append] at hlast
      rw [hlast, trimEnd_append (h.stop front last (hcore.trans hlast))]

theorem trimChars_eq_iff : trimChars cs = core ↔ TrimsTo cs core :=
  ⟨fun h => h ▸ trimsTo_trimChars cs, TrimsTo.eq⟩

theorem trimsTo_nil_iff : TrimsTo cs [] ↔ AllBlank cs := by
  constructor
  · rintro ⟨⟨before, after, hbefore, hafter, rfl⟩, -, -⟩ c hc
    rw [List.append_nil] at hc
    exact (List.mem_append.1 hc).elim (hbefore c) (hafter c)
  · intro h
    exact ⟨⟨cs, [], h, by simp [AllBlank], by simp⟩, by simp, by simp⟩

end

end SignedToken.Text
