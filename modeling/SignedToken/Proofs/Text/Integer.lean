import SignedToken.Text.Integer

/-!
# Which texts are whole numbers

Digits, with a sign in front or without, and the number they stand for. A number is read from just
these texts, as long as it is within the bounds.
-/

namespace SignedToken.Text

/-- The characters are decimal digits, at least one of them, and stand for `n`. -/
structure IsDecimal (cs : List Char) (n : Nat) : Prop where
  ne_nil : cs ≠ []
  isDigit : ∀ c ∈ cs, c.isDigit = true
  value : Nat.ofDigitChars 10 cs 0 = n

/-- A decimal number that may have a plus sign. -/
inductive SpellsNatural : List Char → Nat → Prop
  | plain {cs n} (h : IsDecimal cs n) : SpellsNatural cs n
  | plus {cs n} (h : IsDecimal cs n) : SpellsNatural ('+' :: cs) n

/-- A decimal number that may have either sign. -/
inductive SpellsInteger : List Char → Int → Prop
  | natural {cs n} (h : SpellsNatural cs n) : SpellsInteger cs n
  | minus {cs n} (h : IsDecimal cs n) : SpellsInteger ('-' :: cs) (-n)

variable {cs : List Char}

/-! ## Digits -/

theorem foldlM_digit?_eq_some_iff {start n : Nat} :
    cs.foldlM (fun n c => (digit? c).map (n * 10 + ·)) start = some n ↔
      (∀ c ∈ cs, c.isDigit = true) ∧ Nat.ofDigitChars 10 cs start = n := by
  induction cs generalizing start with
  | nil => simp [Nat.ofDigitChars]
  | cons c cs ih =>
    rw [List.foldlM_cons, List.forall_mem_cons, Nat.ofDigitChars_cons, Nat.mul_comm 10 start]
    by_cases hc : c.isDigit = true
    · rw [digit?, if_pos hc, Option.map_some, Option.bind_eq_bind, Option.bind_some, ih]
      simp [hc]
    · simp [digit?, hc]

theorem digits?_eq_some_iff {n : Nat} : digits? cs = some n ↔ IsDecimal cs n := by
  cases cs with
  | nil => exact iff_of_false (fun h => by cases h) fun h => h.ne_nil rfl
  | cons c cs =>
    refine foldlM_digit?_eq_some_iff.trans ?_
    exact ⟨fun ⟨hdigits, hvalue⟩ => ⟨List.cons_ne_nil _ _, hdigits, hvalue⟩,
      fun h => ⟨h.isDigit, h.value⟩⟩

/-- A sign is no digit. -/
theorem not_isDecimal_cons {c : Char} (hc : c.isDigit = false) (n : Nat) :
    ¬IsDecimal (c :: cs) n := by
  intro h
  have := h.isDigit c List.mem_cons_self
  rw [hc] at this
  cases this

/-! ## Signs -/

theorem spellsNatural_plus_iff {n : Nat} : SpellsNatural ('+' :: cs) n ↔ IsDecimal cs n := by
  refine ⟨fun h => ?_, .plus⟩
  cases h with
  | plain h => exact absurd h (not_isDecimal_cons rfl n)
  | plus h => exact h

theorem spellsNatural_iff_of_ne {n : Nat} (h : ∀ rest, cs ≠ '+' :: rest) :
    SpellsNatural cs n ↔ IsDecimal cs n := by
  refine ⟨fun hn => ?_, .plain⟩
  cases hn with
  | plain hn => exact hn
  | plus hn => exact absurd rfl (h _)

theorem natural?_eq_some_iff {bound n : Nat} :
    natural? bound cs = some n ↔ SpellsNatural cs n ∧ n ≤ bound := by
  unfold natural?
  rw [Option.filter_eq_some_iff, decide_eq_true_iff]
  refine and_congr_left fun _ => ?_
  split
  · rw [digits?_eq_some_iff, spellsNatural_plus_iff]
  · rename_i h
    rw [digits?_eq_some_iff, spellsNatural_iff_of_ne h]

theorem spellsInteger_minus_iff {n : Int} :
    SpellsInteger ('-' :: cs) n ↔ ∃ m : Nat, IsDecimal cs m ∧ -(m : Int) = n := by
  constructor
  · intro h
    cases h with
    | natural h =>
      rw [spellsNatural_iff_of_ne (by simp)] at h
      exact absurd h (not_isDecimal_cons rfl _)
    | minus h => exact ⟨_, h, rfl⟩
  · rintro ⟨m, hm, rfl⟩
    exact .minus hm

theorem spellsInteger_iff_of_ne {n : Int} (h : ∀ rest, cs ≠ '-' :: rest) :
    SpellsInteger cs n ↔ ∃ m : Nat, SpellsNatural cs m ∧ (m : Int) = n := by
  constructor
  · intro hn
    cases hn with
    | natural hn => exact ⟨_, hn, rfl⟩
    | minus hn => exact absurd rfl (h _)
  · rintro ⟨m, hm, rfl⟩
    exact .natural hm

theorem signed64?_eq_some_iff {n : Int} :
    signed64? cs = some n ↔
      SpellsInteger cs n ∧ -9223372036854775808 ≤ n ∧ n ≤ 9223372036854775807 := by
  unfold signed64?
  rw [Option.filter_eq_some_iff, Bool.and_eq_true, decide_eq_true_iff, decide_eq_true_iff]
  refine and_congr_left fun _ => ?_
  split
  · rw [spellsInteger_iff_of_ne (by simp)]
    simp [digits?_eq_some_iff, spellsNatural_plus_iff]
  · simp [Option.bind_eq_some_iff, digits?_eq_some_iff, spellsInteger_minus_iff]
  · rename_i hplus hminus
    rw [spellsInteger_iff_of_ne hminus]
    simp [digits?_eq_some_iff, spellsNatural_iff_of_ne hplus]

end SignedToken.Text
