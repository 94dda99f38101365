import Mathlib.Data.Nat.Nth
import SignedToken.Identifier

/-!
# What identifiers are drawn from

An identifier takes the usable draws from its place on as they come, one for each character, and
leaves the stream behind the last of them. So identifiers that are drawn one after the other have
no draw in common, and no usable draw is lost between them.
-/

namespace SignedToken

/-! ## Runs over a stream -/

/-- `n` characters are taken from a stream of bytes between two places, looking at one draw after
the other. -/
inductive Sampled (bytes : Nat → UInt8) : Nat → Nat → List Char → Nat → Prop
  | done (p : Nat) : Sampled bytes 0 p [] p
  | skip {n p after : Nat} {cs : List Char} (hunusable : 62 ≤ drawnIndex bytes p)
      (hlater : Sampled bytes (n + 1) (p + 1) cs after) : Sampled bytes (n + 1) p cs after
  | take {n p after : Nat} {c : Char} {cs : List Char}
      (husable : alphabet[drawnIndex bytes p]? = some c)
      (hlater : Sampled bytes n (p + 1) cs after) : Sampled bytes (n + 1) p (c :: cs) after

theorem length_alphabet : alphabet.length = 62 :=
  rfl

theorem lt_of_getElem?_alphabet {k : Nat} {c : Char} (h : alphabet[k]? = some c) : k < 62 :=
  (List.getElem?_eq_some_iff.1 h).1

theorem getElem?_alphabet {k : Nat} (h : k < 62) :
    alphabet[k]? = some (alphabet.getD k 'A') := by
  rw [List.getD_eq_getElem?_getD, List.getElem?_eq_getElem (length_alphabet ▸ h), Option.getD_some]

theorem isAlphanum_of_mem_alphabet {c : Char} (h : c ∈ alphabet) : c.isAlphanum := by
  have hall : alphabet.all Char.isAlphanum = true := by decide +kernel
  exact List.all_eq_true.1 hall c h

namespace Entropy

variable (e : Entropy) {n p q after : Nat} {cs : List Char}

/-! ## One search -/

theorem le_search (p : Nat) : p ≤ e.search p := by
  fun_induction e.search p with
  | case1 => exact Nat.le_refl _
  | case2 p _ ih => exact Nat.le_of_succ_le ih

theorem index_search_lt (p : Nat) : e.index (e.search p) < 62 := by
  fun_induction e.search p with
  | case1 p husable => exact husable
  | case2 p _ ih => exact ih

theorem search_of_usable (h : e.index p < 62) : e.search p = p := by
  rw [search, if_pos h]

theorem search_of_unusable (h : ¬ e.index p < 62) : e.search p = e.search (p + 1) := by
  rw [search, if_neg h]

/-- A search passes over no usable draw. -/
theorem search_le (hle : p ≤ q) (h : e.index q < 62) : e.search p ≤ q := by
  fun_induction e.search p with
  | case1 => exact hle
  | case2 p hunusable ih =>
    exact ih (Nat.lt_of_le_of_ne hle fun heq => hunusable (heq ▸ h))

/-! ## All characters -/

theorem characters_of_unusable (h : ¬ e.index p < 62) (n : Nat) :
    e.characters (n + 1) p = e.characters (n + 1) (p + 1) := by
  rw [characters, characters, e.search_of_unusable h]

theorem characters_of_usable (h : e.index p < 62) (n : Nat) :
    e.characters (n + 1) p = (alphabet.getD (e.index p) 'A' :: (e.characters n (p + 1)).1,
      (e.characters n (p + 1)).2) := by
  rw [characters, e.search_of_usable h]

theorem sampled_search (h : Sampled e.bytes n (e.search p + 1) cs after) :
    Sampled e.bytes (n + 1) p (alphabet.getD (e.index (e.search p)) 'A' :: cs) after := by
  fun_induction e.search p with
  | case1 p husable => exact .take (getElem?_alphabet husable) h
  | case2 p hunusable ih => exact .skip (Nat.le_of_not_lt hunusable) (ih h)

theorem sampled_characters (n p : Nat) :
    Sampled e.bytes n p (e.characters n p).1 (e.characters n p).2 := by
  induction n generalizing p with
  | zero => exact .done p
  | succ n ih => exact e.sampled_search (ih (e.search p + 1))

theorem characters_of_sampled (h : Sampled e.bytes n p cs after) :
    e.characters n p = (cs, after) := by
  induction h with
  | done => rfl
  | skip hunusable _ ih =>
    rw [e.characters_of_unusable (Nat.not_lt.2 hunusable), ih]
  | @take n p after c cs husable _ ih =>
    have hindex : e.index p < 62 := lt_of_getElem?_alphabet husable
    have hc : alphabet.getD (e.index p) 'A' = c :=
      Option.some.inj ((getElem?_alphabet hindex).symm.trans husable)
    rw [e.characters_of_usable hindex, ih, hc]

theorem length_characters (n p : Nat) : (e.characters n p).1.length = n := by
  induction n generalizing p with
  | zero => rfl
  | succ n ih => rw [characters, List.length_cons, ih]

theorem le_characters (n p : Nat) : p + n ≤ (e.characters n p).2 := by
  induction n generalizing p with
  | zero => exact Nat.le_refl _
  | succ n ih =>
    have hsearch := e.le_search p
    have hlater := ih (e.search p + 1)
    rw [characters]
    dsimp only
    omega

theorem characters_add (m n p : Nat) :
    e.characters (m + n) p = ((e.characters m p).1 ++ (e.characters n (e.characters m p).2).1,
      (e.characters n (e.characters m p).2).2) := by
  induction m generalizing p with
  | zero => rw [Nat.zero_add]; rfl
  | succ m ih =>
    rw [Nat.add_right_comm, characters, ih]
    rfl

/-! ## The usable draws in their order -/

/-- `k` is the number of a usable draw from the place `p` on. -/
def IsUsable (p k : Nat) : Prop := p ≤ k ∧ e.index k < 62

instance (p : Nat) : DecidablePred (e.IsUsable p) :=
  fun _ => inferInstanceAs (Decidable (_ ∧ _))

theorem isUsable_search (p : Nat) : e.IsUsable p (e.search p) :=
  ⟨e.le_search p, e.index_search_lt p⟩

theorem isUsable_iff {k : Nat} :
    e.IsUsable p k ↔ k = e.search p ∨ e.IsUsable (e.search p + 1) k := by
  constructor
  · intro h
    exact (Nat.eq_or_lt_of_le (e.search_le h.1 h.2)).imp Eq.symm fun hlt => ⟨hlt, h.2⟩
  · rintro (rfl | ⟨hlt, husable⟩)
    · exact e.isUsable_search p
    · exact ⟨(e.le_search p).trans (Nat.le_of_succ_le hlt), husable⟩

theorem infinite_isUsable (p : Nat) : (Set.ofPred (e.IsUsable p)).Infinite := by
  refine Set.infinite_of_forall_exists_gt fun k => ?_
  obtain ⟨q, hq, husable⟩ := e.endless (max p (k + 1))
  exact ⟨q, ⟨(Nat.le_max_left _ _).trans hq, husable⟩, (Nat.le_max_right _ _).trans hq⟩

/-- Behind the draw that a search finds, one usable draw fewer is to come. -/
theorem count_isUsable (p k : Nat) :
    Nat.count (e.IsUsable p) k
      = Nat.count (e.IsUsable (e.search p + 1)) k + if e.search p < k then 1 else 0 := by
  induction k with
  | zero => rfl
  | succ k ih =>
    have hstep := e.isUsable_iff (p := p) (k := k)
    have hafter : e.IsUsable (e.search p + 1) k → e.search p < k := fun h => h.1
    rw [Nat.count_succ, Nat.count_succ, ih]
    -- the draw that the search finds is the only one that counts on one side alone
    by_cases hk : e.IsUsable (e.search p + 1) k
    · have hlt := hafter hk
      rw [if_pos (hstep.2 (.inr hk)), if_pos hk, if_pos hlt, if_pos (Nat.lt_succ_of_lt hlt)]
    · rw [if_neg hk, if_congr (hstep.trans (or_iff_left hk)) rfl rfl]
      split_ifs <;> omega

theorem nth_isUsable_zero (p : Nat) : Nat.nth (e.IsUsable p) 0 = e.search p := by
  have hleast : IsLeast (Set.ofPred (e.IsUsable p)) (e.search p) :=
    ⟨e.isUsable_search p, fun _ h => e.search_le h.1 h.2⟩
  rw [Nat.nth_zero, hleast.csInf_eq]

theorem nth_isUsable_succ (p i : Nat) :
    Nat.nth (e.IsUsable p) (i + 1) = Nat.nth (e.IsUsable (e.search p + 1)) i := by
  have hlater : e.IsUsable (e.search p + 1) (Nat.nth (e.IsUsable (e.search p + 1)) i) :=
    Nat.nth_mem_of_infinite (e.infinite_isUsable _) i
  have hcount := e.count_isUsable p (Nat.nth (e.IsUsable (e.search p + 1)) i)
  rw [Nat.count_nth_of_infinite (e.infinite_isUsable _),
    if_pos (Nat.lt_of_succ_le hlater.1)] at hcount
  rw [← hcount, Nat.nth_count (e.isUsable_iff.2 (.inr hlater))]

theorem getElem?_characters {i : Nat} (h : i < n) (p : Nat) :
    (e.characters n p).1[i]? = alphabet[e.index (Nat.nth (e.IsUsable p) i)]? := by
  induction n generalizing p i with
  | zero => exact absurd h (Nat.not_lt_zero i)
  | succ n ih =>
    rw [characters]
    cases i with
    | zero =>
      rw [List.getElem?_cons_zero, nth_isUsable_zero, getElem?_alphabet (e.index_search_lt p)]
    | succ i => rw [List.getElem?_cons_succ, ih (Nat.lt_of_succ_lt_succ h), nth_isUsable_succ]

theorem characters_succ_snd (n p : Nat) :
    (e.characters (n + 1) p).2 = Nat.nth (e.IsUsable p) n + 1 := by
  induction n generalizing p with
  | zero => rw [nth_isUsable_zero]; rfl
  | succ n ih => rw [characters, nth_isUsable_succ, ← ih]

end Entropy

/-! ## Identifiers -/

namespace Identifier

theorem length_random (e : Entropy) (place : Nat) : (random e place).1.length = 64 := by
  rw [random, draw, String.length_ofList, Entropy.length_characters]
  rfl

theorem lt_random (e : Entropy) (place : Nat) : place < (random e place).2 :=
  Nat.lt_of_lt_of_le (Nat.lt_add_of_pos_right (by decide)) (e.le_characters defaultLength place)

theorem isAlphanum_of_mem_draw {e : Entropy} {n place : Nat} {c : Char}
    (h : c ∈ (draw e n place).1.toList) : c.isAlphanum := by
  rw [draw, String.toList_ofList] at h
  obtain ⟨i, hi⟩ := List.mem_iff_getElem?.1 h
  have hlt : i < n := e.length_characters n place ▸ (List.getElem?_eq_some_iff.1 hi).1
  rw [e.getElem?_characters hlt] at hi
  exact isAlphanum_of_mem_alphabet (List.mem_of_getElem? hi)

theorem draw_add (e : Entropy) (m n place : Nat) :
    draw e (m + n) place = ((draw e m place).1 ++ (draw e n (draw e m place).2).1,
      (draw e n (draw e m place).2).2) := by
  rw [draw, e.characters_add, draw, draw]
  dsimp only
  rw [String.ofList_append]

/-- Every text of random letters and digits comes to its end, has the length asked for and shows
the first usable draws from its place on in the order of the stream; the stream is left behind the
last of them. Two texts in a row are therefore the text of both lengths together. -/
theorem draw_lossless (e : Entropy) (n place : Nat) :
    (∃ cs after, Sampled e.bytes n place cs after)
    ∧ (∀ cs after, Sampled e.bytes n place cs after → draw e n place = (String.ofList cs, after))
    ∧ (draw e n place).1.length = n
    ∧ (∀ c ∈ (draw e n place).1.toList, c.isAlphanum)
    ∧ (∀ i < n, (draw e n place).1.toList[i]?
        = alphabet[e.index (Nat.nth (fun k => place ≤ k ∧ e.index k < 62) i)]?)
    ∧ (draw e n place).2 = (match n with
        | 0 => place
        | k + 1 => Nat.nth (fun k => place ≤ k ∧ e.index k < 62) k + 1)
    ∧ ∀ m, draw e (m + n) place = ((draw e m place).1 ++ (draw e n (draw e m place).2).1,
        (draw e n (draw e m place).2).2) := by
  refine ⟨⟨_, _, e.sampled_characters n place⟩, fun cs after hrun => ?_, ?_,
    fun c => isAlphanum_of_mem_draw, fun i hi => ?_, ?_, fun m => draw_add e m n place⟩
  · rw [draw, e.characters_of_sampled hrun]
  · rw [draw, String.length_ofList, e.length_characters]
  · rw [draw, String.toList_ofList]
    exact e.getElem?_characters hi place
  · cases n with
    | zero => rfl
    | succ n => exact e.characters_succ_snd n place

/-- A source of which every other draw is thrown away. -/
def alternating : Entropy where
  bytes := Entropy.repeated #[255, 255, 255, 255, 0, 0, 0, 4]
  endless p := ⟨1 + 8 * p, by omega,
    (Entropy.drawnIndex_repeated #[255, 255, 255, 255, 0, 0, 0, 4] 1 p).trans_lt (by decide)⟩

/-- What is thrown away in front of a draw belongs to the text that takes the draw. -/
theorem draw_lossless_alternating :
    draw alternating 2 0 = ("BB", 4)
      ∧ draw alternating (2 + 1) 0
        = ("BB" ++ (draw alternating 1 4).1, (draw alternating 1 4).2) := by
  have hskip (k : Nat) (hk : k ∈ [0, 2]) : 62 ≤ drawnIndex alternating.bytes k := by
    revert k
    decide
  have hrun : Sampled alternating.bytes 2 0 ['B', 'B'] 4 :=
    .skip (hskip 0 (by decide)) (.take rfl (.skip (hskip 2 (by decide)) (.take rfl (.done 4))))
  have hdraw : draw alternating 2 0 = ("BB", 4) :=
    (draw_lossless alternating 2 0).2.1 ['B', 'B'] 4 hrun
  have hmore := (draw_lossless alternating 1 0).2.2.2.2.2.2 2
  rw [hdraw] at hmore
  exact ⟨hdraw, hmore⟩

end Identifier

end SignedToken
