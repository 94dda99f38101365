import SignedToken.Bytes.Utf8

/-!
# Reading UTF-8 that was written here

Reading inverts writing, so that two texts never have the same bytes. A character outside ASCII has
no byte of ASCII in its sequence.
-/

namespace SignedToken.Utf8

/-! ## Writing -/

@[simp] theorem encode_nil : encode [] = [] := rfl

@[simp] theorem encode_cons (c : Char) (cs : List Char) :
    encode (c :: cs) = encodeChar c ++ encode cs := rfl

@[simp] theorem encode_append (cs ds : List Char) : encode (cs ++ ds) = encode cs ++ encode ds := by
  simp [encode]

theorem encodeChar_of_ascii {c : Char} (h : c.toNat < 0x80) : encodeChar c = [.ofNat c.toNat] := by
  simp [encodeChar, h]

theorem encode_of_ascii {cs : List Char} (h : ∀ c ∈ cs, c.toNat < 0x80) :
    encode cs = cs.map fun c => .ofNat c.toNat := by
  induction cs with
  | nil => rfl
  | cons c cs ih =>
    rw [encode_cons, encodeChar_of_ascii (h c (by simp)), ih fun d hd => h d (by simp [hd])]
    rfl

theorem toNat_lt (c : Char) : c.toNat < 0xD800 ∨ 0xDFFF < c.toNat ∧ c.toNat < 0x110000 := c.valid

/-- The sequence of a character, by its length. -/
theorem encodeChar_cases (c : Char) :
    (c.toNat < 0x80 ∧ encodeChar c = [.ofNat c.toNat])
    ∨ (0x80 ≤ c.toNat ∧ c.toNat < 0x800
      ∧ encodeChar c = [.ofNat (0xC0 + c.toNat / 64), .ofNat (0x80 + c.toNat % 64)])
    ∨ (0x800 ≤ c.toNat ∧ c.toNat < 0x10000
      ∧ encodeChar c = [.ofNat (0xE0 + c.toNat / 4096), .ofNat (0x80 + c.toNat / 64 % 64),
        .ofNat (0x80 + c.toNat % 64)])
    ∨ (0x10000 ≤ c.toNat ∧ c.toNat < 0x110000
      ∧ encodeChar c = [.ofNat (0xF0 + c.toNat / 262144), .ofNat (0x80 + c.toNat / 4096 % 64),
        .ofNat (0x80 + c.toNat / 64 % 64), .ofNat (0x80 + c.toNat % 64)]) := by
  have hc := toNat_lt c
  by_cases h1 : c.toNat < 0x80
  · exact .inl ⟨h1, by simp [encodeChar, h1]⟩
  by_cases h2 : c.toNat < 0x800
  · exact .inr (.inl ⟨by omega, h2, by simp [encodeChar, h1, h2]⟩)
  by_cases h3 : c.toNat < 0x10000
  · exact .inr (.inr (.inl ⟨by omega, h3, by simp [encodeChar, h1, h2, h3]⟩))
  · exact .inr (.inr (.inr ⟨by omega, by omega, by simp [encodeChar, h1, h2, h3]⟩))

theorem le_of_mem_encodeChar {c : Char} (h : 0x80 ≤ c.toNat) {b : UInt8} (hb : b ∈ encodeChar c) :
    0x80 ≤ b := by
  rw [UInt8.le_iff_toNat_le]
  rcases encodeChar_cases c with ⟨h1, -⟩ | ⟨-, h2, he⟩ | ⟨-, h2, he⟩ | ⟨-, h2, he⟩
  · omega
  all_goals
    simp only [he, List.mem_cons, List.not_mem_nil, or_false] at hb
    rcases hb with rfl | hb
    · simp only [UInt8.reduceToNat, UInt8.toNat_ofNat']
      omega
  · subst hb
    simp only [UInt8.reduceToNat, UInt8.toNat_ofNat']
    omega
  · rcases hb with rfl | rfl <;> simp only [UInt8.reduceToNat, UInt8.toNat_ofNat'] <;> omega
  · rcases hb with rfl | rfl | rfl <;> simp only [UInt8.reduceToNat, UInt8.toNat_ofNat'] <;> omega

/-! ## Reading one sequence -/

section
variable {index : Nat} {done : List Char} {a b c d : UInt8} {rest : List UInt8}

theorem decodeFrom_one (ha : a < 0x80) :
    decodeFrom index done (a :: rest)
      = decodeFrom (index + 1) (Char.ofNat a.toNat :: done) rest := by
  rw [decodeFrom.eq_def]
  simp only [ha, if_true]

theorem decodeFrom_two (ha : 0xC2 ≤ a ∧ a ≤ 0xDF) (hb : isContinuation b = true) :
    decodeFrom index done (a :: b :: rest)
      = decodeFrom (index + 2)
        (Char.ofNat ((a.toNat - 0xC0) * 64 + (b.toNat - 0x80)) :: done) rest := by
  have h1 : ¬ a < 0x80 := by grind
  rw [decodeFrom.eq_def]
  simp only [h1, ha, hb, if_true, if_false, decide_true, Bool.and_self]

theorem decodeFrom_three (ha : 0xE0 ≤ a ∧ a ≤ 0xEF) (hb : isSecond a b = true)
    (hc : isContinuation c = true) :
    decodeFrom index done (a :: b :: c :: rest)
      = decodeFrom (index + 3)
        (Char.ofNat ((a.toNat - 0xE0) * 4096 + (b.toNat - 0x80) * 64 + (c.toNat - 0x80)) :: done)
        rest := by
  have h1 : ¬ a < 0x80 := by grind
  have h2 : ¬ a ≤ 0xDF := by grind
  rw [decodeFrom.eq_def]
  simp [h1, h2, ha, hb, hc]

theorem decodeFrom_four (ha : 0xF0 ≤ a ∧ a ≤ 0xF4) (hb : isSecond a b = true)
    (hc : isContinuation c = true) (hd : isContinuation d = true) :
    decodeFrom index done (a :: b :: c :: d :: rest)
      = decodeFrom (index + 4)
        (Char.ofNat ((a.toNat - 0xF0) * 262144 + (b.toNat - 0x80) * 4096
          + (c.toNat - 0x80) * 64 + (d.toNat - 0x80)) :: done)
        rest := by
  have h1 : ¬ a < 0x80 := by grind
  have h2 : ¬ a ≤ 0xDF := by grind
  have h3 : ¬ a ≤ 0xEF := by grind
  rw [decodeFrom.eq_def]
  simp [h1, h2, h3, ha, hb, hc, hd]

end

theorem toNat_ofNat {n : Nat} (h : n < 256) : (UInt8.ofNat n).toNat = n :=
  UInt8.toNat_ofNat_of_lt' h

theorem isContinuation_ofNat (n : Nat) : isContinuation (.ofNat (0x80 + n % 64)) = true := by
  simp only [isContinuation, UInt8.le_iff_toNat_le, UInt8.toNat_ofNat', UInt8.reduceToNat,
    Bool.and_eq_true, decide_eq_true_eq]
  omega

/-- The second byte of three tells what is written from surrogates and overlong forms. -/
theorem isSecond_of_three {n : Nat} (h1 : 0x800 ≤ n) (h2 : n < 0x10000)
    (hs : n < 0xD800 ∨ 0xDFFF < n) :
    isSecond (.ofNat (0xE0 + n / 4096)) (.ofNat (0x80 + n / 64 % 64)) = true := by
  have ha := toNat_ofNat (n := 0xE0 + n / 4096) (by omega)
  have hb := toNat_ofNat (n := 0x80 + n / 64 % 64) (by omega)
  simp only [isSecond, isContinuation, ← UInt8.toNat_inj, UInt8.le_iff_toNat_le, ha, hb,
    UInt8.reduceToNat]
  grind

theorem isSecond_of_four {n : Nat} (h1 : 0x10000 ≤ n) (h2 : n < 0x110000) :
    isSecond (.ofNat (0xF0 + n / 262144)) (.ofNat (0x80 + n / 4096 % 64)) = true := by
  have ha := toNat_ofNat (n := 0xF0 + n / 262144) (by omega)
  have hb := toNat_ofNat (n := 0x80 + n / 4096 % 64) (by omega)
  simp only [isSecond, isContinuation, ← UInt8.toNat_inj, UInt8.le_iff_toNat_le, ha, hb,
    UInt8.reduceToNat]
  grind

/-! ## Reading a text -/

theorem decodeFrom_encodeChar (index : Nat) (done : List Char) (c : Char) (rest : List UInt8) :
    decodeFrom index done (encodeChar c ++ rest)
      = decodeFrom (index + (encodeChar c).length) (c :: done) rest := by
  have hv := toNat_lt c
  -- In each of the four lengths the bytes are in range, and their bits spell the character again.
  rcases encodeChar_cases c with ⟨h1, he⟩ | ⟨h1, h2, he⟩ | ⟨h1, h2, he⟩ | ⟨h1, h2, he⟩
  · have ha := toNat_ofNat (n := c.toNat) (by omega)
    rw [he, List.singleton_append, decodeFrom_one, ha, Char.ofNat_toNat]
    · rfl
    · rw [UInt8.lt_iff_toNat_lt, ha]
      exact h1
  · have ha := toNat_ofNat (n := 0xC0 + c.toNat / 64) (by omega)
    have hb := toNat_ofNat (n := 0x80 + c.toNat % 64) (by omega)
    have hc : (0xC0 + c.toNat / 64 - 0xC0) * 64 + (0x80 + c.toNat % 64 - 0x80) = c.toNat := by omega
    rw [he, List.cons_append, List.singleton_append, decodeFrom_two _ (isContinuation_ofNat _),
      ha, hb, hc, Char.ofNat_toNat]
    · rfl
    · rw [UInt8.le_iff_toNat_le, UInt8.le_iff_toNat_le, ha]
      simp only [UInt8.reduceToNat]
      omega
  · have ha := toNat_ofNat (n := 0xE0 + c.toNat / 4096) (by omega)
    have hb := toNat_ofNat (n := 0x80 + c.toNat / 64 % 64) (by omega)
    have hc := toNat_ofNat (n := 0x80 + c.toNat % 64) (by omega)
    have hn : (0xE0 + c.toNat / 4096 - 0xE0) * 4096 + (0x80 + c.toNat / 64 % 64 - 0x80) * 64
        + (0x80 + c.toNat % 64 - 0x80) = c.toNat := by omega
    rw [he, List.cons_append, List.cons_append, List.singleton_append,
      decodeFrom_three _ (isSecond_of_three h1 h2 (by omega)) (isContinuation_ofNat _),
      ha, hb, hc, hn, Char.ofNat_toNat]
    · rfl
    · rw [UInt8.le_iff_toNat_le, UInt8.le_iff_toNat_le, ha]
      simp only [UInt8.reduceToNat]
      omega
  · have ha := toNat_ofNat (n := 0xF0 + c.toNat / 262144) (by omega)
    have hb := toNat_ofNat (n := 0x80 + c.toNat / 4096 % 64) (by omega)
    have hc := toNat_ofNat (n := 0x80 + c.toNat / 64 % 64) (by omega)
    have hd := toNat_ofNat (n := 0x80 + c.toNat % 64) (by omega)
    have hn : (0xF0 + c.toNat / 262144 - 0xF0) * 262144 + (0x80 + c.toNat / 4096 % 64 - 0x80) * 4096
        + (0x80 + c.toNat / 64 % 64 - 0x80) * 64 + (0x80 + c.toNat % 64 - 0x80) = c.toNat := by omega
    rw [he, List.cons_append, List.cons_append, List.cons_append, List.singleton_append,
      decodeFrom_four _ (isSecond_of_four h1 h2) (isContinuation_ofNat _) (isContinuation_ofNat _),
      ha, hb, hc, hd, hn, Char.ofNat_toNat]
    · rfl
    · rw [UInt8.le_iff_toNat_le, UInt8.le_iff_toNat_le, ha]
      simp only [UInt8.reduceToNat]
      omega

theorem decodeFrom_encode (index : Nat) (done cs : List Char) :
    decodeFrom index done (encode cs) = .ok (done.reverse ++ cs) := by
  induction cs generalizing index done with
  | nil => simp [decodeFrom]
  | cons c cs ih =>
    rw [encode_cons, decodeFrom_encodeChar, ih, List.reverse_cons, List.append_assoc,
      List.singleton_append]

theorem decode_encode (cs : List Char) : decode (encode cs) = .ok cs := by
  simp [decode, decodeFrom_encode]

@[simp] theorem text?_encode (cs : List Char) : text? (encode cs) = some (String.ofList cs) := by
  simp [text?, decode_encode]

theorem encode_injective {cs ds : List Char} (h : encode cs = encode ds) : cs = ds := by
  have hc := decode_encode cs
  rw [h, decode_encode] at hc
  exact (Except.ok.inj hc).symm

theorem bytes_ne_nil {s : String} (h : s ≠ "") : bytes s ≠ [] := by
  intro he
  exact h (String.toList_eq_nil_iff.1 (encode_injective (he.trans encode_nil.symm)))

/-! ## Lengths -/

theorem toNat_charOfNat_le (n : Nat) : (Char.ofNat n).toNat ≤ n := by
  by_cases hvalid : n.isValidChar
  · rw [Char.ofNat, dif_pos hvalid]
    exact Nat.le_refl _
  · rw [Char.ofNat, dif_neg hvalid]
    exact Nat.zero_le _

/-- The smaller a number, the fewer bytes its character takes. -/
theorem length_encodeChar_ofNat (n : Nat) :
    (encodeChar (.ofNat n)).length ≤ 4 ∧ (n < 0x10000 → (encodeChar (.ofNat n)).length ≤ 3)
      ∧ (n < 0x800 → (encodeChar (.ofNat n)).length ≤ 2)
      ∧ (n < 0x80 → (encodeChar (.ofNat n)).length ≤ 1) := by
  have hn := toNat_charOfNat_le n
  rcases encodeChar_cases (.ofNat n) with ⟨h, he⟩ | ⟨h, h', he⟩ | ⟨h, h', he⟩ | ⟨h, h', he⟩ <;>
    simp only [he, List.length_cons, List.length_nil] <;> omega

theorem length_encode_reverse (cs : List Char) :
    (encode cs.reverse).length = (encode cs).length := by
  induction cs with
  | nil => rfl
  | cons c cs ih =>
    rw [List.reverse_cons, encode_append, List.length_append, ih, encode_cons, encode_nil,
      List.append_nil, encode_cons, List.length_append, Nat.add_comm]

theorem toNat_le_of_isContinuation {b : UInt8} (h : isContinuation b = true) : b.toNat ≤ 0xBF := by
  simp only [isContinuation, Bool.and_eq_true, decide_eq_true_eq] at h
  exact UInt8.le_iff_toNat_le.1 h.2

theorem toNat_le_of_isSecond {a b : UInt8} (h : isSecond a b = true) : b.toNat ≤ 0xBF := by
  simp only [isSecond, isContinuation, UInt8.le_iff_toNat_le, UInt8.reduceToNat] at h
  grind

/-- What is decoded takes no more bytes than it was decoded from. -/
theorem length_encode_of_decodeFrom {index : Nat} {done cs : List Char} {bs : List UInt8}
    (h : decodeFrom index done bs = .ok cs) :
    (encode cs).length ≤ (encode done).length + bs.length := by
  fun_induction decodeFrom index done bs with
  | case1 index done =>
    cases h
    rw [length_encode_reverse]
    exact Nat.le_add_right _ _
  | case2 index done a rest ha ih =>
    have hn := (length_encodeChar_ofNat a.toNat).2.2.2 (UInt8.lt_iff_toNat_lt.1 ha)
    have hcs := ih h
    simp only [encode_cons, List.length_append, List.length_cons] at hcs ⊢
    omega
  | case4 index done a hlow ha b rest hb ih =>
    have hn := (length_encodeChar_ofNat ((a.toNat - 0xC0) * 64 + (b.toNat - 0x80))).2.2.1
    have hcs := ih h
    have hb := toNat_le_of_isContinuation hb
    simp only [Bool.and_eq_true, decide_eq_true_eq, UInt8.le_iff_toNat_le, UInt8.reduceToNat] at ha
    simp only [encode_cons, List.length_append, List.length_cons] at hcs ⊢
    omega
  | case9 index done a hlow htwo ha b hb c rest hc ih =>
    have hn := (length_encodeChar_ofNat
      ((a.toNat - 0xE0) * 4096 + (b.toNat - 0x80) * 64 + (c.toNat - 0x80))).2.1
    have hcs := ih h
    have hb := toNat_le_of_isSecond (by simpa using hb)
    have hc := toNat_le_of_isContinuation hc
    simp only [Bool.and_eq_true, decide_eq_true_eq, UInt8.le_iff_toNat_le, UInt8.reduceToNat] at ha
    simp only [encode_cons, List.length_append, List.length_cons] at hcs ⊢
    omega
  | case16 index done a hlow htwo hthree ha b hb c hc d rest hd ih =>
    have hn := (length_encodeChar_ofNat ((a.toNat - 0xF0) * 262144 + (b.toNat - 0x80) * 4096
      + (c.toNat - 0x80) * 64 + (d.toNat - 0x80))).1
    have hcs := ih h
    simp only [encode_cons, List.length_append, List.length_cons] at hcs ⊢
    omega
  | _ => cases h

theorem length_bytes_of_text? {bs : List UInt8} {s : String} (h : text? bs = some s) :
    (bytes s).length ≤ bs.length := by
  unfold text? decode at h
  split at h
  · rename_i cs hcs
    cases h
    have hlength := length_encode_of_decodeFrom hcs
    rw [bytes, String.toList_ofList]
    simpa using hlength
  · cases h

end SignedToken.Utf8
