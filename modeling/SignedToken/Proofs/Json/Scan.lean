import SignedToken.Json.Printer
import SignedToken.Json.Reader
import SignedToken.Proofs.Bytes.Utf8

/-!
# Scanning printed tokens

Each token is read back off the front of a text that starts with it: strings whatever follows, whole
numbers as long as what follows does not continue them.
-/

namespace SignedToken.Json

open Ascii

/-! ## Strings -/

def IsPlain (b : UInt8) : Prop := b ≠ quote ∧ b ≠ backslash ∧ 0x20 ≤ b

theorem isPlain_of_le {b : UInt8} (h : 0x80 ≤ b) : IsPlain b := by
  refine ⟨?_, ?_, ?_⟩
  · rintro rfl
    exact absurd h (by decide)
  · rintro rfl
    exact absurd h (by decide)
  · exact UInt8.le_trans (by decide) h

theorem unquoteFrom_plain {bs : List UInt8} (h : ∀ b ∈ bs, IsPlain b) (done rest : List UInt8) :
    unquoteFrom done (bs ++ rest) = unquoteFrom (bs.reverse ++ done) rest := by
  induction bs generalizing done with
  | nil => rfl
  | cons b bs ih =>
    obtain ⟨hq, hs, hl⟩ := h b (by simp)
    have hl : ¬ b < 0x20 := UInt8.not_lt.2 hl
    rw [List.cons_append, unquoteFrom.eq_def]
    simp only [hq, hs, hl, if_false]
    rw [ih fun c hc => h c (by simp [hc]), List.reverse_cons, List.append_assoc,
      List.singleton_append]

theorem passString_plain {bs : List UInt8} (h : ∀ b ∈ bs, IsPlain b) (rest : List UInt8) :
    passString (bs ++ rest) = passString rest := by
  induction bs with
  | nil => rfl
  | cons b bs ih =>
    obtain ⟨hq, hs, hl⟩ := h b (by simp)
    have hl : ¬ b < 0x20 := UInt8.not_lt.2 hl
    rw [List.cons_append, passString.eq_def]
    simp only [hq, hs, hl, if_false]
    exact ih fun c hc => h c (by simp [hc])

theorem hexDigit_facts : ∀ n < 16, (hexDigit n).toNat < 0x80
    ∧ hexValue? (.ofNat (hexDigit n).toNat) = some n := by decide

theorem isPlain_of_ascii {c : Char} (h : c.toNat < 0x80) (hq : c ≠ '"') (hs : c ≠ '\\')
    (hl : 0x20 ≤ c.toNat) : IsPlain (.ofNat c.toNat) := by
  have hn := Utf8.toNat_ofNat (n := c.toNat) (by omega)
  refine ⟨?_, ?_, ?_⟩
  · intro he
    rw [he] at hn
    exact hq (Char.toNat_inj.1 hn.symm)
  · intro he
    rw [he] at hn
    exact hs (Char.toNat_inj.1 hn.symm)
  · rw [UInt8.le_iff_toNat_le, hn]
    exact hl

/-- The three ways to write a character in quotes. -/
theorem quotedChar_cases (c : Char) :
    (∃ e, Utf8.encode (quotedChar c) = [backslash, e] ∧ e ≠ unicodeEscape
      ∧ escaped? e = some (.ofNat c.toNat) ∧ c.toNat < 0x80)
    ∨ (∃ h1 h2, Utf8.encode (quotedChar c) = [backslash, unicodeEscape, zero, zero, h1, h2]
      ∧ hex4? zero zero h1 h2 = some c.toNat ∧ c.toNat < 0x20)
    ∨ (quotedChar c = [c] ∧ ∀ b ∈ Utf8.encodeChar c, IsPlain b) := by
  unfold quotedChar
  split
  · subst c
    exact .inl ⟨quote, rfl, by decide, rfl, by decide⟩
  split
  · subst c
    exact .inl ⟨backslash, rfl, by decide, rfl, by decide⟩
  split
  · subst c
    exact .inl ⟨0x62, rfl, by decide, rfl, by decide⟩
  split
  · subst c
    exact .inl ⟨0x74, rfl, by decide, rfl, by decide⟩
  split
  · subst c
    exact .inl ⟨0x6E, rfl, by decide, rfl, by decide⟩
  split
  · subst c
    exact .inl ⟨0x66, rfl, by decide, rfl, by decide⟩
  split
  · subst c
    exact .inl ⟨0x72, rfl, by decide, rfl, by decide⟩
  split
  · rename_i h
    obtain ⟨ha, hx⟩ := hexDigit_facts (c.toNat / 16) (by omega)
    obtain ⟨hb, hy⟩ := hexDigit_facts (c.toNat % 16) (by omega)
    refine .inr (.inl ⟨.ofNat (hexDigit (c.toNat / 16)).toNat, .ofNat (hexDigit (c.toNat % 16)).toNat,
      ?_, ?_, h⟩)
    · simp only [Utf8.encode_cons, Utf8.encode_nil, Utf8.encodeChar_of_ascii ha,
        Utf8.encodeChar_of_ascii hb]
      rfl
    · have hz : hexValue? zero = some 0 := rfl
      simp only [hex4?, hz, hx, hy, bind, Option.bind_some, pure, Option.some.injEq]
      omega
  · rename_i hq hs _ _ _ _ _ hl
    refine .inr (.inr ⟨rfl, ?_⟩)
    intro b hb
    by_cases h : c.toNat < 0x80
    · rw [Utf8.encodeChar_of_ascii h, List.mem_singleton] at hb
      rw [hb]
      exact isPlain_of_ascii h hq hs (by omega)
    · exact isPlain_of_le (Utf8.le_of_mem_encodeChar (by omega) hb)

theorem unquoteFrom_quotedChar (c : Char) (done rest : List UInt8) :
    unquoteFrom done (Utf8.encode (quotedChar c) ++ rest)
      = unquoteFrom ((Utf8.encodeChar c).reverse ++ done) rest := by
  rcases quotedChar_cases c with ⟨e, he, hu, hc, ha⟩ | ⟨h1, h2, he, hc, hl⟩ | ⟨he, hp⟩
  · rw [he, Utf8.encodeChar_of_ascii ha, List.cons_append, List.singleton_append,
      unquoteFrom.eq_def]
    have hb : backslash ≠ quote := by decide
    simp only [hb, hu, hc, if_true, if_false]
    rfl
  · rw [he, Utf8.encodeChar_of_ascii (by omega)]
    simp only [List.cons_append, List.nil_append]
    have hb : backslash ≠ quote := by decide
    have hlow : isLowSurrogate c.toNat = false := by simp [isLowSurrogate]; omega
    have hhigh : isHighSurrogate c.toNat = false := by simp [isHighSurrogate]; omega
    rw [unquoteFrom.eq_def]
    simp only [hb, hc, hlow, hhigh, if_true, if_false, Bool.false_eq_true, Char.ofNat_toNat,
      Utf8.encodeChar_of_ascii (show c.toNat < 0x80 by omega)]
  · rw [he, Utf8.encode_cons, Utf8.encode_nil, List.append_nil]
    exact unquoteFrom_plain hp done rest

theorem passString_quotedChar (c : Char) (rest : List UInt8) :
    passString (Utf8.encode (quotedChar c) ++ rest) = passString rest := by
  have hb : backslash ≠ quote := by decide
  rcases quotedChar_cases c with ⟨e, he, hu, hc, -⟩ | ⟨h1, h2, he, hc, -⟩ | ⟨he, hp⟩
  · rw [he, List.cons_append, List.singleton_append, passString.eq_def]
    simp only [hb, hu, hc, if_true, if_false, Option.isSome_some]
  · rw [he]
    simp only [List.cons_append, List.nil_append]
    rw [passString.eq_def]
    simp only [hb, hc, if_true, if_false, Option.isSome_some]
  · rw [he, Utf8.encode_cons, Utf8.encode_nil, List.append_nil]
    exact passString_plain hp rest

theorem unquoteFrom_quoted (cs : List Char) (done rest : List UInt8) :
    unquoteFrom done (Utf8.encode (cs.flatMap quotedChar) ++ quote :: rest)
      = some (done.reverse ++ Utf8.encode cs, rest) := by
  induction cs generalizing done with
  | nil =>
    rw [List.flatMap_nil, Utf8.encode_nil, List.nil_append, List.append_nil, unquoteFrom.eq_def]
    simp only [if_true]
  | cons c cs ih =>
    rw [List.flatMap_cons, Utf8.encode_append, List.append_assoc, unquoteFrom_quotedChar, ih,
      List.reverse_append, List.reverse_reverse, List.append_assoc, Utf8.encode_cons]

theorem unquote_quoted (s : String) (rest : List UInt8) :
    unquote (Utf8.encode (s.toList.flatMap quotedChar) ++ quote :: rest) = some (s, rest) := by
  simp only [unquote, unquoteFrom_quoted, List.reverse_nil, List.nil_append, bind,
    Option.bind_some, Utf8.text?_encode, String.ofList_toList, pure]

theorem passString_quoted (cs : List Char) (rest : List UInt8) :
    passString (Utf8.encode (cs.flatMap quotedChar) ++ quote :: rest) = some rest := by
  induction cs with
  | nil =>
    rw [List.flatMap_nil, Utf8.encode_nil, List.nil_append, passString.eq_def]
    simp only [if_true]
  | cons c cs ih =>
    rw [List.flatMap_cons, Utf8.encode_append, List.append_assoc, passString_quotedChar, ih]

theorem encode_quoted (s : String) :
    Utf8.encode (quoted s) = quote :: (Utf8.encode (s.toList.flatMap quotedChar) ++ [quote]) := by
  rw [quoted, Utf8.encode_cons, Utf8.encode_append]
  rfl

/-! ## Numerals -/

/-- What follows a numeral and does not continue it. -/
def EndsNumeral (rest : List UInt8) : Prop :=
  ∀ b ∈ rest.head?, isDigit b = false ∧ b ≠ point ∧ b ≠ 0x65 ∧ b ≠ 0x45

theorem endsNumeral_nil : EndsNumeral [] := by
  intro b hb
  cases hb

def digitValues (n : Nat) : List Nat := (Nat.toDigits 10 n).map fun c => c.toNat - 0x30

theorem ofDigits_digitValues (n : Nat) : Decimal.ofDigits (digitValues n) = n := by
  have h := Nat.ofDigitChars_ten_toDigits (n := n)
  rw [Nat.ofDigitChars_eq_foldl] at h
  rw [Decimal.ofDigits, digitValues, List.foldl_map]
  simpa only [Nat.mul_comm, Char.reduceToNat] using h

theorem toNat_of_isDigit {c : Char} (h : c.isDigit = true) : 0x30 ≤ c.toNat ∧ c.toNat ≤ 0x39 := by
  rw [Char.isDigit, Bool.and_eq_true, decide_eq_true_iff, decide_eq_true_iff] at h
  exact ⟨UInt32.le_iff_toNat_le.1 h.1, UInt32.le_iff_toNat_le.1 h.2⟩

theorem isDigit_ofNat {k : Nat} (h1 : 0x30 ≤ k) (h2 : k ≤ 0x39) : isDigit (.ofNat k) = true := by
  have hn := Utf8.toNat_ofNat (n := k) (by omega)
  simp only [isDigit, UInt8.le_iff_toNat_le, hn, UInt8.reduceToNat, Bool.and_eq_true,
    decide_eq_true_iff]
  exact ⟨h1, h2⟩

section
variable {cs : List Char} (hdigits : ∀ c ∈ cs, c.isDigit = true)
include hdigits

theorem encode_of_isDigit : Utf8.encode cs = cs.map fun c => .ofNat c.toNat := by
  refine Utf8.encode_of_ascii fun c hc => ?_
  have := toNat_of_isDigit (hdigits c hc)
  omega

theorem isDigit_of_mem_encode {b : UInt8} (h : b ∈ Utf8.encode cs) : isDigit b = true := by
  rw [encode_of_isDigit hdigits] at h
  obtain ⟨c, hc, rfl⟩ := List.mem_map.1 h
  obtain ⟨hl, hg⟩ := toNat_of_isDigit (hdigits c hc)
  exact isDigit_ofNat hl hg

theorem exists_cons_of_isDigit (hne : cs ≠ []) :
    ∃ b bs, Utf8.encode cs = b :: bs ∧ isDigit b = true := by
  cases he : Utf8.encode cs with
  | nil =>
    rw [encode_of_isDigit hdigits, List.map_eq_nil_iff] at he
    exact absurd he hne
  | cons b bs => exact ⟨b, bs, rfl, isDigit_of_mem_encode hdigits (by rw [he]; simp)⟩

/-- All digits are taken, if no other one follows. -/
theorem digits_encode {rest : List UInt8} (h : ∀ b ∈ rest.head?, isDigit b = false) :
    digits (Utf8.encode cs ++ rest) = (cs.map fun c => c.toNat - 0x30, rest) := by
  have hall : ∀ b ∈ Utf8.encode cs, isDigit b = true := fun b hb => isDigit_of_mem_encode hdigits hb
  have hstop : rest.takeWhile isDigit = [] ∧ rest.dropWhile isDigit = rest := by
    cases rest with
    | nil => exact ⟨rfl, rfl⟩
    | cons b rest =>
      have hb := h b rfl
      exact ⟨List.takeWhile_cons_of_neg (by simp [hb]), List.dropWhile_cons_of_neg (by simp [hb])⟩
  rw [digits, List.takeWhile_append_of_pos hall, List.dropWhile_append_of_pos hall, hstop.1, hstop.2,
    List.append_nil, encode_of_isDigit hdigits, List.map_map]
  congr 1
  refine List.map_congr_left fun c hc => ?_
  have := toNat_of_isDigit (hdigits c hc)
  rw [Function.comp_apply, Utf8.toNat_ofNat (by omega)]

end

theorem isDigit_of_mem_toDigits {n : Nat} {c : Char} (h : c ∈ Nat.toDigits 10 n) :
    c.isDigit = true :=
  Nat.isDigit_of_mem_toDigits (by decide) (by decide) h

theorem digitValues_head {n : Nat} (hn : 0 < n) : ∃ d ds, digitValues n = d :: ds ∧ d ≠ 0 := by
  induction n using Nat.base_induction 10 (by decide) with
  | single m hm =>
    refine ⟨m, [], ?_, by omega⟩
    rw [digitValues, Nat.toDigits_of_lt_base hm, List.map_singleton,
      Nat.toNat_digitChar_sub_48_of_lt_ten hm]
  | digit m k hk hm ih =>
    obtain ⟨d, ds, he, hd⟩ := ih hm
    refine ⟨d, ds ++ digitValues k, ?_, hd⟩
    rw [digitValues, ← Nat.toDigits_append_toDigits (by decide) hm hk, List.map_append, ← digitValues,
      he, List.cons_append, digitValues]

theorem wholePart_toDigits (n : Nat) {rest : List UInt8} (h : EndsNumeral rest) :
    wholePart (Utf8.encode (Nat.toDigits 10 n) ++ rest) = some (digitValues n, rest) := by
  have hdigits : digits (Utf8.encode (Nat.toDigits 10 n) ++ rest) = (digitValues n, rest) :=
    digits_encode (fun _ hc => isDigit_of_mem_toDigits hc) fun b hb => (h b hb).1
  rw [wholePart, hdigits]
  by_cases hn : 0 < n
  · obtain ⟨d, ds, he, hd⟩ := digitValues_head hn
    obtain ⟨k, rfl⟩ := Nat.exists_eq_succ_of_ne_zero hd
    rw [he]
    cases ds <;> rfl
  · obtain rfl : n = 0 := by omega
    rfl

theorem fractionPart_of_endsNumeral {rest : List UInt8} (h : EndsNumeral rest) :
    fractionPart rest = some (none, rest) := by
  cases rest with
  | nil => rfl
  | cons b rest =>
    have hb := (h b rfl).2.1
    simp only [fractionPart, hb, if_false]

theorem exponentPart_of_endsNumeral {rest : List UInt8} (h : EndsNumeral rest) :
    exponentPart rest = some (none, rest) := by
  cases rest with
  | nil => rfl
  | cons b rest =>
    have hb := (h b rfl).2.2
    simp only [exponentPart, hb, or_self, if_false]

theorem unsignedNumeral_toDigits (negative : Bool) (n : Nat) {rest : List UInt8}
    (h : EndsNumeral rest) :
    unsignedNumeral negative (Utf8.encode (Nat.toDigits 10 n) ++ rest)
      = some (⟨negative, digitValues n, none, none⟩, rest) := by
  simp only [unsignedNumeral, wholePart_toDigits n h, fractionPart_of_endsNumeral h,
    exponentPart_of_endsNumeral h, bind, Option.bind_some, pure]

theorem exists_cons_toDigits (n : Nat) :
    ∃ b bs, Utf8.encode (Nat.toDigits 10 n) = b :: bs ∧ isDigit b = true :=
  exists_cons_of_isDigit (fun _ hc => isDigit_of_mem_toDigits hc) Nat.toDigits_ne_nil

theorem ne_of_isDigit {b c : UInt8} (h : isDigit b = true) (hc : isDigit c = false) : b ≠ c := by
  rintro rfl
  rw [h] at hc
  cases hc

theorem numeral_decimal (n : Int) {rest : List UInt8} (h : EndsNumeral rest) :
    numeral (Utf8.encode (decimal n) ++ rest)
      = some (⟨decide (n < 0), digitValues n.natAbs, none, none⟩, rest) := by
  cases n with
  | ofNat n =>
    obtain ⟨b, bs, he, hb⟩ := exists_cons_toDigits n
    have hn := unsignedNumeral_toDigits false n h
    rw [he, List.cons_append] at hn
    rw [decimal, he, List.cons_append, numeral, if_neg (ne_of_isDigit hb rfl), hn]
    rfl
  | negSucc n =>
    have hm : Utf8.encodeChar '-' = [minus] := rfl
    rw [decimal, Utf8.encode_cons, hm, List.singleton_append, List.cons_append, numeral, if_pos rfl,
      unsignedNumeral_toDigits true (n + 1) h, Int.natAbs_negSucc,
      decide_eq_true (Int.negSucc_lt_zero n)]

theorem toInt?_decimal (n : Int) :
    Decimal.Numeral.toInt? ⟨decide (n < 0), digitValues n.natAbs, none, none⟩ = some n := by
  cases n with
  | ofNat n =>
    have hn : ¬Int.ofNat n < 0 := Int.not_lt.2 (Int.natCast_nonneg n)
    simp only [Decimal.Numeral.toInt?, ofDigits_digitValues, decide_eq_false hn, Bool.not_false,
      if_true]
    rfl
  | negSucc n =>
    have hn := Int.negSucc_lt_zero n
    have h0 : (Int.negSucc n).natAbs ≠ 0 := Nat.succ_ne_zero n
    simp only [Decimal.Numeral.toInt?, ofDigits_digitValues, decide_eq_true hn, Bool.not_true,
      Bool.false_eq_true, if_false, if_neg h0]
    rfl

theorem ofNumeral?_decimal (n : Integer) :
    ofNumeral? ⟨decide (n.val < 0), digitValues n.val.natAbs, none, none⟩ = some (.int n) := by
  rw [ofNumeral?, toInt?_decimal, Option.bind_some, Integer.ofInt?, dif_pos ⟨n.least, n.greatest⟩]

theorem number_decimal (n : Integer) {rest : List UInt8} (h : EndsNumeral rest) :
    number (Utf8.encode (decimal n.val) ++ rest) = some (.int n, rest) := by
  simp only [number, numeral_decimal n.val h, ofNumeral?_decimal, bind, Option.bind_some, pure]

end SignedToken.Json
