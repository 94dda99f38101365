import SignedToken.Bytes.Base64Url
import SignedToken.Proofs.Bytes.Utf8
import SignedToken.Proofs.Outcome

/-!
# Base64 has one spelling

Reading accepts just the texts that writing makes. Written text consists of the 64 symbols, so that
there is no dot in it.
-/

namespace SignedToken.Base64Url

/-! ## Symbols -/

def symbolByte (n : Nat) : UInt8 := .ofNat (symbol n).toNat

theorem value?_symbolByte : ∀ n < 64, value? (symbolByte n) = some n := by decide

theorem symbolByte_ne_pad : ∀ n < 64, symbolByte n ≠ pad := by decide

/-- Symbols are visible ASCII characters and no dots. -/
theorem symbol_facts : ∀ n < 64, (0x21 ≤ (symbol n).toNat ∧ (symbol n).toNat ≤ 0x7E)
    ∧ symbol n ≠ '.' := by decide

/-- A letter or digit of ASCII, a hyphen or a low line. -/
def IsSymbol (c : Char) : Prop := c.isAlphanum ∨ c = '-' ∨ c = '_'

theorem isSymbol_symbol : ∀ n < 64, IsSymbol (symbol n) := by
  unfold IsSymbol
  decide

theorem value?_ofNat : ∀ b < 256, ∀ n ∈ value? (.ofNat b), n < 64 ∧ symbolByte n = .ofNat b := by
  decide +kernel

theorem eq_symbolByte {b : UInt8} {n : Nat} (h : value? b = some n) : n < 64 ∧ symbolByte n = b := by
  have hb := value?_ofNat b.toNat b.toNat_lt n
  rw [UInt8.ofNat_toNat] at hb
  exact hb h

theorem encodeChar_symbol {n : Nat} (h : n < 64) : Utf8.encodeChar (symbol n) = [symbolByte n] :=
  Utf8.encodeChar_of_ascii (Nat.lt_of_le_of_lt (symbol_facts n h).1.2 (by decide))

/-! ## What is written -/

/-- The bytes of the text that is written for `bs`. -/
def written (bs : List UInt8) : List UInt8 := Utf8.encode (encode bs)

theorem written_one (a : UInt8) :
    written [a] = [symbolByte (a.toNat / 4), symbolByte (a.toNat % 4 * 16)] := by
  have ha := a.toNat_lt
  simp only [written, encode, Utf8.encode_cons, Utf8.encode_nil,
    encodeChar_symbol (show a.toNat / 4 < 64 by omega),
    encodeChar_symbol (show a.toNat % 4 * 16 < 64 by omega), List.singleton_append]

theorem written_two (a b : UInt8) :
    written [a, b] = [symbolByte (a.toNat / 4), symbolByte (a.toNat % 4 * 16 + b.toNat / 16),
      symbolByte (b.toNat % 16 * 4)] := by
  have ha := a.toNat_lt
  have hb := b.toNat_lt
  simp only [written, encode, Utf8.encode_cons, Utf8.encode_nil,
    encodeChar_symbol (show a.toNat / 4 < 64 by omega),
    encodeChar_symbol (show a.toNat % 4 * 16 + b.toNat / 16 < 64 by omega),
    encodeChar_symbol (show b.toNat % 16 * 4 < 64 by omega), List.singleton_append]

theorem written_group (a b c : UInt8) (rest : List UInt8) :
    written (a :: b :: c :: rest)
      = symbolByte (a.toNat / 4) :: symbolByte (a.toNat % 4 * 16 + b.toNat / 16)
        :: symbolByte (b.toNat % 16 * 4 + c.toNat / 64) :: symbolByte (c.toNat % 64)
        :: written rest := by
  have ha := a.toNat_lt
  have hb := b.toNat_lt
  have hc := c.toNat_lt
  simp only [written, encode, Utf8.encode_cons,
    encodeChar_symbol (show a.toNat / 4 < 64 by omega),
    encodeChar_symbol (show a.toNat % 4 * 16 + b.toNat / 16 < 64 by omega),
    encodeChar_symbol (show b.toNat % 16 * 4 + c.toNat / 64 < 64 by omega),
    encodeChar_symbol (show c.toNat % 64 < 64 by omega), List.singleton_append]

/-! Bytes put together from values are written as the symbols of these values. -/

theorem written_values_two {a b : Nat} (ha : a < 64) (hb : b < 64) (hz : b % 16 = 0) :
    written [.ofNat (a * 4 + b / 16)] = [symbolByte a, symbolByte b] := by
  have hx := Utf8.toNat_ofNat (n := a * 4 + b / 16) (by omega)
  have h1 : (a * 4 + b / 16) / 4 = a := by omega
  have h2 : (a * 4 + b / 16) % 4 * 16 = b := by omega
  rw [written_one, hx, h1, h2]

theorem written_values_three {a b c : Nat} (ha : a < 64) (hb : b < 64) (hc : c < 64)
    (hz : c % 4 = 0) :
    written [.ofNat (a * 4 + b / 16), .ofNat (b % 16 * 16 + c / 4)]
      = [symbolByte a, symbolByte b, symbolByte c] := by
  have hx := Utf8.toNat_ofNat (n := a * 4 + b / 16) (by omega)
  have hy := Utf8.toNat_ofNat (n := b % 16 * 16 + c / 4) (by omega)
  have h1 : (a * 4 + b / 16) / 4 = a := by omega
  have h2 : (a * 4 + b / 16) % 4 * 16 + (b % 16 * 16 + c / 4) / 16 = b := by omega
  have h3 : (b % 16 * 16 + c / 4) % 16 * 4 = c := by omega
  rw [written_two, hx, hy, h1, h2, h3]

theorem written_values_four {a b c d : Nat} (ha : a < 64) (hb : b < 64) (hc : c < 64) (hd : d < 64)
    (rest : List UInt8) :
    written (.ofNat (a * 4 + b / 16) :: .ofNat (b % 16 * 16 + c / 4) :: .ofNat (c % 4 * 64 + d)
        :: rest)
      = symbolByte a :: symbolByte b :: symbolByte c :: symbolByte d :: written rest := by
  have hx := Utf8.toNat_ofNat (n := a * 4 + b / 16) (by omega)
  have hy := Utf8.toNat_ofNat (n := b % 16 * 16 + c / 4) (by omega)
  have hz := Utf8.toNat_ofNat (n := c % 4 * 64 + d) (by omega)
  have h1 : (a * 4 + b / 16) / 4 = a := by omega
  have h2 : (a * 4 + b / 16) % 4 * 16 + (b % 16 * 16 + c / 4) / 16 = b := by omega
  have h3 : (b % 16 * 16 + c / 4) % 16 * 4 + (c % 4 * 64 + d) / 64 = c := by omega
  have h4 : (c % 4 * 64 + d) % 64 = d := by omega
  rw [written_group, hx, hy, hz, h1, h2, h3, h4]

/-- The symbols of a text are those of numbers below 64. -/
theorem exists_values (bs : List UInt8) :
    ∃ vs : List Nat, (∀ v ∈ vs, v < 64) ∧ encode bs = vs.map symbol := by
  fun_induction encode bs with
  | case1 => exact ⟨[], by simp, rfl⟩
  | case2 a =>
    have ha := a.toNat_lt
    exact ⟨[_, _], by simp; omega, rfl⟩
  | case3 a b =>
    have ha := a.toNat_lt
    have hb := b.toNat_lt
    exact ⟨[_, _, _], by simp; omega, rfl⟩
  | case4 a b c rest ih =>
    have ha := a.toNat_lt
    have hb := b.toNat_lt
    have hc := c.toNat_lt
    obtain ⟨vs, hvs, he⟩ := ih
    refine ⟨_ :: _ :: _ :: _ :: vs, ?_, by rw [he]; rfl⟩
    simp only [List.mem_cons]
    rintro v (rfl | rfl | rfl | rfl | hv)
    · omega
    · omega
    · omega
    · omega
    · exact hvs v hv

theorem exists_of_mem_written {bs : List UInt8} {b : UInt8} (hb : b ∈ written bs) :
    ∃ n < 64, b = symbolByte n := by
  obtain ⟨vs, hvs, he⟩ := exists_values bs
  rw [written, he, Utf8.encode, List.flatMap_map] at hb
  obtain ⟨v, hv, hb⟩ := List.mem_flatMap.1 hb
  rw [encodeChar_symbol (hvs v hv)] at hb
  exact ⟨v, hvs v hv, List.mem_singleton.1 hb⟩

/-- Four symbols for three bytes, and none for what is missing of the last three. -/
theorem length_encode (bs : List UInt8) : (encode bs).length = (4 * bs.length + 2) / 3 := by
  fun_induction encode bs with
  | case1 => rfl
  | case2 a => simp
  | case3 a b => simp
  | case4 a b c rest ih =>
    simp only [List.length_cons, ih]
    omega

theorem visible_of_mem_encode {bs : List UInt8} {c : Char} (hc : c ∈ encode bs) :
    (0x21 ≤ c.toNat ∧ c.toNat ≤ 0x7E) ∧ c ≠ '.' := by
  obtain ⟨vs, hvs, he⟩ := exists_values bs
  rw [he] at hc
  obtain ⟨v, hv, rfl⟩ := List.mem_map.1 hc
  exact symbol_facts v (hvs v hv)

theorem isSymbol_of_mem_encode {bs : List UInt8} {c : Char} (hc : c ∈ encode bs) : IsSymbol c := by
  obtain ⟨vs, hvs, he⟩ := exists_values bs
  rw [he] at hc
  obtain ⟨v, hv, rfl⟩ := List.mem_map.1 hc
  exact isSymbol_symbol v (hvs v hv)

theorem dot_not_mem_encode (bs : List UInt8) : '.' ∉ encode bs :=
  fun h => (visible_of_mem_encode h).2 rfl

/-! ## Reading the last group -/

theorem valueAt_eq_ok {offset v : Nat} {b : UInt8} (h : valueAt offset b = .ok v) :
    v < 64 ∧ symbolByte v = b := by
  unfold valueAt at h
  split at h
  · rename_i hv
    cases h
    exact eq_symbolByte hv
  · cases h

/-- Symbols are collected with their values. Without padding, they are all that is there. -/
theorem finalSymbols_spec {offset position : Nat} {bs : List UInt8}
    {symbols : List (UInt8 × Nat)} {padded : Bool}
    (h : finalSymbols offset position bs = .ok (symbols, padded)) :
    ∃ vs : List Nat, (∀ v ∈ vs, v < 64) ∧ symbols = vs.map (fun v => (symbolByte v, v))
      ∧ (padded = false → bs = vs.map symbolByte)
      ∧ (padded = true → vs.length < bs.length) := by
  fun_induction finalSymbols offset position bs generalizing symbols padded with
  | case1 =>
    cases h
    exact ⟨[], by simp⟩
  | case2 => cases h
  | case3 =>
    cases h
    exact ⟨[], by simp⟩
  | case4 => cases h
  | case5 position b rest hb ih =>
    obtain ⟨v, hv, h⟩ := Outcome.bind_eq_ok.1 h
    obtain ⟨⟨more, padded'⟩, hmore, h⟩ := Outcome.bind_eq_ok.1 h
    cases h
    obtain ⟨hlt, rfl⟩ := valueAt_eq_ok hv
    obtain ⟨vs, hvs, rfl, hf, ht⟩ := ih hmore
    refine ⟨v :: vs, ?_, rfl, ?_, ?_⟩
    · intro w hw
      rcases List.mem_cons.1 hw with rfl | hw
      · exact hlt
      · exact hvs w hw
    · intro hp
      rw [hf hp]
      rfl
    · intro hp
      exact Nat.succ_lt_succ (ht hp)

/-- A group that is not full comes to a result only without padding and unused bits. -/
theorem partialGroup_eq_ok {padded : Bool} {unused : Nat} {e e' : DecodeError}
    {group out : List UInt8}
    (h : (if padded then throw e else if unused ≠ 0 then throw e' else pure group)
      = (.ok out : Except DecodeError (List UInt8))) :
    padded = false ∧ unused = 0 ∧ group = out := by
  split at h
  · cases h
  rename_i hpadded
  split at h
  · cases h
  rename_i hunused
  cases h
  exact ⟨Bool.eq_false_iff.2 hpadded, Decidable.not_not.1 hunused, rfl⟩

theorem decodeFinal_spec {offset : Nat} {bs out : List UInt8} (hlen : bs.length ≤ 4)
    (h : decodeFinal offset bs = .ok out) : bs = written out := by
  obtain ⟨⟨symbols, padded⟩, hsymbols, h⟩ := Outcome.bind_eq_ok.1 h
  obtain ⟨vs, hvs, rfl, hf, ht⟩ := finalSymbols_spec hsymbols
  clear hsymbols
  match vs with
  | [] =>
    simp only [List.map_nil] at h
    split at h
    · rename_i hempty
      cases h
      rw [List.isEmpty_iff.1 hempty]
      rfl
    · cases h
  | [_] => cases h
  | [a, b] =>
    obtain ⟨hp, hz, rfl⟩ := partialGroup_eq_ok h
    have ha := hvs a (by simp)
    have hb := hvs b (by simp)
    rw [hf hp, written_values_two ha hb hz]
    rfl
  | [a, b, c] =>
    obtain ⟨hp, hz, rfl⟩ := partialGroup_eq_ok h
    have ha := hvs a (by simp)
    have hb := hvs b (by simp)
    have hc := hvs c (by simp)
    rw [hf hp, written_values_three ha hb hc hz]
    rfl
  | a :: b :: c :: d :: more =>
    cases h
    have ha := hvs a (by simp)
    have hb := hvs b (by simp)
    have hc := hvs c (by simp)
    have hd := hvs d (by simp)
    -- Padding would be a fifth byte.
    have hp : padded = false := by
      cases padded with
      | false => rfl
      | true =>
        have := ht rfl
        simp only [List.length_cons] at this
        omega
    have hmore : more = [] := by
      have := hf hp ▸ hlen
      simp only [List.length_map, List.length_cons] at this
      exact List.length_eq_zero_iff.1 (by omega)
    rw [hf hp, hmore, written_values_four ha hb hc hd]
    rfl

/-! ## Reading a text -/

theorem decodeFrom_spec {offset : Nat} {bs out : List UInt8} (h : decodeFrom offset bs = .ok out) :
    bs = written out := by
  fun_induction decodeFrom offset bs generalizing out with
  | case1 offset a b c d e rest ih =>
    obtain ⟨va, ha, h⟩ := Outcome.bind_eq_ok.1 h
    obtain ⟨vb, hb, h⟩ := Outcome.bind_eq_ok.1 h
    obtain ⟨vc, hc, h⟩ := Outcome.bind_eq_ok.1 h
    obtain ⟨vd, hd, h⟩ := Outcome.bind_eq_ok.1 h
    obtain ⟨more, hmore, h⟩ := Outcome.bind_eq_ok.1 h
    cases h
    obtain ⟨hva, rfl⟩ := valueAt_eq_ok ha
    obtain ⟨hvb, rfl⟩ := valueAt_eq_ok hb
    obtain ⟨hvc, rfl⟩ := valueAt_eq_ok hc
    obtain ⟨hvd, rfl⟩ := valueAt_eq_ok hd
    rw [written_values_four hva hvb hvc hvd, ← ih hmore]
  | case2 offset final hshort =>
    refine decodeFinal_spec ?_ h
    match final, hshort with
    | [], _ | [_], _ | [_, _], _ | [_, _, _], _ | [_, _, _, _], _ => simp
    | a :: b :: c :: d :: e :: rest, hshort => exact (hshort a b c d e rest rfl).elim

/-! ## Reading what was written -/

theorem valueAt_symbolByte {n : Nat} (h : n < 64) (offset : Nat) :
    valueAt offset (symbolByte n) = .ok n := by
  simp [valueAt, value?_symbolByte n h]

theorem finalSymbols_symbols (vs : List Nat) (h : ∀ v ∈ vs, v < 64) (offset position : Nat) :
    finalSymbols offset position (vs.map symbolByte)
      = .ok (vs.map fun v => (symbolByte v, v), false) := by
  induction vs generalizing position with
  | nil => rfl
  | cons v vs ih =>
    have hv : v < 64 := h v (by simp)
    simp only [List.map_cons, finalSymbols, symbolByte_ne_pad v hv, if_false,
      valueAt_symbolByte hv, ih fun w hw => h w (by simp [hw])]
    rfl

theorem ofNat_eq {n : Nat} {a : UInt8} (h : n = a.toNat) : UInt8.ofNat n = a := by
  rw [h, UInt8.ofNat_toNat]

theorem decodeFinal_written_one (offset : Nat) (a : UInt8) :
    decodeFinal offset (written [a]) = .ok [a] := by
  have ha := a.toNat_lt
  have hs := finalSymbols_symbols [a.toNat / 4, a.toNat % 4 * 16] (by simp; omega) offset 0
  have hz : a.toNat % 4 * 16 % 16 = 0 := by omega
  have hx : UInt8.ofNat (a.toNat / 4 * 4 + a.toNat % 4 * 16 / 16) = a := ofNat_eq (by omega)
  simp only [List.map_cons, List.map_nil] at hs
  rw [written_one, decodeFinal, hs]
  simp only [bind, Except.bind, hz, hx]
  rfl

theorem decodeFinal_written_two (offset : Nat) (a b : UInt8) :
    decodeFinal offset (written [a, b]) = .ok [a, b] := by
  have ha := a.toNat_lt
  have hb := b.toNat_lt
  have hs := finalSymbols_symbols
    [a.toNat / 4, a.toNat % 4 * 16 + b.toNat / 16, b.toNat % 16 * 4] (by simp; omega)
    offset 0
  have hz : b.toNat % 16 * 4 % 4 = 0 := by omega
  have hx : UInt8.ofNat (a.toNat / 4 * 4 + (a.toNat % 4 * 16 + b.toNat / 16) / 16) = a :=
    ofNat_eq (by omega)
  have hy : UInt8.ofNat ((a.toNat % 4 * 16 + b.toNat / 16) % 16 * 16 + b.toNat % 16 * 4 / 4) = b :=
    ofNat_eq (by omega)
  simp only [List.map_cons, List.map_nil] at hs
  rw [written_two, decodeFinal, hs]
  simp only [bind, Except.bind, hz, hx, hy]
  rfl

theorem decodeFrom_group (offset : Nat) (a b c : UInt8) (rest : List UInt8)
    (h : decodeFrom (offset + 4) (written rest) = .ok rest) :
    decodeFrom offset (written (a :: b :: c :: rest)) = .ok (a :: b :: c :: rest) := by
  have ha := a.toNat_lt
  have hb := b.toNat_lt
  have hc := c.toNat_lt
  have hx : UInt8.ofNat (a.toNat / 4 * 4 + (a.toNat % 4 * 16 + b.toNat / 16) / 16) = a :=
    ofNat_eq (by omega)
  have hy : UInt8.ofNat ((a.toNat % 4 * 16 + b.toNat / 16) % 16 * 16
      + (b.toNat % 16 * 4 + c.toNat / 64) / 4) = b := ofNat_eq (by omega)
  have hz : UInt8.ofNat ((b.toNat % 16 * 4 + c.toNat / 64) % 4 * 64 + c.toNat % 64) = c :=
    ofNat_eq (by omega)
  have h1 : a.toNat / 4 < 64 := by omega
  have h2 : a.toNat % 4 * 16 + b.toNat / 16 < 64 := by omega
  have h3 : b.toNat % 16 * 4 + c.toNat / 64 < 64 := by omega
  have h4 : c.toNat % 64 < 64 := by omega
  rw [written_group]
  cases hr : written rest with
  | nil =>
    -- The group is the last one.
    rw [hr] at h
    have hs := finalSymbols_symbols [a.toNat / 4, a.toNat % 4 * 16 + b.toNat / 16,
      b.toNat % 16 * 4 + c.toNat / 64, c.toNat % 64] (by simp; omega) offset 0
    simp only [List.map_cons, List.map_nil] at hs
    cases h
    show decodeFinal offset _ = _
    rw [decodeFinal, hs]
    simp only [bind, Except.bind, hx, hy, hz]
    rfl
  | cons e more =>
    rw [hr] at h
    simp only [decodeFrom, valueAt_symbolByte h1, valueAt_symbolByte h2, valueAt_symbolByte h3,
      valueAt_symbolByte h4, h, bind, Except.bind, pure, Except.pure, hx, hy, hz]

theorem decodeFrom_written (offset : Nat) (bs : List UInt8) :
    decodeFrom offset (written bs) = .ok bs := by
  fun_induction encode bs generalizing offset with
  | case1 => rfl
  | case2 a =>
    rw [← decodeFinal_written_one offset a, written_one]
    rfl
  | case3 a b =>
    rw [← decodeFinal_written_two offset a b, written_two]
    rfl
  | case4 a b c rest ih => exact decodeFrom_group offset a b c rest (ih (offset + 4))

/-- A text is read just if it is the one that is written for the result. -/
theorem decode_eq_ok_iff {bs out : List UInt8} : decode bs = .ok out ↔ bs = written out := by
  constructor
  · intro h
    unfold decode at h
    split at h
    · split at h
      · cases h
      · exact decodeFrom_spec h
    · rename_i hlast
      cases h
      exact List.getLast?_eq_none_iff.1 hlast
  · rintro rfl
    unfold decode
    split
    · rename_i last hlast
      obtain ⟨n, hn, rfl⟩ := exists_of_mem_written (List.mem_of_getLast? hlast)
      rw [if_neg, decodeFrom_written]
      rintro ⟨-, -, hnone⟩
      rw [value?_symbolByte n hn] at hnone
      cases hnone
    · rename_i hlast
      rw [← decodeFrom_written 0 out, List.getLast?_eq_none_iff.1 hlast]
      rfl

end SignedToken.Base64Url
