import Mathlib.Logic.Basic
import SignedToken.Proofs.Json.Scan

/-!
# Printed floats

A printed float need not be read as the float it was, nor be read at all. But whatever follows it,
its text is read alike: to its end and no further, and as a float if at all.
-/

namespace SignedToken.Json

open Ascii

/-! ## The text of a float -/

def Digits (cs : List Char) : Prop := ∀ c ∈ cs, c.isDigit = true

inductive IsFraction : List Char → Prop
  | absent : IsFraction []
  | present {ds : List Char} : Digits ds → IsFraction ('.' :: ds)

inductive IsExponent : List Char → Prop
  | absent : IsExponent []
  | present {sign : Char} {ds : List Char} :
    sign = '+' ∨ sign = '-' → Digits ds → IsExponent ('e' :: sign :: ds)

/-- Digits with a fraction, an exponent or both, so that they do not look like a whole number. -/
def IsFloatText (text : List Char) : Prop :=
  ∃ whole fraction exponent, text = whole ++ (fraction ++ exponent)
    ∧ Digits whole ∧ whole ≠ [] ∧ IsFraction fraction ∧ IsExponent exponent
    ∧ (fraction ≠ [] ∨ exponent ≠ [])

theorem digits_toDigits (n : Nat) : Digits (Nat.toDigits 10 n) :=
  fun _ hc => isDigit_of_mem_toDigits hc

theorem digits_replicate_zero (n : Nat) : Digits (List.replicate n '0') := by
  intro c hc
  rw [List.eq_of_mem_replicate hc]
  rfl

theorem Digits.append {cs ds : List Char} (hc : Digits cs) (hd : Digits ds) : Digits (cs ++ ds) := by
  intro c h
  rcases List.mem_append.1 h with h | h
  · exact hc c h
  · exact hd c h

theorem Digits.take {ds : List Char} (h : Digits ds) (n : Nat) : Digits (ds.take n) :=
  fun c hc => h c (List.mem_of_mem_take hc)

theorem Digits.drop {ds : List Char} (h : Digits ds) (n : Nat) : Digits (ds.drop n) :=
  fun c hc => h c (List.mem_of_mem_drop hc)

theorem isFloatText_plainFloat {ds : List Char} (hds : Digits ds) (hne : ds ≠ []) (e : Int) :
    IsFloatText (plainFloat ds e) := by
  unfold plainFloat
  split
  · refine ⟨['0'], '.' :: (List.replicate (-e - 1).toNat '0' ++ ds), [], ?_, ?_⟩
    · rw [List.append_nil]
      rfl
    · exact ⟨digits_replicate_zero 1, List.cons_ne_nil _ _,
        .present ((digits_replicate_zero _).append hds), .absent, .inl (List.cons_ne_nil _ _)⟩
  · refine ⟨_, _, [], by rw [List.append_nil], ?_⟩
    refine ⟨(hds.take _).append (digits_replicate_zero _), by simp [hne], .present ?_, .absent,
      .inl (List.cons_ne_nil _ _)⟩
    split
    · exact digits_replicate_zero 1
    · exact hds.drop _

theorem isFloatText_scientificFloat {ds : List Char} (hds : Digits ds) (hne : ds ≠ []) (e : Int) :
    IsFloatText (scientificFloat ds e) := by
  unfold scientificFloat
  refine ⟨_, _, _, List.append_assoc _ _ _, hds.take 1, by simp [hne], ?_, ?_,
    .inr (List.cons_ne_nil _ _)⟩
  · split
    · exact .absent
    · exact .present (hds.drop 1)
  · refine .present ?_ (digits_toDigits e.natAbs)
    split
    · exact .inr rfl
    · exact .inl rfl

theorem floatText_cases (x : Float) : floatText x = "null".toList
    ∨ ∃ text, IsFloatText text ∧ (floatText x = text ∨ floatText x = '-' :: text) := by
  unfold floatText
  split
  · exact .inl rfl
  refine .inr ?_
  dsimp only
  -- with the sign or without it, the digits are laid out alike
  refine ⟨_, ?_, (ite_eq_or_eq _ _ _).symm⟩
  split
  · exact isFloatText_plainFloat (digits_replicate_zero 1) (List.cons_ne_nil _ _) 0
  split
  · exact isFloatText_plainFloat (digits_toDigits _) Nat.toDigits_ne_nil _
  · exact isFloatText_scientificFloat (digits_toDigits _) Nat.toDigits_ne_nil _

/-! ## Reading parts of numerals -/

section
variable {α : Type}

/-- In front of all that `ends` it, the text is read as `o`, to its end and no further. -/
def ReadsAs (ends : List UInt8 → Prop) (item : List UInt8 → Option (α × List UInt8))
    (text : List Char) (o : Option α) : Prop :=
  ∀ rest, ends rest → item (Utf8.encode text ++ rest) = o.map (·, rest)

def EndsDigits (rest : List UInt8) : Prop := ∀ b ∈ rest.head?, isDigit b = false

def EndsWhole (rest : List UInt8) : Prop := ∀ b ∈ rest.head?, isDigit b = false ∧ b ≠ point

theorem Digits.exists_readsAs {cs : List Char} (hcs : Digits cs) :
    ∃ o, ReadsAs EndsDigits wholePart cs o := by
  have hread (rest : List UInt8) (hrest : EndsDigits rest) := digits_encode hcs hrest
  generalize (cs.map fun c => c.toNat - 0x30) = ds at hread
  match ds with
  | [] =>
    refine ⟨none, fun rest hrest => ?_⟩
    rw [wholePart, hread rest hrest]
    rfl
  | [0] =>
    refine ⟨some [0], fun rest hrest => ?_⟩
    rw [wholePart, hread rest hrest]
    rfl
  | 0 :: _ :: _ =>
    refine ⟨none, fun rest hrest => ?_⟩
    rw [wholePart, hread rest hrest]
    rfl
  | (d + 1) :: ds =>
    refine ⟨some ((d + 1) :: ds), fun rest hrest => ?_⟩
    rw [wholePart, hread rest hrest]
    rfl

theorem IsFraction.exists_readsAs {cs : List Char} (hcs : IsFraction cs) :
    ∃ o, ReadsAs EndsWhole fractionPart cs o ∧ (cs ≠ [] → ∀ fraction ∈ o, fraction ≠ none) := by
  cases hcs with
  | absent =>
    refine ⟨some none, fun rest hrest => ?_, fun hne => absurd rfl hne⟩
    cases rest with
    | nil => rfl
    | cons b rest => exact if_neg (hrest b rfl).2
  | @present ds hds =>
    have hread (rest : List UInt8) (hrest : EndsWhole rest) :=
      digits_encode hds fun b hb => (hrest b hb).1
    have hpoint : Utf8.encode ('.' :: ds) = point :: Utf8.encode ds := rfl
    generalize (ds.map fun c => c.toNat - 0x30) = values at hread
    cases values with
    | nil =>
      refine ⟨none, fun rest hrest => ?_, by simp⟩
      rw [hpoint, List.cons_append, fractionPart, if_pos rfl, hread rest hrest]
      rfl
    | cons d values =>
      refine ⟨some (some (d :: values)), fun rest hrest => ?_, by simp⟩
      rw [hpoint, List.cons_append, fractionPart, if_pos rfl, hread rest hrest]
      rfl

theorem exponentSign_encode {sign : Char} (hsign : sign = '+' ∨ sign = '-') :
    ∃ negative, ∀ rest, exponentSign (Utf8.encodeChar sign ++ rest) = (negative, rest) := by
  rcases hsign with rfl | rfl
  · exact ⟨false, fun _ => rfl⟩
  · exact ⟨true, fun _ => rfl⟩

theorem IsExponent.exists_readsAs {cs : List Char} (hcs : IsExponent cs) :
    ∃ o, ReadsAs EndsNumeral exponentPart cs o ∧ (cs ≠ [] → ∀ exponent ∈ o, exponent ≠ none) := by
  cases hcs with
  | absent =>
    exact ⟨some none, fun rest hrest => exponentPart_of_endsNumeral hrest, fun hne => absurd rfl hne⟩
  | @present sign ds hsign hds =>
    have hread (rest : List UInt8) (hrest : EndsNumeral rest) :=
      digits_encode hds fun b hb => (hrest b hb).1
    obtain ⟨negative, hnegative⟩ := exponentSign_encode hsign
    have he : Utf8.encode ('e' :: sign :: ds) = 0x65 :: (Utf8.encodeChar sign ++ Utf8.encode ds) :=
      rfl
    generalize (ds.map fun c => c.toNat - 0x30) = values at hread
    cases values with
    | nil =>
      refine ⟨none, fun rest hrest => ?_, by simp⟩
      rw [he, List.cons_append, List.append_assoc, exponentPart, if_pos (.inl rfl), hnegative]
      dsimp only
      rw [hread rest hrest]
      rfl
    | cons d values =>
      refine ⟨some (some (negative, d :: values)), fun rest hrest => ?_, by simp⟩
      rw [he, List.cons_append, List.append_assoc, exponentPart, if_pos (.inl rfl), hnegative]
      dsimp only
      rw [hread rest hrest]
      rfl

/-- The exponent's `e` ends the digits in front of it, as does what ends the numeral. -/
theorem IsExponent.endsWhole {cs : List Char} (hcs : IsExponent cs) {rest : List UInt8}
    (hrest : EndsNumeral rest) : EndsWhole (Utf8.encode cs ++ rest) := by
  intro b hb
  cases hcs with
  | absent => exact ⟨(hrest b hb).1, (hrest b hb).2.1⟩
  | present =>
    cases hb
    decide

/-- The fraction's point ends the digits in front of it. -/
theorem IsFraction.endsDigits {cs : List Char} (hcs : IsFraction cs) {rest : List UInt8}
    (hrest : EndsWhole rest) : EndsDigits (Utf8.encode cs ++ rest) := by
  intro b hb
  cases hcs with
  | absent => exact (hrest b hb).1
  | present =>
    cases hb
    decide

theorem IsFloatText.exists_readsAs {text : List Char} (htext : IsFloatText text)
    (negative : Bool) :
    ∃ o, ReadsAs EndsNumeral (unsignedNumeral negative) text o
      ∧ ∀ n ∈ o, n.fraction ≠ none ∨ n.exponent ≠ none := by
  obtain ⟨whole, fraction, exponent, rfl, hwhole, -, hfraction, hexponent, hne⟩ := htext
  obtain ⟨w, hw⟩ := hwhole.exists_readsAs
  obtain ⟨f, hf, hfsome⟩ := hfraction.exists_readsAs
  obtain ⟨e, he, hesome⟩ := hexponent.exists_readsAs
  refine ⟨w.bind fun ds => f.bind fun fs => e.map fun es => ⟨negative, ds, fs, es⟩,
    fun rest hrest => ?_, fun n hn => ?_⟩
  · have hbehindFraction := hexponent.endsWhole hrest
    have hbehindWhole := hfraction.endsDigits hbehindFraction
    rw [Utf8.encode_append, Utf8.encode_append, List.append_assoc, List.append_assoc,
      unsignedNumeral, hw _ hbehindWhole]
    cases w with
    | none => rfl
    | some ds =>
      simp only [Option.map_some, bind, Option.bind_some, hf _ hbehindFraction]
      cases f with
      | none => rfl
      | some fs =>
        simp only [Option.map_some, Option.bind_some, he _ hrest]
        cases e with
        | none => rfl
        | some es => rfl
  · simp only [Option.mem_def, Option.bind_eq_some_iff, Option.map_eq_some_iff] at hn
    obtain ⟨ds, -, fs, hfs, es, hes, rfl⟩ := hn
    exact hne.imp (fun h => hfsome h fs hfs) fun h => hesome h es hes

/-! ## Reading floats -/

theorem IsFloatText.exists_cons {text : List Char} (h : IsFloatText text) :
    ∃ b bs, Utf8.encode text = b :: bs ∧ isDigit b = true := by
  obtain ⟨whole, fraction, exponent, rfl, hwhole, hne, -⟩ := h
  obtain ⟨b, bs, he, hb⟩ := exists_cons_of_isDigit hwhole hne
  rw [Utf8.encode_append, he]
  exact ⟨b, _, rfl, hb⟩

theorem exists_cons_floatText {x : Float} (h : floatText x ≠ "null".toList) :
    ∃ b bs, Utf8.encode (floatText x) = b :: bs ∧ (isDigit b = true ∨ b = minus) := by
  rcases floatText_cases x with hnull | ⟨text, htext, ht | ht⟩
  · exact absurd hnull h
  · obtain ⟨b, bs, he, hb⟩ := htext.exists_cons
    exact ⟨b, bs, by rw [ht, he], .inl hb⟩
  · exact ⟨minus, Utf8.encode text, by rw [ht]; rfl, .inr rfl⟩

theorem toInt?_of_not_whole {n : Decimal.Numeral} (h : n.fraction ≠ none ∨ n.exponent ≠ none) :
    n.toInt? = none := by
  unfold Decimal.Numeral.toInt?
  split
  · rename_i hf he
    rcases h with h | h
    · exact absurd hf h
    · exact absurd he h
  · rfl

theorem exists_readsAs_numeral {x : Float} (hnull : floatText x ≠ "null".toList) :
    ∃ o, ReadsAs EndsNumeral numeral (floatText x) o
      ∧ ∀ n ∈ o, n.fraction ≠ none ∨ n.exponent ≠ none := by
  rcases floatText_cases x with ht | ⟨text, htext, ht | ht⟩
  · exact absurd ht hnull
  · obtain ⟨o, ho, hparts⟩ := htext.exists_readsAs false
    obtain ⟨b, bs, he, hb⟩ := htext.exists_cons
    refine ⟨o, fun rest hrest => ?_, hparts⟩
    rw [ht, ← ho rest hrest, he, List.cons_append, numeral, if_neg (ne_of_isDigit hb rfl)]
  · obtain ⟨o, ho, hparts⟩ := htext.exists_readsAs true
    have hm : Utf8.encode ('-' :: text) = minus :: Utf8.encode text := rfl
    refine ⟨o, fun rest hrest => ?_, hparts⟩
    rw [ht, ← ho rest hrest, hm, List.cons_append, numeral, if_pos rfl]

theorem exists_readsAs_number {x : Float} (hnull : floatText x ≠ "null".toList) :
    ∃ o, ReadsAs EndsNumeral number (floatText x) o ∧ ∀ v ∈ o, ∃ y, v = .float y := by
  obtain ⟨o, ho, hparts⟩ := exists_readsAs_numeral hnull
  refine ⟨o.bind ofNumeral?, fun rest hrest => ?_, fun v hv => ?_⟩
  · rw [number, ho rest hrest]
    cases o with
    | none => rfl
    | some n =>
      simp only [Option.map_some, bind, Option.bind_some]
      cases ofNumeral? n with
      | none => rfl
      | some v => rfl
  · obtain ⟨n, hn, hv⟩ := Option.bind_eq_some_iff.1 hv
    rw [ofNumeral?, toInt?_of_not_whole (hparts n hn)] at hv
    obtain ⟨y, -, rfl⟩ := Option.map_eq_some_iff.1 hv
    exact ⟨y, rfl⟩

end

end SignedToken.Json
