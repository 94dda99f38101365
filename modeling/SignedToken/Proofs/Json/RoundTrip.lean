import SignedToken.Proofs.Json.Floats
import SignedToken.Proofs.Json.Packed
import SignedToken.Proofs.Json.Shape

/-!
# Printed values read back

A printed value spells itself as far as it has no floats, and as long as it nests no deeper than the
reader goes and its floats are in range. Otherwise nothing is read at all. What is spelled is read
as itself if nothing is packed in it.
-/

namespace SignedToken.Json

open Ascii

variable {α : Type}

/-- In front of whatever does not continue a numeral, the text is read as `a`. -/
def ReadsBack (item : List UInt8 → Option (α × List UInt8)) (text : List Char) (a : α) : Prop :=
  ∀ rest, EndsNumeral rest → item (Utf8.encode text ++ rest) = some (a, rest)

theorem ReadsAs.eq_map_fst {item : List UInt8 → Option (α × List UInt8)} {text : List Char}
    {o : Option α} (h : ReadsAs EndsNumeral item text o) :
    o = (item (Utf8.encode text)).map Prod.fst := by
  have hitem := h [] endsNumeral_nil
  rw [List.append_nil] at hitem
  rw [hitem]
  cases o with
  | none => rfl
  | some a => rfl

/-! ## Separators -/

/-- A byte that is neither blank nor a closing bracket. -/
def StartsItem (b : UInt8) : Prop := isBlank b = false ∧ b ≠ closeBracket ∧ b ≠ closeBrace

theorem skipBlank_of_not_isBlank {b : UInt8} (h : isBlank b = false) (rest : List UInt8) :
    skipBlank (b :: rest) = b :: rest :=
  List.dropWhile_cons_of_neg (by simp [h])

/-- What stands behind an item: a comma or one of the two closing brackets. -/
def IsSeparator (b : UInt8) : Prop := b = comma ∨ b = closeBracket ∨ b = closeBrace

theorem endsNumeral_of_isSeparator {b : UInt8} (h : IsSeparator b) (rest : List UInt8) :
    EndsNumeral (b :: rest) := by
  intro c hc
  cases hc
  rcases h with rfl | rfl | rfl <;> decide

theorem not_isBlank_of_isSeparator {b : UInt8} (h : IsSeparator b) : isBlank b = false := by
  rcases h with rfl | rfl | rfl <;> rfl

theorem encode_commaSeparated_cons (t u : List Char) (ts : List (List Char)) :
    Utf8.encode (commaSeparated (t :: u :: ts))
      = Utf8.encode t ++ comma :: Utf8.encode (commaSeparated (u :: ts)) :=
  Utf8.encode_append t (',' :: commaSeparated (u :: ts))

/-! ## Lists -/

section
variable {β : Type} {item : List UInt8 → Option (α × List UInt8)} {text : β → List Char}
  {reading : β → Option α}

theorem moreItems_of_comma {close : UInt8} {size : Nat} {a : α} {bs rest : List UInt8}
    (h : item bs = some (a, comma :: rest)) :
    moreItems close item (size + 1) bs
      = (moreItems close item size rest).map fun (as, rest) => (a :: as, rest) := by
  rw [moreItems, h]
  simp only [bind, Option.bind_some, skipBlank_of_not_isBlank (show isBlank comma = false from rfl),
    if_true]
  cases moreItems close item size rest with
  | none => rfl
  | some _ => rfl

theorem moreItems_of_close {close : UInt8} (hclose : close = closeBracket ∨ close = closeBrace)
    {size : Nat} {a : α} {bs rest : List UInt8} (h : item bs = some (a, close :: rest)) :
    moreItems close item (size + 1) bs = some ([a], rest) := by
  have hs : IsSeparator close := .inr hclose
  have hne : close ≠ comma := by rcases hclose with rfl | rfl <;> decide
  rw [moreItems, h]
  simp only [bind, Option.bind_some, skipBlank_of_not_isBlank (not_isBlank_of_isSeparator hs),
    hne, if_true, if_false]
  rfl

theorem moreItems_of_none {close : UInt8} {size : Nat} {bs : List UInt8} (h : item bs = none) :
    moreItems close item size bs = none := by
  cases size with
  | zero => rfl
  | succ size =>
    rw [moreItems, h]
    rfl

theorem moreItems_commaSeparated (close : UInt8)
    (hclose : close = closeBracket ∨ close = closeBrace) {x : β} {xs : List β} {size : Nat}
    (hsize : xs.length < size)
    (h : ∀ y ∈ x :: xs, ReadsAs EndsNumeral item (text y) (reading y)) (rest : List UInt8) :
    moreItems close item size (Utf8.encode (commaSeparated ((x :: xs).map text)) ++ close :: rest)
      = ((x :: xs).mapM reading).map (·, rest) := by
  induction xs generalizing x size with
  | nil =>
    obtain ⟨size, rfl⟩ := Nat.exists_eq_add_one_of_ne_zero (Nat.ne_zero_of_lt hsize)
    have hx := h x (by simp) _ (endsNumeral_of_isSeparator (.inr hclose) rest)
    rw [List.mapM_cons]
    cases hread : reading x with
    | none =>
      rw [hread] at hx
      exact moreItems_of_none hx
    | some a =>
      rw [hread] at hx
      exact moreItems_of_close hclose hx
  | cons y ys ih =>
    obtain ⟨size, rfl⟩ := Nat.exists_eq_add_one_of_ne_zero (Nat.ne_zero_of_lt hsize)
    have hmore := ih (Nat.lt_of_succ_lt_succ hsize) fun z hz => h z (List.mem_cons_of_mem x hz)
    have hx := h x (by simp) _ (endsNumeral_of_isSeparator (.inl rfl)
      (Utf8.encode (commaSeparated ((y :: ys).map text)) ++ close :: rest))
    rw [List.map_cons] at hmore hx
    rw [List.map_cons, List.map_cons, encode_commaSeparated_cons, List.append_assoc,
      List.cons_append, List.mapM_cons]
    cases hread : reading x with
    | none =>
      rw [hread] at hx
      exact moreItems_of_none hx
    | some a =>
      rw [hread] at hx
      rw [moreItems_of_comma hx, hmore]
      cases (y :: ys).mapM reading with
      | none => rfl
      | some as => rfl

theorem exists_cons_commaSeparated {t : List Char} (ts : List (List Char))
    (h : ∃ b bs, Utf8.encode t = b :: bs ∧ StartsItem b) :
    ∃ b bs, Utf8.encode (commaSeparated (t :: ts)) = b :: bs ∧ StartsItem b := by
  obtain ⟨b, bs, he, hb⟩ := h
  cases ts with
  | nil => exact ⟨b, bs, he, hb⟩
  | cons u ts =>
    rw [encode_commaSeparated_cons, he]
    exact ⟨b, _, rfl, hb⟩

theorem items_eq_moreItems {close : UInt8} (hclose : close = closeBracket ∨ close = closeBrace)
    {bs : List UInt8} (h : ∃ b after, bs = b :: after ∧ StartsItem b) (size : Nat)
    (rest : List UInt8) :
    items close item size (bs ++ rest) = moreItems close item size (bs ++ rest) := by
  obtain ⟨b, after, rfl, hb, hbracket, hbrace⟩ := h
  have hne : b ≠ close := by
    rcases hclose with rfl | rfl
    · exact hbracket
    · exact hbrace
  rw [List.cons_append, items, skipBlank_of_not_isBlank hb]
  simp only [hne, if_false]

theorem items_commaSeparated (close : UInt8)
    (hclose : close = closeBracket ∨ close = closeBrace) {xs : List β} {size : Nat}
    (hsize : xs.length ≤ size)
    (h : ∀ x ∈ xs, ReadsAs EndsNumeral item (text x) (reading x))
    (hstart : ∀ x ∈ xs, ∃ b bs, Utf8.encode (text x) = b :: bs ∧ StartsItem b)
    (rest : List UInt8) :
    items close item size (Utf8.encode (commaSeparated (xs.map text)) ++ close :: rest)
      = (xs.mapM reading).map (·, rest) := by
  cases xs with
  | nil =>
    have hs : IsSeparator close := .inr hclose
    simp only [List.map_nil, commaSeparated, Utf8.encode_nil, List.nil_append, items,
      skipBlank_of_not_isBlank (not_isBlank_of_isSeparator hs), if_true, List.mapM_nil]
    rfl
  | cons x xs =>
    have hfirst := exists_cons_commaSeparated (xs.map text) (hstart x (by simp))
    rw [← List.map_cons] at hfirst
    rw [items_eq_moreItems hclose hfirst]
    exact moreItems_commaSeparated close hclose hsize h rest

end

theorem length_le_commaSeparated (ts : List (List Char)) :
    ts.length ≤ (Utf8.encode (commaSeparated ts)).length + 1 := by
  match ts with
  | [] => simp
  | [t] => simp
  | t :: u :: ts =>
    have ih := length_le_commaSeparated (u :: ts)
    rw [encode_commaSeparated_cons]
    simp only [List.length_cons, List.length_append] at ih ⊢
    omega

theorem length_le_commaSeparated_of_mem {ts : List (List Char)} {t : List Char} (h : t ∈ ts) :
    (Utf8.encode t).length ≤ (Utf8.encode (commaSeparated ts)).length := by
  match ts with
  | [] => cases h
  | [u] =>
    rw [List.mem_singleton.1 h]
    exact Nat.le_refl _
  | u :: u' :: ts =>
    rw [encode_commaSeparated_cons]
    simp only [List.length_cons, List.length_append]
    rcases List.mem_cons.1 h with rfl | h
    · omega
    · have := length_le_commaSeparated_of_mem h
      omega

/-! ## Scalars -/

theorem passWord_append (word rest : List UInt8) : passWord word (word ++ rest) = some rest := by
  induction word with
  | nil => rfl
  | cons w word ih =>
    rw [List.cons_append, passWord, if_pos rfl]
    exact ih

theorem value_of_scalar {b : UInt8} (hb : isBlank b = false) (harr : b ≠ openBracket)
    (hobj : b ≠ openBrace) (size depth : Nat) (rest : List UInt8) :
    value size depth (b :: rest) = scalar (b :: rest) := by
  cases depth with
  | zero => rw [value, skipBlank_of_not_isBlank hb]
  | succ depth =>
    rw [value, skipBlank_of_not_isBlank hb]
    simp only [harr, hobj, if_false]

theorem value_literal (word : String) {v : Json} {b : UInt8} {bs : List UInt8}
    (he : Utf8.bytes word = b :: bs)
    (hb : isBlank b = false ∧ b ≠ openBracket ∧ b ≠ openBrace)
    (hs : ∀ rest, scalar (b :: rest) = literal word v (b :: rest)) (size depth : Nat) :
    ReadsBack (value size depth) word.toList v := by
  intro rest hrest
  have hw := passWord_append (Utf8.bytes word) rest
  change value size depth (Utf8.bytes word ++ rest) = _
  rw [he, List.cons_append] at hw ⊢
  rw [value_of_scalar hb.1 hb.2.1 hb.2.2, hs, literal, he, hw]
  rfl

theorem startsNumber_of_isDigit {b : UInt8} (h : isDigit b = true ∨ b = minus) :
    StartsItem b ∧ b ≠ openBracket ∧ b ≠ openBrace
      ∧ b ≠ quote ∧ b ≠ 0x6E ∧ b ≠ 0x74 ∧ b ≠ 0x66 := by
  rcases h with h | rfl
  · have hblank : isBlank b = false := by
      simp only [isBlank, Bool.or_eq_false_iff, beq_eq_false_iff_ne]
      exact ⟨⟨⟨ne_of_isDigit h rfl, ne_of_isDigit h rfl⟩, ne_of_isDigit h rfl⟩, ne_of_isDigit h rfl⟩
    exact ⟨⟨hblank, ne_of_isDigit h rfl, ne_of_isDigit h rfl⟩, ne_of_isDigit h rfl,
      ne_of_isDigit h rfl, ne_of_isDigit h rfl, ne_of_isDigit h rfl, ne_of_isDigit h rfl,
      ne_of_isDigit h rfl⟩
  · exact ⟨⟨by decide, by decide, by decide⟩, by decide⟩

theorem exists_cons_decimal (n : Int) :
    ∃ b bs, Utf8.encode (decimal n) = b :: bs ∧ (isDigit b = true ∨ b = minus) := by
  cases n with
  | ofNat n =>
    obtain ⟨b, bs, he, hb⟩ := exists_cons_toDigits n
    exact ⟨b, bs, he, .inl hb⟩
  | negSucc n => exact ⟨minus, Utf8.encode (Nat.toDigits 10 (n + 1)), rfl, .inr rfl⟩

theorem value_decimal (n : Integer) (size depth : Nat) :
    ReadsBack (value size depth) (decimal n.val) (.int n) := by
  intro rest hrest
  have hn := number_decimal n hrest
  obtain ⟨b, bs, he, hb⟩ := exists_cons_decimal n.val
  obtain ⟨⟨hblank, -, -⟩, harr, hobj, hq, hnull, htrue, hfalse⟩ := startsNumber_of_isDigit hb
  rw [he, List.cons_append] at hn ⊢
  rw [value_of_scalar hblank harr hobj, scalar]
  simp only [hq, hnull, htrue, hfalse, if_false]
  exact hn

theorem value_quoted (s : String) (size depth : Nat) :
    ReadsBack (value size depth) (quoted s) (.str s) := by
  intro rest hrest
  rw [encode_quoted, List.cons_append, List.append_assoc, List.singleton_append,
    value_of_scalar (by decide) (by decide) (by decide), scalar, if_pos rfl, unquote_quoted]
  rfl

/-- What the text of a float is read as, if it is in range. -/
def rereadFloat? (x : Float) : Option Json := (scalar (Utf8.encode (floatText x))).map Prod.fst

theorem exists_readsAs_scalar (x : Float) :
    ∃ o, ReadsAs EndsNumeral scalar (floatText x) o ∧ ∀ v ∈ o, v.withoutFloats = .null := by
  by_cases hnull : floatText x = "null".toList
  · refine ⟨some .null, fun rest _ => ?_, fun v hv => ?_⟩
    · rw [hnull]
      exact congrArg (Option.map (Json.null, ·)) (passWord_append (Utf8.bytes "null") rest)
    · cases hv
      rfl
  · obtain ⟨o, ho, hfloat⟩ := exists_readsAs_number hnull
    refine ⟨o, fun rest hrest => ?_, fun v hv => ?_⟩
    · obtain ⟨b, bs, he, hb⟩ := exists_cons_floatText hnull
      obtain ⟨-, -, -, hq, hn, ht, hf⟩ := startsNumber_of_isDigit hb
      rw [← ho rest hrest, he, List.cons_append, scalar]
      simp only [hq, hn, ht, hf, if_false]
    · obtain ⟨y, rfl⟩ := hfloat v hv
      rfl

theorem readsAs_rereadFloat? (x : Float) :
    ReadsAs EndsNumeral scalar (floatText x) (rereadFloat? x) := by
  obtain ⟨o, ho, -⟩ := exists_readsAs_scalar x
  rwa [rereadFloat?, ← ho.eq_map_fst]

theorem withoutFloats_of_rereadFloat? {x : Float} {v : Json} (h : rereadFloat? x = some v) :
    v.withoutFloats = .null := by
  obtain ⟨o, ho, hnull⟩ := exists_readsAs_scalar x
  rw [rereadFloat?, ← ho.eq_map_fst] at h
  exact hnull v h

theorem value_floatText (x : Float) (size depth : Nat) :
    ReadsAs EndsNumeral (value size depth) (floatText x) (rereadFloat? x) := by
  intro rest hrest
  obtain ⟨b, bs, he, hblank, harr, hobj⟩ : ∃ b bs, Utf8.encode (floatText x) = b :: bs
      ∧ isBlank b = false ∧ b ≠ openBracket ∧ b ≠ openBrace := by
    by_cases hnull : floatText x = "null".toList
    · rw [hnull]
      exact ⟨0x6E, _, rfl, by decide, by decide, by decide⟩
    · obtain ⟨b, bs, he, hb⟩ := exists_cons_floatText hnull
      obtain ⟨⟨hblank, -, -⟩, harr, hobj, -⟩ := startsNumber_of_isDigit hb
      exact ⟨b, bs, he, hblank, harr, hobj⟩
  rw [← readsAs_rereadFloat? x rest hrest, he, List.cons_append, value_of_scalar hblank harr hobj]

/-! ## Values -/

theorem itemsChars_eq_map (vs : List Json) : itemsChars vs = vs.map chars := by
  induction vs with
  | nil => rfl
  | cons v vs ih => rw [itemsChars, ih, List.map_cons]

def memberChars (m : String × Json) : List Char := quoted m.1 ++ ':' :: m.2.chars

theorem membersChars_eq_map (ms : List (String × Json)) : membersChars ms = ms.map memberChars := by
  induction ms with
  | nil => rfl
  | cons m ms ih => rw [membersChars, ih, List.map_cons, memberChars]

theorem encode_memberChars (m : String × Json) :
    Utf8.encode (memberChars m)
      = quote :: (Utf8.encode (m.1.toList.flatMap quotedChar)
        ++ quote :: colon :: Utf8.encode m.2.chars) := by
  rw [memberChars, Utf8.encode_append, encode_quoted, List.cons_append, List.append_assoc]
  rfl

theorem memberName_quoted (s : String) (rest : List UInt8) :
    memberName (quote :: (Utf8.encode (s.toList.flatMap quotedChar) ++ quote :: colon :: rest))
      = some (s, rest) := by
  simp only [memberName, skipBlank_of_not_isBlank (show isBlank quote = false from rfl), if_true,
    unquote_quoted, bind, Option.bind_some,
    skipBlank_of_not_isBlank (show isBlank colon = false from rfl)]
  rfl

theorem startsItem_memberChars (m : String × Json) :
    ∃ b bs, Utf8.encode (memberChars m) = b :: bs ∧ StartsItem b :=
  ⟨quote, _, encode_memberChars m, by decide, by decide, by decide⟩

theorem encode_arr (vs : List Json) :
    Utf8.encode (Json.arr vs).chars
      = openBracket :: (Utf8.encode (commaSeparated (vs.map chars)) ++ [closeBracket]) := by
  rw [chars, itemsChars_eq_map, Utf8.encode_cons, Utf8.encode_append]
  rfl

theorem encode_obj (ms : List (String × Json)) :
    Utf8.encode (Json.obj ms).chars
      = openBrace :: (Utf8.encode (commaSeparated (ms.map memberChars)) ++ [closeBrace]) := by
  rw [chars, membersChars_eq_map, Utf8.encode_cons, Utf8.encode_append]
  rfl

theorem startsItem_chars (v : Json) : ∃ b bs, Utf8.encode v.chars = b :: bs ∧ StartsItem b := by
  cases v with
  | null => exact ⟨0x6E, _, rfl, by decide, by decide, by decide⟩
  | bool b =>
    cases b with
    | true => exact ⟨0x74, _, rfl, by decide, by decide, by decide⟩
    | false => exact ⟨0x66, _, rfl, by decide, by decide, by decide⟩
  | int n =>
    obtain ⟨b, bs, he, hb⟩ := exists_cons_decimal n.val
    exact ⟨b, bs, he, (startsNumber_of_isDigit hb).1⟩
  | float x =>
    by_cases hnull : floatText x = "null".toList
    · rw [chars, hnull]
      exact ⟨0x6E, _, rfl, by decide, by decide, by decide⟩
    · obtain ⟨b, bs, he, hb⟩ := exists_cons_floatText hnull
      exact ⟨b, bs, he, (startsNumber_of_isDigit hb).1⟩
  | str s => exact ⟨quote, _, encode_quoted s, by decide, by decide, by decide⟩
  | arr vs => exact ⟨openBracket, _, encode_arr vs, by decide, by decide, by decide⟩
  | obj ms => exact ⟨openBrace, _, encode_obj ms, by decide, by decide, by decide⟩

mutual

/-- What a printed value is read as by a reader that goes `depth` deep. -/
def reread? : Nat → Json → Option Json
  | _, .null => some .null
  | _, .bool b => some (.bool b)
  | _, .int n => some (.int n)
  | _, .float x => rereadFloat? x
  | _, .str s => some (.str s)
  | 0, .arr _ => none
  | 0, .obj _ => none
  | depth + 1, .arr items => (rereadItems? depth items).map .arr
  | depth + 1, .obj members => (rereadMembers? depth members).map .obj

def rereadItems? (depth : Nat) : List Json → Option (List Json)
  | [] => some []
  | v :: rest => do return (← reread? depth v) :: (← rereadItems? depth rest)

def rereadMembers? (depth : Nat) : List (String × Json) → Option (List (String × Json))
  | [] => some []
  | (k, v) :: rest => do return (k, ← reread? depth v) :: (← rereadMembers? depth rest)

end

theorem rereadItems?_eq_mapM (depth : Nat) (items : List Json) :
    rereadItems? depth items = items.mapM (reread? depth) := by
  induction items with
  | nil => rfl
  | cons v rest ih => rw [rereadItems?, ih, List.mapM_cons]

def rereadMember? (depth : Nat) (m : String × Json) : Option (String × Json) :=
  (reread? depth m.2).map (m.1, ·)

theorem rereadMembers?_eq_mapM (depth : Nat) (members : List (String × Json)) :
    rereadMembers? depth members = members.mapM (rereadMember? depth) := by
  induction members with
  | nil => rfl
  | cons m rest ih =>
    rw [rereadMembers?, ih, List.mapM_cons, rereadMember?]
    cases reread? depth m.2 <;> rfl

theorem member_memberChars {item : List UInt8 → Option (Json × List UInt8)} {m : String × Json}
    {o : Option Json} (h : ReadsAs EndsNumeral item m.2.chars o) :
    ReadsAs EndsNumeral (member item) (memberChars m) (o.map (m.1, ·)) := by
  intro rest hrest
  rw [encode_memberChars, List.cons_append, List.append_assoc, List.cons_append, List.cons_append,
    member, memberName_quoted]
  simp only [bind, Option.bind_some, h rest hrest]
  cases o with
  | none => rfl
  | some v => rfl

mutual

/-- The reader has to take as many items as there are. -/
theorem value_chars {size : Nat} : {depth : Nat} → (v : Json) →
    (Utf8.encode v.chars).length ≤ size →
    ReadsAs EndsNumeral (value size depth) v.chars (reread? depth v)
  | depth, .null, _ => by
    rw [reread?]
    exact value_literal "null" rfl (by decide) (fun _ => rfl) size depth
  | depth, .bool true, _ => by
    rw [reread?]
    exact value_literal "true" rfl (by decide) (fun _ => rfl) size depth
  | depth, .bool false, _ => by
    rw [reread?]
    exact value_literal "false" rfl (by decide) (fun _ => rfl) size depth
  | depth, .int n, _ => by
    rw [reread?]
    exact value_decimal n size depth
  | depth, .float x, _ => by
    rw [reread?]
    exact value_floatText x size depth
  | depth, .str s, _ => by
    rw [reread?]
    exact value_quoted s size depth
  -- deeper than the reader goes: nothing is read
  | 0, .arr vs, _ => by
    intro rest _
    rw [encode_arr, reread?]
    rfl
  | 0, .obj ms, _ => by
    intro rest _
    rw [encode_obj, reread?]
    rfl
  | depth + 1, .arr vs, hsize => by
    intro rest hrest
    simp only [encode_arr, List.length_cons, List.length_append, List.length_nil] at hsize
    have hcount : vs.length ≤ size := by
      have := length_le_commaSeparated (vs.map chars)
      rw [List.length_map] at this
      omega
    have hshort : ∀ v ∈ vs, (Utf8.encode v.chars).length ≤ size := fun v hv => by
      have := length_le_commaSeparated_of_mem (List.mem_map_of_mem (f := chars) hv)
      omega
    have hitems : ∀ v ∈ vs, ReadsAs EndsNumeral (value size depth) v.chars (reread? depth v) :=
      items_chars vs hshort
    have hread := items_commaSeparated closeBracket (.inl rfl) hcount hitems
      (fun v _ => startsItem_chars v) rest
    rw [encode_arr, List.cons_append, List.append_assoc, List.singleton_append, value,
      skipBlank_of_not_isBlank (by decide), reread?, rereadItems?_eq_mapM]
    simp only [if_true, hread, Option.map_map, Function.comp_def]
  | depth + 1, .obj ms, hsize => by
    intro rest hrest
    simp only [encode_obj, List.length_cons, List.length_append, List.length_nil] at hsize
    have hcount : ms.length ≤ size := by
      have := length_le_commaSeparated (ms.map memberChars)
      rw [List.length_map] at this
      omega
    have hshort : ∀ m ∈ ms, (Utf8.encode m.2.chars).length ≤ size := fun m hm => by
      have := length_le_commaSeparated_of_mem (List.mem_map_of_mem (f := memberChars) hm)
      simp only [encode_memberChars, List.length_cons, List.length_append] at this
      omega
    have hmembers : ∀ m ∈ ms,
        ReadsAs EndsNumeral (value size depth) m.2.chars (reread? depth m.2) :=
      members_chars ms hshort
    have hread := items_commaSeparated closeBrace (.inr rfl) hcount
      (fun m hm => member_memberChars (hmembers m hm)) (fun m _ => startsItem_memberChars m) rest
    have hne : openBrace ≠ openBracket := by decide
    rw [encode_obj, List.cons_append, List.append_assoc, List.singleton_append, value,
      skipBlank_of_not_isBlank (by decide), reread?, rereadMembers?_eq_mapM]
    simp only [hne, if_true, if_false, hread, Option.map_map, Function.comp_def]
    rfl

theorem items_chars {size depth : Nat} : (vs : List Json) →
    (∀ v ∈ vs, (Utf8.encode v.chars).length ≤ size) →
    ∀ v ∈ vs, ReadsAs EndsNumeral (value size depth) v.chars (reread? depth v)
  | [], _ => fun v hv => absurd hv List.not_mem_nil
  | v :: vs, hsize => by
    intro w hw
    rcases List.mem_cons.1 hw with hw | hw
    · rw [hw]
      exact value_chars v (hsize v (by simp))
    · exact items_chars vs (fun x hx => hsize x (List.mem_cons_of_mem v hx)) w hw

theorem members_chars {size depth : Nat} : (ms : List (String × Json)) →
    (∀ m ∈ ms, (Utf8.encode m.2.chars).length ≤ size) →
    ∀ m ∈ ms, ReadsAs EndsNumeral (value size depth) m.2.chars (reread? depth m.2)
  | [], _ => fun m hm => absurd hm List.not_mem_nil
  | (k, v) :: ms, hsize => by
    intro m hm
    rcases List.mem_cons.1 hm with hm | hm
    · rw [hm]
      exact value_chars v (hsize (k, v) (by simp))
    · exact members_chars ms (fun x hx => hsize x (List.mem_cons_of_mem _ hx)) m hm

end

/-- What a printed value spells does not depend on its text any more. -/
theorem spelled?_chars_eq (v : Json) : spelled? (Utf8.encode v.chars) = reread? maxDepth v := by
  have hv : ReadsAs EndsNumeral (value _ maxDepth) v.chars (reread? maxDepth v) :=
    value_chars v (Nat.le_refl _)
  have h := hv [] endsNumeral_nil
  rw [List.append_nil] at h
  rw [spelled?, h]
  cases reread? maxDepth v with
  | none => rfl
  | some w => rfl

/-! ## Values without floats -/

mutual

theorem reread?_of_isFloatFree : {depth : Nat} → (v : Json) → v.isFloatFree = true →
    v.depth ≤ depth → reread? depth v = some v
  | depth, .null, _, _ | depth, .bool _, _, _ | depth, .int _, _, _ | depth, .str _, _, _ => by
    rw [reread?]
  | depth + 1, .arr vs, hfree, hdepth => by
    rw [reread?, rereadItems?_of_isFloatFree vs hfree (Nat.le_of_succ_le_succ hdepth),
      Option.map_some]
  | depth + 1, .obj ms, hfree, hdepth => by
    rw [reread?, rereadMembers?_of_isFloatFree ms hfree (Nat.le_of_succ_le_succ hdepth),
      Option.map_some]

theorem rereadItems?_of_isFloatFree {depth : Nat} : (vs : List Json) →
    areItemsFloatFree vs = true → itemsDepth vs ≤ depth → rereadItems? depth vs = some vs
  | [], _, _ => rfl
  | v :: vs, hfree, hdepth => by
    rw [areItemsFloatFree, Bool.and_eq_true] at hfree
    rw [itemsDepth, Nat.max_le] at hdepth
    rw [rereadItems?, reread?_of_isFloatFree v hfree.1 hdepth.1,
      rereadItems?_of_isFloatFree vs hfree.2 hdepth.2]
    rfl

theorem rereadMembers?_of_isFloatFree {depth : Nat} : (ms : List (String × Json)) →
    areMembersFloatFree ms = true → membersDepth ms ≤ depth → rereadMembers? depth ms = some ms
  | [], _, _ => rfl
  | (k, v) :: ms, hfree, hdepth => by
    rw [areMembersFloatFree, Bool.and_eq_true] at hfree
    rw [membersDepth, Nat.max_le] at hdepth
    rw [rereadMembers?, reread?_of_isFloatFree v hfree.1 hdepth.1,
      rereadMembers?_of_isFloatFree ms hfree.2 hdepth.2]
    rfl

end

theorem spelled?_chars {v : Json} (hfree : v.isFloatFree = true) (hdepth : v.depth ≤ maxDepth) :
    spelled? (Utf8.encode v.chars) = some v := by
  rw [spelled?_chars_eq, reread?_of_isFloatFree v hfree hdepth]

theorem read?_chars {v : Json} (hfree : v.isFloatFree = true) (hdepth : v.depth ≤ maxDepth)
    (hunpacked : v.isUnpacked = true) : read? (Utf8.encode v.chars) = some v :=
  read?_of_isUnpacked (spelled?_chars hfree hdepth) hunpacked

theorem value_encode_chars {v : Json} {size depth : Nat} (hfree : v.isFloatFree = true)
    (hdepth : v.depth ≤ depth) (hsize : (Utf8.encode v.chars).length ≤ size) :
    value size depth (Utf8.encode v.chars) = some (v, []) := by
  have hv : ReadsAs EndsNumeral (value size depth) v.chars (reread? depth v) := value_chars v hsize
  have h := hv [] endsNumeral_nil
  rwa [List.append_nil, reread?_of_isFloatFree v hfree hdepth] at h

/-- No two values have the same text, however deep they nest: some reader goes deep enough for both
of them. -/
theorem eq_of_encode_chars {v w : Json} (hv : v.isFloatFree = true) (hw : w.isFloatFree = true)
    (h : Utf8.encode v.chars = Utf8.encode w.chars) : v = w := by
  have hreadv := value_encode_chars hv (Nat.le_max_left v.depth w.depth) (Nat.le_refl _)
  have hreadw := value_encode_chars hw (Nat.le_max_right v.depth w.depth) (Nat.le_refl _)
  rw [← h, hreadv] at hreadw
  exact (Prod.mk.inj (Option.some.inj hreadw)).1

end SignedToken.Json
