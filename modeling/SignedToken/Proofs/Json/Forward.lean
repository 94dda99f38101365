import SignedToken.Json.Outline
import SignedToken.Proofs.Bytes.Utf8

/-!
# Readers go forward

What a reader leaves is the end of what it was given, and the strings of what it reads are quoted in
between. So a string that is read is shorter than the text it is read from.
-/

namespace SignedToken.Json

open Ascii

variable {α : Type}

theorem skipBlank_suffix (bs : List UInt8) : skipBlank bs <:+ bs := List.dropWhile_suffix _

section
variable {b : UInt8} {bs rest : List UInt8} (h : skipBlank bs = b :: rest)
include h

theorem cons_suffix_of_skipBlank : b :: rest <:+ bs := h ▸ skipBlank_suffix bs

theorem suffix_of_skipBlank : rest <:+ bs :=
  (List.suffix_cons b rest).trans (cons_suffix_of_skipBlank h)

end

/-! ## Literals and numerals -/

theorem passWord_suffix {word bs rest : List UInt8} (h : passWord word bs = some rest) :
    rest <:+ bs := by
  fun_induction passWord word bs with
  | case1 bs =>
    cases h
    exact List.suffix_rfl
  | case2 word b bs ih => exact (ih h).trans (List.suffix_cons _ _)
  | case3 => cases h
  | case4 => cases h

theorem digits_suffix (bs : List UInt8) : (digits bs).2 <:+ bs := List.dropWhile_suffix _

theorem wholePart_suffix {bs rest : List UInt8} {ds : List Nat}
    (h : wholePart bs = some (ds, rest)) : rest <:+ bs := by
  have hdigits := digits_suffix bs
  unfold wholePart at h
  split at h
  · cases h
  · cases h
  · cases h
    exact hdigits

theorem fractionPart_suffix {bs rest : List UInt8} {ds : Option (List Nat)}
    (h : fractionPart bs = some (ds, rest)) : rest <:+ bs := by
  unfold fractionPart at h
  split at h
  · cases h
    exact List.suffix_rfl
  split at h
  · rename_i b after _
    have hdigits := digits_suffix after
    split at h
    · cases h
    · rename_i hread
      cases h
      rw [hread] at hdigits
      exact hdigits.trans (List.suffix_cons _ _)
  · cases h
    exact List.suffix_rfl

theorem exponentSign_suffix (bs : List UInt8) : (exponentSign bs).2 <:+ bs := by
  unfold exponentSign
  split
  · exact List.suffix_rfl
  split
  · exact List.suffix_cons _ _
  split
  · exact List.suffix_cons _ _
  · exact List.suffix_rfl

theorem exponentPart_suffix {bs rest : List UInt8} {e : Option (Bool × List Nat)}
    (h : exponentPart bs = some (e, rest)) : rest <:+ bs := by
  unfold exponentPart at h
  split at h
  · cases h
    exact List.suffix_rfl
  split at h
  · rename_i b after _
    have hsign := exponentSign_suffix after
    have hdigits := digits_suffix (exponentSign after).2
    dsimp only at h
    split at h
    · cases h
    · rename_i hread
      cases h
      rw [hread] at hdigits
      exact (hdigits.trans hsign).trans (List.suffix_cons _ _)
  · cases h
    exact List.suffix_rfl

theorem numeral_suffix {bs rest : List UInt8} {n : Decimal.Numeral}
    (h : numeral bs = some (n, rest)) : rest <:+ bs := by
  have hunsigned {negative : Bool} {bs : List UInt8}
      (h : unsignedNumeral negative bs = some (n, rest)) : rest <:+ bs := by
    simp only [unsignedNumeral, bind, Option.bind_eq_some_iff, pure] at h
    obtain ⟨⟨_, _⟩, hwhole, ⟨_, _⟩, hfraction, ⟨_, _⟩, hexponent, h⟩ := h
    cases h
    exact ((exponentPart_suffix hexponent).trans (fractionPart_suffix hfraction)).trans
      (wholePart_suffix hwhole)
  unfold numeral at h
  split at h
  · cases h
  split at h
  · exact (hunsigned h).trans (List.suffix_cons _ _)
  · exact hunsigned h

/-! ## Strings -/

/-- The front of a text may be taken off if it makes up for what was added to the content. -/
theorem consumes_of_front {done done' content rest after : List UInt8} (front : List UInt8)
    (hdone : done'.length ≤ done.length + front.length)
    (h : rest <:+ after ∧ content.length + rest.length < done'.length + after.length) :
    rest <:+ front ++ after
      ∧ content.length + rest.length < done.length + (front ++ after).length := by
  refine ⟨h.1.trans (List.suffix_append _ _), ?_⟩
  have := h.2
  rw [List.length_append]
  omega

theorem unquoteFrom_consumes {done bs content rest : List UInt8}
    (h : unquoteFrom done bs = some (content, rest)) :
    rest <:+ bs ∧ content.length + rest.length < done.length + bs.length := by
  fun_induction unquoteFrom done bs with
  | case2 done after =>
    cases h
    refine ⟨List.suffix_cons _ _, ?_⟩
    simp only [List.length_reverse, List.length_cons]
    omega
  | case7 done h1 h2 h3 h4 high _ _ _ s u l1 l2 l3 l4 after low _ _ c _ ih =>
    refine consumes_of_front
      [backslash, unicodeEscape, h1, h2, h3, h4, s, u, l1, l2, l3, l4] ?_ (ih h)
    have : (Utf8.encodeChar c).length ≤ 4 := (Utf8.length_encodeChar_ofNat _).1
    simp only [List.length_append, List.length_reverse, List.length_cons, List.length_nil]
    omega
  | case10 done h1 h2 h3 h4 after n _ _ _ _ ih =>
    refine consumes_of_front [backslash, unicodeEscape, h1, h2, h3, h4] ?_ (ih h)
    have := (Utf8.length_encodeChar_ofNat n).1
    simp only [List.length_append, List.length_reverse, List.length_cons, List.length_nil]
    omega
  | case12 done e after _ c _ _ ih =>
    exact consumes_of_front [backslash, e] (Nat.le_succ _) (ih h)
  | case15 done b after _ _ _ ih => exact consumes_of_front [b] (Nat.le_refl _) (ih h)
  | _ => cases h

theorem unquote_consumes {bs rest : List UInt8} {s : String} (h : unquote bs = some (s, rest)) :
    rest <:+ bs ∧ (Utf8.bytes s).length < bs.length := by
  simp only [unquote, bind, Option.bind_eq_some_iff, pure] at h
  obtain ⟨⟨content, _⟩, hcontent, s', hs, h⟩ := h
  cases h
  obtain ⟨hrest, hlength⟩ := unquoteFrom_consumes hcontent
  have hs := Utf8.length_bytes_of_text? hs
  refine ⟨hrest, ?_⟩
  rw [List.length_nil] at hlength
  dsimp only at hs
  omega

/-! ## Passing over values -/

theorem passString_suffix {bs rest : List UInt8} (h : passString bs = some rest) : rest <:+ bs := by
  fun_induction passString bs with
  | case2 after =>
    cases h
    exact List.suffix_cons _ _
  | case4 h1 h2 h3 h4 after _ _ ih =>
    exact (ih h).trans (List.suffix_append [backslash, unicodeEscape, h1, h2, h3, h4] _)
  | case7 e after _ _ _ ih => exact (ih h).trans (List.suffix_append [backslash, e] _)
  | case10 b after _ _ _ ih => exact (ih h).trans (List.suffix_cons _ _)
  | _ => cases h

theorem passName_suffix {bs rest : List UInt8} (h : passName bs = some rest) : rest <:+ bs := by
  unfold passName at h
  split at h
  · cases h
  rename_i b after hblank
  split at h
  · obtain ⟨behind, hstring, h⟩ := Option.bind_eq_some_iff.1 h
    split at h
    · cases h
    rename_i c behindColon hcolon
    rw [Option.ite_none_right_eq_some] at h
    cases h.2
    exact (suffix_of_skipBlank hcolon).trans
      ((passString_suffix hstring).trans (suffix_of_skipBlank hblank))
  · cases h

theorem passScalar_suffix {bs rest : List UInt8} (h : passScalar bs = some rest) : rest <:+ bs := by
  rw [passScalar.eq_def] at h
  split at h
  · cases h
  split at h
  · exact (passString_suffix h).trans (List.suffix_cons _ _)
  split at h
  · exact passWord_suffix h
  split at h
  · exact passWord_suffix h
  split at h
  · exact passWord_suffix h
  · obtain ⟨⟨n, _⟩, hn, h⟩ := Option.map_eq_some_iff.1 h
    cases h
    exact numeral_suffix hn

theorem Bracket.enter_suffix {bracket : Bracket} {bs rest : List UInt8}
    (h : bracket.enter bs = some rest) : rest <:+ bs := by
  cases bracket with
  | array =>
    cases h
    exact List.suffix_rfl
  | object => exact passName_suffix h

theorem passClosed_suffix {opened opened' : List Bracket} {bs rest : List UInt8}
    (h : passClosed opened bs = some (opened', rest)) : rest <:+ bs := by
  induction opened generalizing bs with
  | nil =>
    cases h
    exact List.suffix_rfl
  | cons bracket opened ih =>
    rw [passClosed] at h
    split at h
    · cases h
    rename_i b after hblank
    have hafter := suffix_of_skipBlank hblank
    split at h
    · obtain ⟨_, henter, h⟩ := Option.map_eq_some_iff.1 h
      cases h
      exact (Bracket.enter_suffix henter).trans hafter
    split at h
    · exact (ih h).trans hafter
    · cases h

theorem passOpened_suffix {bracket : Bracket} {opened opened' : List Bracket}
    {bs rest : List UInt8} (h : passOpened bracket opened bs = some (opened', rest)) :
    rest <:+ bs := by
  unfold passOpened at h
  split at h
  · cases h
  rename_i b after hblank
  split at h
  · exact (passClosed_suffix h).trans (suffix_of_skipBlank hblank)
  · obtain ⟨_, henter, h⟩ := Option.map_eq_some_iff.1 h
    cases h
    exact (Bracket.enter_suffix henter).trans (cons_suffix_of_skipBlank hblank)

theorem passFrom_suffix {size : Nat} {opened : List Bracket} {bs rest : List UInt8}
    (h : passFrom size opened bs = some rest) : rest <:+ bs := by
  induction size generalizing opened bs with
  | zero => cases h
  | succ size ih =>
    have hforward {b : UInt8} {behind after : List UInt8} {opened' : List Bracket}
        (hblank : skipBlank bs = b :: behind)
        (hnext : (if b = openBracket then passOpened .array opened behind
          else if b = openBrace then passOpened .object opened behind
          else (passScalar (b :: behind)).bind (passClosed opened)) = some (opened', after)) :
        after <:+ bs := by
      have hbehind := suffix_of_skipBlank hblank
      split at hnext
      · exact (passOpened_suffix hnext).trans hbehind
      split at hnext
      · exact (passOpened_suffix hnext).trans hbehind
      · obtain ⟨_, hscalar, hclosed⟩ := Option.bind_eq_some_iff.1 hnext
        exact (passClosed_suffix hclosed).trans
          ((passScalar_suffix hscalar).trans (cons_suffix_of_skipBlank hblank))
    rw [passFrom] at h
    cases hblank : skipBlank bs with
    | nil =>
      rw [hblank] at h
      cases h
    | cons b behind =>
      rw [hblank] at h
      dsimp only at h
      split at h
      · cases h
      · rename_i after hnext
        cases h
        exact hforward hblank hnext
      · rename_i bracket opened' after hnext
        exact (ih h).trans (hforward hblank hnext)

theorem passValue_suffix {size : Nat} {bs rest : List UInt8} (h : passValue size bs = some rest) :
    rest <:+ bs :=
  passFrom_suffix h

/-! ## Quoted strings -/

/-- A string stands in quotes somewhere in a text, escapes and all. -/
def Quotes (text : List UInt8) (s : String) : Prop :=
  ∃ after rest, quote :: after <:+ text ∧ unquote after = some (s, rest)

theorem Quotes.of_suffix {text rest : List UInt8} {s : String} (h : Quotes rest s)
    (hrest : rest <:+ text) : Quotes text s := by
  obtain ⟨after, behind, hafter, hs⟩ := h
  exact ⟨after, behind, hafter.trans hrest, hs⟩

/-- What is quoted is shorter than what it is quoted in. -/
theorem Quotes.length_lt {text : List UInt8} {s : String} (h : Quotes text s) :
    (Utf8.bytes s).length < text.length := by
  obtain ⟨after, rest, hafter, hs⟩ := h
  have hlength := hafter.length_le
  rw [List.length_cons] at hlength
  exact Nat.lt_of_lt_of_le (unquote_consumes hs).2 (Nat.le_of_succ_le hlength)

theorem quotes_of_suffix {text after rest : List UInt8} {ss : List String}
    (h : rest <:+ after ∧ ∀ s ∈ ss, Quotes after s) (hafter : after <:+ text) :
    rest <:+ text ∧ ∀ s ∈ ss, Quotes text s :=
  ⟨h.1.trans hafter, fun s hs => (h.2 s hs).of_suffix hafter⟩

/-- What a reader leaves is the end of what it was given, and each string of what it reads is quoted
there. -/
def Shows (strings : α → List String) (item : List UInt8 → Option (α × List UInt8)) : Prop :=
  ∀ bs a rest, item bs = some (a, rest) → rest <:+ bs ∧ ∀ s ∈ strings a, Quotes bs s

mutual

/-- The strings of a value, names included. -/
def strings : Json → List String
  | .str s => [s]
  | .arr items => itemsStrings items
  | .obj members => membersStrings members
  | .null | .bool _ | .int _ | .float _ => []

def itemsStrings : List Json → List String
  | [] => []
  | v :: rest => v.strings ++ itemsStrings rest

def membersStrings : List (String × Json) → List String
  | [] => []
  | (k, v) :: rest => k :: v.strings ++ membersStrings rest

end

def memberStrings (m : String × Json) : List String := m.1 :: m.2.strings

theorem itemsStrings_eq_flatMap (items : List Json) :
    itemsStrings items = items.flatMap strings := by
  induction items with
  | nil => rfl
  | cons v rest ih => rw [itemsStrings, ih, List.flatMap_cons]

theorem membersStrings_eq_flatMap (members : List (String × Json)) :
    membersStrings members = members.flatMap memberStrings := by
  induction members with
  | nil => rfl
  | cons m rest ih => rw [membersStrings, ih, List.flatMap_cons, memberStrings]

section
variable {strings : α → List String} {item : List UInt8 → Option (α × List UInt8)}

theorem shows_moreItems (h : Shows strings item) (close : UInt8) (size : Nat) :
    Shows (·.flatMap strings) (moreItems close item size) := by
  induction size with
  | zero =>
    intro bs as rest hread
    cases hread
  | succ size ih =>
    intro bs as rest hread
    rw [moreItems] at hread
    obtain ⟨⟨a, after⟩, ha, hread⟩ := Option.bind_eq_some_iff.1 hread
    obtain ⟨hafter, hquotes⟩ := h _ _ _ ha
    dsimp only at hread
    split at hread
    · cases hread
    rename_i b behind hblank
    have hbehind := (suffix_of_skipBlank hblank).trans hafter
    split at hread
    · obtain ⟨⟨as', rest'⟩, hmore, hread⟩ := Option.bind_eq_some_iff.1 hread
      cases hread
      obtain ⟨hrest, hquotes'⟩ := ih _ _ _ hmore
      refine ⟨hrest.trans hbehind, fun s hs => ?_⟩
      simp only [List.flatMap_cons, List.mem_append] at hs
      exact hs.elim (hquotes s) fun hs => (hquotes' s hs).of_suffix hbehind
    split at hread
    · cases hread
      refine ⟨hbehind, fun s hs => hquotes s ?_⟩
      simpa using hs
    · cases hread

theorem shows_items (h : Shows strings item) (close : UInt8) (size : Nat) :
    Shows (·.flatMap strings) (items close item size) := by
  intro bs as rest hread
  unfold items at hread
  split at hread
  · cases hread
  rename_i b after hblank
  split at hread
  · cases hread
    exact ⟨suffix_of_skipBlank hblank, fun s hs => by cases hs⟩
  · exact quotes_of_suffix (shows_moreItems h close size _ _ _ hread)
      (cons_suffix_of_skipBlank hblank)

end

theorem shows_memberName : Shows (fun k => [k]) memberName := by
  intro bs k rest hread
  unfold memberName at hread
  split at hread
  · cases hread
  rename_i b after hblank
  have hafter := cons_suffix_of_skipBlank hblank
  split at hread
  · rename_i hq
    obtain ⟨⟨k', behind⟩, hk, hread⟩ := Option.bind_eq_some_iff.1 hread
    dsimp only at hread
    split at hread
    · cases hread
    rename_i c behindColon hcolon
    rw [Option.ite_none_right_eq_some] at hread
    cases hread.2
    refine ⟨(suffix_of_skipBlank hcolon).trans ((unquote_consumes hk).1.trans
      ((List.suffix_cons b after).trans hafter)), fun s hs => ?_⟩
    rw [List.mem_singleton.1 hs]
    exact ⟨after, behind, hq ▸ hafter, hk⟩
  · cases hread

theorem shows_member {item : List UInt8 → Option (Json × List UInt8)} (h : Shows strings item) :
    Shows memberStrings (member item) := by
  intro bs m rest hread
  simp only [member, bind, Option.bind_eq_some_iff, pure] at hread
  obtain ⟨⟨k, behindName⟩, hk, ⟨v, behindValue⟩, hv, hread⟩ := hread
  cases hread
  obtain ⟨hbehind, hname⟩ := shows_memberName _ _ _ hk
  obtain ⟨hrest, hquotes⟩ := h _ _ _ hv
  refine ⟨hrest.trans hbehind, fun s hs => ?_⟩
  rcases List.mem_cons.1 hs with rfl | hs
  · exact hname _ (List.mem_singleton.2 rfl)
  · exact (hquotes s hs).of_suffix hbehind

theorem shows_scalar : Shows strings scalar := by
  intro bs v rest hread
  have hliteral {word : String} {w : Json} {bs : List UInt8} (hw : w.strings = [])
      (h : literal word w bs = some (v, rest)) : rest <:+ bs ∧ ∀ s ∈ v.strings, Quotes bs s := by
    obtain ⟨_, hword, h⟩ := Option.map_eq_some_iff.1 h
    cases h
    exact ⟨passWord_suffix hword, by simp [hw]⟩
  rw [scalar.eq_def] at hread
  split at hread
  · cases hread
  rename_i b after
  split at hread
  · rename_i hq
    obtain ⟨⟨s, rest⟩, hs, hread⟩ := Option.map_eq_some_iff.1 hread
    cases hread
    refine ⟨(unquote_consumes hs).1.trans (List.suffix_cons _ _), fun s' hs' => ?_⟩
    rw [List.mem_singleton.1 hs']
    exact ⟨after, rest, ⟨[], by rw [hq, List.nil_append]⟩, hs⟩
  split at hread
  · exact hliteral rfl hread
  split at hread
  · exact hliteral rfl hread
  split at hread
  · exact hliteral rfl hread
  · simp only [number, ofNumeral?, bind, Option.bind_eq_some_iff, pure] at hread
    obtain ⟨⟨n, behind⟩, hn, w, hw, hread⟩ := hread
    cases hread
    refine ⟨numeral_suffix hn, ?_⟩
    split at hw
    · cases hw
      simp [strings]
    · obtain ⟨x, -, rfl⟩ := Option.map_eq_some_iff.1 hw
      simp [strings]

theorem shows_value (size depth : Nat) : Shows strings (value size depth) := by
  have hscalar {bs rest : List UInt8} {v : Json} (h : scalar (skipBlank bs) = some (v, rest)) :
      rest <:+ bs ∧ ∀ s ∈ v.strings, Quotes bs s :=
    quotes_of_suffix (shows_scalar _ _ _ h) (skipBlank_suffix bs)
  induction depth with
  | zero =>
    intro bs v rest hread
    exact hscalar hread
  | succ depth ih =>
    intro bs v rest hread
    rw [value] at hread
    split at hread
    · cases hread
    rename_i b after hblank
    have hafter := suffix_of_skipBlank hblank
    split at hread
    · obtain ⟨⟨vs, behind⟩, hitems, hread⟩ := Option.map_eq_some_iff.1 hread
      cases hread
      rw [strings, itemsStrings_eq_flatMap]
      exact quotes_of_suffix (shows_items ih _ _ _ _ _ hitems) hafter
    split at hread
    · obtain ⟨⟨ms, behind⟩, hitems, hread⟩ := Option.map_eq_some_iff.1 hread
      cases hread
      rw [strings, membersStrings_eq_flatMap]
      exact quotes_of_suffix (shows_items (shows_member ih) _ _ _ _ _ hitems) hafter
    · exact hscalar (hblank ▸ hread)

/-- The strings of a value are quoted in the text that spells it. -/
theorem quotes_of_spelled? {text : List UInt8} {v : Json} (h : spelled? text = some v) :
    ∀ s ∈ v.strings, Quotes text s := by
  unfold spelled? at h
  split at h
  · rename_i w rest hvalue
    rw [Option.ite_none_right_eq_some] at h
    cases h.2
    exact (shows_value _ _ _ _ _ hvalue).2
  · cases h

end SignedToken.Json
