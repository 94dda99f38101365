import SignedToken.Json.Outline
import SignedToken.Proofs.Json.RoundTrip

/-!
# Outlines of printed objects

The outline of an object whose members are all texts holds these texts, and a field of it is read
like the member of that name.
-/

namespace SignedToken.Json

open Ascii

/-- Each member of an outline, once it is read, is a member of the object. -/
def Outlines (ms : List (String × List UInt8)) (members : List (String × Json)) : Prop :=
  ms.map (fun m => (m.1, readItem? m.2)) = members.map (fun m => (m.1, some m.2))

/-! ## Fields -/

section
variable {ms : List (String × List UInt8)} {members : List (String × Json)}

theorem Outlines.named (h : Outlines ms members) (name : String) :
    (Json.named name ms).map readItem?
      = (members.filter (·.1 == name)).map fun m => some m.2 := by
  have hfilter := congrArg (fun l => (l.filter (·.1 == name)).map Prod.snd) h
  simp only [List.filter_map, List.map_map, Function.comp_def] at hfilter
  rw [Json.named, List.map_map]
  exact hfilter

theorem Outlines.field? {α : Type} (h : Outlines ms members) (position : Nat) (name : String)
    (missing : Option α) (read : Json → Option α) :
    (Outline.members ms).field? position name missing read
      = match members.filter (·.1 == name) with
        | [] => missing
        | [m] => read m.2
        | _ => none := by
  have hnamed := h.named name
  rw [Outline.field?, Outline.texts]
  generalize Json.named name ms = texts at hnamed ⊢
  generalize members.filter (·.1 == name) = found at hnamed ⊢
  match texts, found with
  | [], [] => rfl
  | [text], [m] =>
    cases hnamed' : readItem? text with
    | none => simp [hnamed'] at hnamed
    | some v =>
      simp only [List.map_cons, List.map_nil, hnamed', List.cons.injEq, Option.some.injEq,
        and_true] at hnamed
      simp only [hnamed', hnamed, Option.bind_some]
  | _ :: _ :: _, _ :: _ :: _ => rfl
  | [], _ :: _ | _ :: _, [] | [_], _ :: _ :: _ | _ :: _ :: _, [_] => simp at hnamed

end

/-! ## Texts -/

theorem passValue_quoted (s : String) (size : Nat) (rest : List UInt8) :
    passValue (size + 1) (Utf8.encode (quoted s) ++ rest) = some rest := by
  have hblank : isBlank quote = false := rfl
  have harr : quote ≠ openBracket := by decide
  have hobj : quote ≠ openBrace := by decide
  rw [passValue, passFrom, encode_quoted, List.cons_append, List.append_assoc,
    List.singleton_append]
  simp only [skipBlank_of_not_isBlank hblank, harr, hobj, if_false, passScalar, if_true,
    passString_quoted, Option.bind_some, passClosed]

theorem readItem?_quoted (s : String) {rest : List UInt8} (h : EndsNumeral rest) :
    readItem? (Utf8.encode (quoted s) ++ rest) = some (.str s) := by
  rw [readItem?, value_quoted s _ _ rest h]
  rfl

/-- The members of an object whose values are all texts. -/
def textMembers (fields : List (String × String)) : List (String × Json) :=
  fields.map fun f => (f.1, .str f.2)

theorem member_uncutItem (k s : String) (size : Nat) (rest : List UInt8) :
    member (uncutItem (size + 1)) (Utf8.encode (memberChars (k, .str s)) ++ rest)
      = some ((k, Utf8.encode (quoted s) ++ rest), rest) := by
  rw [encode_memberChars, List.cons_append, List.append_assoc, List.cons_append, List.cons_append,
    member, memberName_quoted]
  simp only [bind, Option.bind_some, chars, uncutItem, passValue_quoted, Option.map_some]
  rfl

theorem moreItems_textMembers (size : Nat) (k s : String) (fields : List (String × String))
    {count : Nat} (hcount : fields.length < count) (rest : List UInt8) :
    ∃ ms, moreItems closeBrace (member (uncutItem (size + 1))) count
        (Utf8.encode (commaSeparated ((textMembers ((k, s) :: fields)).map memberChars))
          ++ closeBrace :: rest) = some (ms, rest)
      ∧ Outlines ms (textMembers ((k, s) :: fields)) := by
  induction fields generalizing k s count with
  | nil =>
    obtain ⟨count, rfl⟩ := Nat.exists_eq_add_one_of_ne_zero (Nat.ne_zero_of_lt hcount)
    refine ⟨_, moreItems_of_close (.inr rfl) (member_uncutItem k s size (closeBrace :: rest)), ?_⟩
    simp only [Outlines, textMembers, List.map_cons, List.map_nil,
      readItem?_quoted s (endsNumeral_of_isSeparator (.inr (.inr rfl)) rest)]
  | cons f fields ih =>
    obtain ⟨count, rfl⟩ := Nat.exists_eq_add_one_of_ne_zero (Nat.ne_zero_of_lt hcount)
    obtain ⟨ms, hms, hout⟩ := ih f.1 f.2 (Nat.lt_of_succ_lt_succ hcount)
    have hread := readItem?_quoted s (endsNumeral_of_isSeparator (.inl rfl)
      (Utf8.encode (commaSeparated ((textMembers (f :: fields)).map memberChars))
        ++ closeBrace :: rest))
    refine ⟨(k, Utf8.encode (quoted s) ++ comma
      :: (Utf8.encode (commaSeparated ((textMembers (f :: fields)).map memberChars))
        ++ closeBrace :: rest)) :: ms, ?_, ?_⟩
    · simp only [textMembers, List.map_cons] at hms ⊢
      rw [encode_commaSeparated_cons, List.append_assoc, List.cons_append,
        moreItems_of_comma (member_uncutItem k s size _), hms, Option.map_some]
    · simp only [Outlines, textMembers, List.map_cons] at hout hread ⊢
      rw [hread, hout]

theorem outline?_textMembers (fields : List (String × String)) :
    ∃ ms, outline? (Utf8.encode (Json.obj (textMembers fields)).chars) = some (.members ms)
      ∧ Outlines ms (textMembers fields) := by
  have hblank : isBlank openBrace = false := rfl
  generalize hsize : (Utf8.encode (Json.obj (textMembers fields)).chars).length = size
  have hcount : fields.length + 1 ≤ size := by
    have hlength := length_le_commaSeparated ((textMembers fields).map memberChars)
    rw [encode_obj, List.length_cons, List.length_append] at hsize
    simp only [textMembers, List.length_map, List.length_singleton] at hlength hsize
    omega
  obtain ⟨size, rfl⟩ := Nat.exists_eq_add_one_of_ne_zero (Nat.ne_zero_of_lt hcount)
  have hitems : ∃ ms, items closeBrace (member (uncutItem (size + 1))) (size + 1)
      (Utf8.encode (commaSeparated ((textMembers fields).map memberChars)) ++ [closeBrace])
        = some (ms, []) ∧ Outlines ms (textMembers fields) := by
    cases fields with
    | nil => exact ⟨[], rfl, rfl⟩
    | cons f fields =>
      obtain ⟨ms, hms, hout⟩ := moreItems_textMembers size f.1 f.2 fields
        (Nat.lt_of_succ_le (Nat.le_of_succ_le hcount)) []
      have hfirst := exists_cons_commaSeparated ((textMembers fields).map memberChars)
        (startsItem_memberChars (f.1, .str f.2))
      refine ⟨ms, ?_, hout⟩
      rw [← hms]
      exact items_eq_moreItems (.inr rfl) hfirst _ _
  obtain ⟨ms, hms, hout⟩ := hitems
  refine ⟨ms, ?_, hout⟩
  rw [outline?, hsize, encode_obj, skipBlank_of_not_isBlank hblank]
  simp only [if_true, hms, Option.map_some, bind, Option.bind_some]
  rfl

end SignedToken.Json
