import SignedToken.Proofs.Json.Outline
import SignedToken.Token.Header

/-!
# Reading headers

Both readers of headers get back what was written. What the strict one reads of an object the other
reads as well, but of an array they never both read a header.
-/

namespace SignedToken

theorem Algorithm.ofJson?_name (a : Algorithm) : ofJson? (.str a.name) = some a := by
  cases a <;> rfl

namespace Header

open Json (Outlines Outline textMembers)

def fields (h : Header) : List (String × String) :=
  ("alg", h.algorithm.name) ::
    match h.type with
    | some t => [("typ", t)]
    | none => []

theorem toJson_eq_textMembers (h : Header) : h.toJson = .obj (textMembers h.fields) := by
  obtain ⟨algorithm, type⟩ := h
  cases type with
  | none => rfl
  | some t => rfl

theorem algorithm_of_outlines {h : Header} {ms : List (String × List UInt8)}
    (hout : Outlines ms (textMembers h.fields)) (position : Nat) :
    (Outline.members ms).field? position "alg" none Algorithm.ofJson? = some h.algorithm := by
  rw [hout.field?]
  obtain ⟨algorithm, type⟩ := h
  cases type with
  | none => exact Algorithm.ofJson?_name algorithm
  | some t => exact Algorithm.ofJson?_name algorithm

theorem type_of_outlines {h : Header} {ms : List (String × List UInt8)}
    (hout : Outlines ms (textMembers h.fields)) (position : Nat) :
    (Outline.members ms).field? position "typ" (some none) optionalText? = some h.type := by
  rw [hout.field?]
  obtain ⟨algorithm, type⟩ := h
  cases type with
  | none => rfl
  | some t => rfl

/-- The other parameters are not there. -/
theorem wellFormed_of_outlines {h : Header} {ms : List (String × List UInt8)}
    (hout : Outlines ms (textMembers h.fields)) :
    ∀ p ∈ otherParameters, (Outline.members ms).field? p.1 p.2.1 (some ())
      (fun v => if p.2.2 v then some () else none) = some () := by
  obtain ⟨algorithm, type⟩ := h
  intro p hp
  rw [hout.field?]
  have hnone : (textMembers (fields ⟨algorithm, type⟩)).filter (·.1 == p.2.1) = [] := by
    simp only [otherParameters, List.mem_cons, List.not_mem_nil, or_false] at hp
    cases type with
    | none => rcases hp with rfl | rfl | rfl | rfl | rfl | rfl | rfl | rfl <;> rfl
    | some t => rcases hp with rfl | rfl | rfl | rfl | rfl | rfl | rfl | rfl <;> rfl
  rw [hnone]

theorem read?_toJson (h : Header) : read? (Utf8.encode h.toJson.chars) = some h := by
  obtain ⟨ms, hms, hout⟩ := Json.outline?_textMembers h.fields
  rw [read?, toJson_eq_textMembers, hms]
  simp only [bind, Option.bind_some, algorithm_of_outlines hout, type_of_outlines hout]
  rfl

theorem readStrictly?_toJson (h : Header) :
    readStrictly? (Utf8.encode h.toJson.chars) = some h := by
  obtain ⟨ms, hms, hout⟩ := Json.outline?_textMembers h.fields
  have hother : (otherParameters.all fun p => ((Outline.members ms).field? p.1 p.2.1 (some ())
      fun v => if p.2.2 v then some () else none).isSome) = true := by
    refine List.all_eq_true.2 fun p hp => ?_
    rw [wellFormed_of_outlines hout p hp]
    rfl
  rw [readStrictly?, toJson_eq_textMembers, hms]
  simp only [bind, Option.bind_some, if_true, algorithm_of_outlines hout, type_of_outlines hout]
  exact if_pos (Bool.and_eq_true_iff.2 ⟨hother, rfl⟩)

/-! ## One reader and the other -/

section
variable {text : List UInt8} {h : Header}

/-- In an object places do not count. -/
theorem read?_of_members {ms : List (String × List UInt8)}
    (ho : Json.outline? text = some (.members ms)) (hread : readStrictly? text = some h) :
    read? text = some h := by
  unfold readStrictly? at hread
  rw [ho, Option.bind_eq_bind, Option.bind_some] at hread
  obtain ⟨type, htype, hread⟩ := Option.bind_eq_some_iff.1 hread
  obtain ⟨algorithm, halgorithm, hread⟩ := Option.bind_eq_some_iff.1 hread
  have hheader : some ⟨algorithm, type⟩ = some h := (Option.ite_none_right_eq_some.1 hread).2
  rw [read?, ho]
  refine Option.bind_eq_some_iff.2 ⟨_, rfl, Option.bind_eq_some_iff.2 ⟨algorithm, halgorithm, ?_⟩⟩
  exact Option.bind_eq_some_iff.2 ⟨type, htype, hheader⟩

/-- An array that holds all ten parameters is too long for the other reader. -/
theorem read?_of_items {items : List (List UInt8)}
    (ho : Json.outline? text = some (.items items)) (hread : readStrictly? text = some h) :
    read? text = none := by
  unfold readStrictly? at hread
  rw [ho, Option.bind_eq_bind, Option.bind_some] at hread
  obtain ⟨type, -, hread⟩ := Option.bind_eq_some_iff.1 hread
  obtain ⟨algorithm, -, hread⟩ := Option.bind_eq_some_iff.1 hread
  have hother := (Bool.and_eq_true_iff.1 (Option.ite_none_right_eq_some.1 hread).1).1
  -- in an array nothing may be missing, so the parameter in the last place is there
  have hlast := List.all_eq_true.1 hother (9, "x5t#S256", isOptionalText)
    (by simp [otherParameters])
  have hlong : 9 < items.length := by
    refine Nat.lt_of_not_le fun hle => ?_
    dsimp only at hlast
    rw [Outline.field?, Outline.texts, List.getElem?_eq_none hle] at hlast
    cases hlast
  refine Option.eq_none_iff_forall_ne_some.2 fun g hg => ?_
  unfold read? at hg
  rw [ho, Option.bind_eq_bind, Option.bind_some] at hg
  obtain ⟨_, -, hg⟩ := Option.bind_eq_some_iff.1 hg
  obtain ⟨_, -, hg⟩ := Option.bind_eq_some_iff.1 hg
  have hshort : items.length ≤ 2 := of_decide_eq_true (Option.ite_none_right_eq_some.1 hg).1
  omega

end

end Header

end SignedToken
