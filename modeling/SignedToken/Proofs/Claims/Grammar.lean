import SignedToken.Proofs.Claims.Reading
import SignedToken.Token.Error

/-!
# Which values are claims

A value spells claims just if it is an object in which each field of claims, if it is there at all,
has a value of its kind. Otherwise the first field with another value is reported, whatever else
there is in the object.
-/

namespace SignedToken

open Json (Object last?)

namespace Claims

/-- Nothing is packed in the entries of the payload of an object. -/
def PayloadUnpacked (o : Object) : Prop :=
  ∀ entries, o.get? "body" = some (.obj entries) → Json.areMembersUnpacked entries = true

/-! ## Fields -/

inductive Field where
  | payload
  | text
  | time

namespace Field

/-- What may stand for a field that is there. -/
def Admits : Field → Json → Prop
  | .payload, v => v = .null ∨ ∃ members, v = .obj members
  | .text, v => ∃ s, v = .str s
  | .time, v => ∃ n : Int64, v = .ofInt64 n

/-- What is said of a value that may not stand there. -/
def complaint : Field → Json → Json.Mismatch
  | .payload, v => .type v .map
  | .text, v => .type v .text
  | .time, .int n => .range n .signed64
  | .time, v => .type v .signed64

end Field

/-- The fields of claims in the order in which they are looked at. -/
def fields : List (String × Field) :=
  [("body", .payload), ("aud", .text), ("exp", .time), ("iat", .time), ("iss", .text),
    ("jti", .text), ("nbf", .time), ("sub", .text)]

/-- The field is missing or has a value that may stand there. -/
def Suits (o : Object) (field : String × Field) : Prop :=
  ∀ value, o.get? field.1 = some value → field.2.Admits value

/-- The first field that is there with a value that may not stand there. -/
structure FirstOffence (o : Object) (name : String) (field : Field) (value : Json) : Prop where
  isFirst : ∃ before after, fields = before ++ (name, field) :: after
    ∧ ∀ other ∈ before, Suits o other
  get?_eq : o.get? name = some value
  not_admits : ¬field.Admits value

/-! ## Single fields -/

section
variable {o : Object} {m : Json.Mismatch}

theorem bodyClaim_eq_error_iff (h : PayloadUnpacked o) :
    bodyClaim o = .error m ↔ ∃ value, o.get? "body" = some value
      ∧ ¬Field.payload.Admits value ∧ Field.payload.complaint value = m := by
  rw [bodyClaim]
  cases hvalue : o.get? "body" with
  | none => simp
  | some v =>
    cases v with
    | obj entries =>
      -- the entries are taken as they are
      dsimp only
      rw [Json.asMembers?_of_areMembersUnpacked entries (h entries hvalue)]
      simp [Except.map, Field.Admits]
    | _ => simp [Field.Admits, Field.complaint]

theorem textClaim_eq_error_iff {name : String} :
    textClaim o name = .error m ↔ ∃ value, o.get? name = some value
      ∧ ¬Field.text.Admits value ∧ Field.text.complaint value = m := by
  rw [textClaim]
  cases o.get? name with
  | none => simp
  | some v => cases v <;> simp [Json.asText?, Field.Admits, Field.complaint]

theorem asInt64?_eq_error_iff {v : Json} :
    v.asInt64? = .error m ↔ ¬Field.time.Admits v ∧ Field.time.complaint v = m := by
  have hadmits : Field.time.Admits v ↔ ∃ n, v.asInt64? = .ok n := by
    simp only [Field.Admits, Json.asInt64?_eq_ok_iff]
  rw [hadmits]
  cases v with
  | int n =>
    simp only [Json.asInt64?, Field.complaint]
    split <;> simp
  | _ => simp [Json.asInt64?, Field.complaint]

theorem timeClaim_eq_error_iff {name : String} :
    timeClaim o name = .error m ↔ ∃ value, o.get? name = some value
      ∧ ¬Field.time.Admits value ∧ Field.time.complaint value = m := by
  rw [timeClaim]
  cases o.get? name with
  | none => simp
  | some v => simp [asInt64?_eq_error_iff]

end

/-! ## Whole objects -/

/-- One step of reading, without what is read. -/
def check (o : Object) : String × Field → Except Json.Mismatch Unit
  | (_, .payload) => (fun _ => ()) <$> bodyClaim o
  | (name, .text) => (fun _ => ()) <$> textClaim o name
  | (name, .time) => (fun _ => ()) <$> timeClaim o name

theorem map_ofObject? (o : Object) :
    (fun _ => ()) <$> ofObject? o = forM fields (check o) := by
  simp [ofObject?, standardOfObject?, fields, check]

section
variable {o : Object} (hunpacked : PayloadUnpacked o) {field : String × Field}
include hunpacked

theorem check_eq_error_iff (h : field ∈ fields) {m : Json.Mismatch} :
    check o field = .error m ↔ ∃ value, o.get? field.1 = some value
      ∧ ¬field.2.Admits value ∧ field.2.complaint value = m := by
  simp only [fields, List.mem_cons, List.not_mem_nil, or_false] at h
  rcases h with rfl | rfl | rfl | rfl | rfl | rfl | rfl | rfl
  · exact Outcome.map_eq_error.trans (bodyClaim_eq_error_iff hunpacked)
  · exact Outcome.map_eq_error.trans textClaim_eq_error_iff
  · exact Outcome.map_eq_error.trans timeClaim_eq_error_iff
  · exact Outcome.map_eq_error.trans timeClaim_eq_error_iff
  · exact Outcome.map_eq_error.trans textClaim_eq_error_iff
  · exact Outcome.map_eq_error.trans textClaim_eq_error_iff
  · exact Outcome.map_eq_error.trans timeClaim_eq_error_iff
  · exact Outcome.map_eq_error.trans textClaim_eq_error_iff

theorem check_eq_ok_iff (h : field ∈ fields) : check o field = .ok () ↔ Suits o field := by
  cases hcheck : check o field with
  | ok _ =>
    refine iff_of_true rfl fun value hvalue => Classical.byContradiction fun hadmits => ?_
    rw [(check_eq_error_iff hunpacked h).2 ⟨value, hvalue, hadmits, rfl⟩] at hcheck
    cases hcheck
  | error m =>
    obtain ⟨value, hvalue, hadmits, -⟩ := (check_eq_error_iff hunpacked h).1 hcheck
    exact iff_of_false (fun h => by cases h) fun hsuits => hadmits (hsuits value hvalue)

theorem exists_ofObject?_iff :
    (∃ c, ofObject? o = .ok c) ↔ ∀ field ∈ fields, Suits o field := by
  have hok : (∃ c, ofObject? o = .ok c) ↔ forM fields (check o) = .ok () := by
    rw [← map_ofObject?]
    exact ⟨fun ⟨c, hc⟩ => Outcome.map_eq_ok.2 ⟨c, hc, rfl⟩,
      fun h => (Outcome.map_eq_ok.1 h).imp fun _ h => h.1⟩
  rw [hok, Outcome.forM_eq_ok]
  exact forall₂_congr fun _ hfield => check_eq_ok_iff hunpacked hfield

theorem ofObject?_eq_error_iff {m : Json.Mismatch} :
    ofObject? o = .error m ↔
      ∃ name field value, FirstOffence o name field value ∧ field.complaint value = m := by
  have herror : ofObject? o = .error m ↔ forM fields (check o) = .error m := by
    rw [← map_ofObject?]
    exact Outcome.map_eq_error.symm
  rw [herror, Outcome.forM_eq_error]
  constructor
  · rintro ⟨before, ⟨name, field⟩, after, hfields, hbefore, hcheck⟩
    have hmem {other : String × Field} (h : other ∈ before ++ [(name, field)]) :
        other ∈ fields := by
      rw [hfields]
      exact List.mem_append.2 (by grind)
    obtain ⟨value, hvalue, hadmits, rfl⟩ := (check_eq_error_iff hunpacked (hmem (by simp))).1 hcheck
    refine ⟨name, field, value, ⟨⟨before, after, hfields, fun other hother => ?_⟩, hvalue, hadmits⟩,
      rfl⟩
    exact (check_eq_ok_iff hunpacked (hmem (by simp [hother]))).1 (hbefore other hother)
  · rintro ⟨name, field, value, ⟨⟨before, after, hfields, hbefore⟩, hvalue, hadmits⟩, rfl⟩
    refine ⟨before, (name, field), after, hfields, fun other hother => ?_, ?_⟩
    · exact (check_eq_ok_iff hunpacked (by simp [hfields, hother])).2 (hbefore other hother)
    · exact (check_eq_error_iff hunpacked (by simp [hfields])).2 ⟨value, hvalue, hadmits, rfl⟩

end

/-! ## Values -/

theorem ofJson?_obj (members : List (String × Json)) :
    ofJson? (.obj members) = (ofObject? (.ofMembers members)).mapError .mismatch := by
  rw [ofJson?]
  cases ofObject? (.ofMembers members) with
  | ok c => rfl
  | error m => rfl

/-- Unless something is packed in its payload, a value spells claims just if it is an object whose
payload is missing, null or an object, whose times are missing or whole numbers of 64 bits and whose
texts are missing or texts. Any other value is refused as invalid claims: for being no object, or
for the first field that is something else, in the order of the fields. -/
theorem ofJson?_grammar {v : Json}
    (hunpacked : ∀ members, v = .obj members → PayloadUnpacked (.ofMembers members)) :
    ((∃ c, ofJson? v = .ok c) ↔
        ∃ members, v = .obj members ∧ ∀ field ∈ fields, Suits (.ofMembers members) field)
      ∧ ((∀ members, v ≠ .obj members) →
        (ofJson? v).mapError (fun fault => TokenError.claimsInvalid fault.message)
          = .error (.claimsInvalid "claims payload is not a JSON object"))
      ∧ ∀ members e, v = .obj members →
        ((ofJson? v).mapError (fun fault => TokenError.claimsInvalid fault.message) = .error e ↔
          ∃ name field value, FirstOffence (.ofMembers members) name field value
            ∧ e = .claimsInvalid (field.complaint value).message) := by
  refine ⟨⟨?_, ?_⟩, fun hobject => ?_, ?_⟩
  · rintro ⟨c, hc⟩
    obtain ⟨members, rfl⟩ := exists_obj_of_ofJson? hc
    rw [ofJson?_obj, Outcome.mapError_eq_ok] at hc
    exact ⟨members, rfl, (exists_ofObject?_iff (hunpacked members rfl)).1 ⟨c, hc⟩⟩
  · rintro ⟨members, rfl, hsuits⟩
    obtain ⟨c, hc⟩ := (exists_ofObject?_iff (hunpacked members rfl)).2 hsuits
    exact ⟨c, by rw [ofJson?_obj, Outcome.mapError_eq_ok, hc]⟩
  · cases v with
    | obj members => exact absurd rfl (hobject members)
    | _ => rfl
  · rintro members e rfl
    simp only [ofJson?_obj, Outcome.mapError_eq_error,
      ofObject?_eq_error_iff (hunpacked members rfl)]
    constructor
    · rintro ⟨_, ⟨_, ⟨name, field, value, hoffence, rfl⟩, rfl⟩, rfl⟩
      exact ⟨name, field, value, hoffence, rfl⟩
    · rintro ⟨name, field, value, hoffence, rfl⟩
      exact ⟨_, ⟨_, ⟨name, field, value, hoffence, rfl⟩, rfl⟩, rfl⟩

/-- An object with a stray name, a subject that is null and an expiry that needs an unsigned number.
The expiry comes first. -/
def unfit : List (String × Json) :=
  [("sub", .null), ("a", .arr []), ("exp", .int ⟨9223372036854775808, by decide, by decide⟩)]

theorem ofJson?_grammar_unfit :
    (ofJson? (.obj unfit)).mapError (fun fault => TokenError.claimsInvalid fault.message)
        = .error (.claimsInvalid "invalid value: integer `9223372036854775808`, expected i64")
      ∧ (ofJson? (.arr [])).mapError (fun fault => TokenError.claimsInvalid fault.message)
        = .error (.claimsInvalid "claims payload is not a JSON object") := by
  have hexp : (Object.ofMembers unfit).get? "exp"
      = some (.int ⟨9223372036854775808, by decide, by decide⟩) := by
    simp [Object.get?_ofMembers, unfit, Json.last?, Json.canonical]
  have hoffence : FirstOffence (.ofMembers unfit) "exp" .time
      (.int ⟨9223372036854775808, by decide, by decide⟩) := by
    refine ⟨⟨[("body", .payload), ("aud", .text)], _, rfl, ?_⟩, hexp, ?_⟩
    · simp [Suits, Object.get?_ofMembers, unfit, Json.last?]
    · rintro ⟨n, hn⟩
      have hlt := Int64.toInt_lt n
      simp only [Json.ofInt64, Json.int.injEq, Json.Integer.mk.injEq] at hn
      omega
  have hunpacked : ∀ members, Json.obj unfit = .obj members →
      PayloadUnpacked (.ofMembers members) := by
    intro members hmembers entries hentries
    cases hmembers
    simp [Object.get?_ofMembers, unfit, Json.last?] at hentries
  exact ⟨((ofJson?_grammar hunpacked).2.2 unfit _ rfl).2 ⟨_, _, _, hoffence, by decide +kernel⟩,
    (ofJson?_grammar (v := .arr []) (by simp)).2.1 (by simp)⟩

/-- The members of an object whose payload has an entry that is packed, but not as a text. -/
def mispacked : List (String × Json) :=
  [("body", .obj [("a", .obj [(Json.packedName, .ofInt64 1)])])]

/-- The payload is an object, and there is no other field, but it does not spell claims. -/
theorem mispacked_refused :
    (∀ field ∈ fields, Suits (.ofMembers mispacked) field)
      ∧ (ofJson? (.obj mispacked)).mapError (fun fault => TokenError.claimsInvalid fault.message)
        = .error (.claimsInvalid "invalid type: integer `1`, expected raw value") := by
  have hget (name : String) : (Object.ofMembers mispacked).get? name
      = if "body" = name then some (.obj [("a", .obj [(Json.packedName, .ofInt64 1)])])
        else none := by
    rw [Object.get?_ofMembers, mispacked, last?, last?, Option.none_or]
    split <;> rfl
  have hbody : bodyClaim (.ofMembers mispacked) = .error (.type (.ofInt64 1) .packed) := by
    rw [bodyClaim, hget, if_pos rfl]
    rfl
  have hread : ofJson? (.obj mispacked) = .error (.mismatch (.type (.ofInt64 1) .packed)) := by
    rw [ofJson?, ofObject?, hbody]
    rfl
  have hmessage : (ClaimsFault.mismatch (.type (.ofInt64 1) .packed)).message
      = "invalid type: integer `1`, expected raw value" := by decide +kernel
  refine ⟨?_, ?_⟩
  · simp [fields, Suits, hget, Field.Admits]
  · rw [hread, ← hmessage]
    rfl

end Claims

end SignedToken
