import SignedToken.Proofs.Token.Legibility

/-!
# What a message says

What a token signs says all of its header and its claims: no two tokens without floats that differ
in any of it sign the same message. That does not rest on the message being read back, and holds at
any depth.
-/

namespace SignedToken

/-! ## Segments -/

theorem Json.eq_of_segment {v w : Json} (hv : v.isFloatFree = true) (hw : w.isFloatFree = true)
    (h : v.segment = w.segment) : v = w := by
  have hbytes := decodeSegment_segment v
  rw [h, decodeSegment_segment] at hbytes
  exact (Json.eq_of_encode_chars hw hv (Except.ok.inj hbytes)).symm

theorem Header.eq_of_segment {h h' : Header} (heq : h.toJson.segment = h'.toJson.segment) :
    h = h' := by
  have hbytes := decodeSegment_segment h.toJson
  rw [heq, decodeSegment_segment] at hbytes
  have hread := h.read?_toJson
  rw [← Except.ok.inj hbytes, h'.read?_toJson] at hread
  exact (Option.some.inj hread).symm

theorem Claims.eq_of_toJson {c c' : Claims} (h : c.toJson = c'.toJson) : c = c' := by
  obtain ⟨body, standard⟩ := c
  obtain ⟨body', standard'⟩ := c'
  have hmembers : ("body", body.toJson) :: standard.members
      = ("body", body'.toJson) :: standard'.members := Json.obj.inj h
  have hbody : body.toJson = body'.toJson :=
    congrArg Prod.snd (List.head_eq_of_cons_eq hmembers)
  have hspelled := standard.spelledBy_members body.toJson
  rw [hmembers] at hspelled
  rw [Claims.mk.injEq]
  exact ⟨Json.Object.eq_of_members (Json.obj.inj hbody),
    hspelled.unique (standard'.spelledBy_members body'.toJson)⟩

theorem Claims.eq_of_segment {c c' : Claims} (hc : c.body.toJson.isFloatFree = true)
    (hc' : c'.body.toJson.isFloatFree = true) (h : c.toJson.segment = c'.toJson.segment) :
    c = c' := by
  rw [← Claims.isFloatFree_toJson] at hc hc'
  exact Claims.eq_of_toJson (Json.eq_of_segment hc hc' h)

/-- A message is cut in one way only. -/
theorem Compact.messageOf_inj {header header' payload payload' : List Char} (hdot : '.' ∉ payload)
    (hdot' : '.' ∉ payload') (h : messageOf header payload = messageOf header' payload') :
    header = header' ∧ payload = payload' := by
  have hcut : splitLastDot? (messageOf header payload) = some (header, payload) :=
    splitLastDot?_eq_some_iff.2 ⟨rfl, hdot⟩
  have hcut' : splitLastDot? (messageOf header payload) = some (header', payload') :=
    splitLastDot?_eq_some_iff.2 ⟨h, hdot'⟩
  exact Prod.mk.inj (Option.some.inj (hcut.symm.trans hcut'))

/-! ## Messages -/

namespace Token

theorem message_eq_iff {t t' : Token} (hfree : t.claims.body.toJson.isFloatFree = true)
    (hfree' : t'.claims.body.toJson.isFloatFree = true) :
    t.message = t'.message ↔ t.algorithm = t'.algorithm ∧ t.claims = t'.claims := by
  constructor
  · intro h
    obtain ⟨hheader, hpayload⟩ :=
      Compact.messageOf_inj (dot_not_mem_segment _) (dot_not_mem_segment _) h
    have halgorithm := congrArg Header.algorithm (Header.eq_of_segment hheader)
    exact ⟨halgorithm, Claims.eq_of_segment hfree hfree' hpayload⟩
  · rintro ⟨halgorithm, hclaims⟩
    rw [message, message, halgorithm, hclaims]

/-- Two tokens of the HMAC family without floats, whose payloads may nest as deep as they like, sign
the same message just if they agree in their algorithm and in all of their claims. -/
theorem signed_message_eq_iff {t t' : Token}
    (halgorithm : t.algorithm ∈ [Algorithm.hs256, .hs384, .hs512])
    (halgorithm' : t'.algorithm ∈ [Algorithm.hs256, .hs384, .hs512])
    (hfree : t.claims.body.toJson.isFloatFree = true)
    (hfree' : t'.claims.body.toJson.isFloatFree = true) :
    ∃ message signature message' signature' : List Char,
      IsSignature t.key t.algorithm message signature ∧ '.' ∉ signature
        ∧ t.create = .ok (String.ofList (message ++ '.' :: signature))
        ∧ IsSignature t'.key t'.algorithm message' signature' ∧ '.' ∉ signature'
        ∧ t'.create = .ok (String.ofList (message' ++ '.' :: signature'))
        ∧ (message = message' ↔ t.algorithm = t'.algorithm ∧ t.claims = t'.claims) := by
  obtain ⟨signature, hsigned⟩ := exists_isSignature halgorithm t.key t.message
  obtain ⟨signature', hsigned'⟩ := exists_isSignature halgorithm' t'.key t'.message
  exact ⟨t.message, signature, t'.message, signature',
    hsigned, hsigned.dot_not_mem, create_eq_ok_iff.2 ⟨signature, hsigned, rfl⟩,
    hsigned', hsigned'.dot_not_mem, create_eq_ok_iff.2 ⟨signature', hsigned', rfl⟩,
    message_eq_iff hfree hfree'⟩

theorem isFloatFree_nestedArrays (n : Nat) : (nestedArrays n).isFloatFree = true := by
  induction n with
  | zero => rfl
  | succ n ih => simp [nestedArrays, Json.isFloatFree, Json.areItemsFloatFree, ih]

theorem isFloatFree_nested (n : Nat) : (nested n).claims.body.toJson.isFloatFree = true := by
  change ((nestedArrays n).isFloatFree && true) = true
  rw [isFloatFree_nestedArrays, Bool.and_true]

/-- Two payloads that nobody can read any more, of which one nests a level deeper. -/
theorem signed_message_eq_iff_nested :
    ∃ message signature message' signature' : List Char,
      (nested 200).create = .ok (String.ofList (message ++ '.' :: signature))
        ∧ (nested 201).create = .ok (String.ofList (message' ++ '.' :: signature'))
        ∧ message ≠ message' := by
  have halgorithm (n : Nat) : (nested n).algorithm ∈ [Algorithm.hs256, .hs384, .hs512] :=
    List.mem_cons_self
  obtain ⟨message, signature, message', signature', -, -, hcreate, -, -, hcreate', heq⟩ :=
    signed_message_eq_iff (halgorithm 200) (halgorithm 201) (isFloatFree_nested 200)
      (isFloatFree_nested 201)
  refine ⟨message, signature, message', signature', hcreate, hcreate', fun h => ?_⟩
  have hdepth := congrArg (fun c => c.body.toJson.depth) (heq.1 h).2
  change max (nestedArrays 200).depth 0 + 1 = max (nestedArrays 201).depth 0 + 1 at hdepth
  rw [depth_nestedArrays, depth_nestedArrays] at hdepth
  cases hdepth

end Token

end SignedToken
