import SignedToken.Proofs.Authentication.Credential
import SignedToken.Proofs.Token.RoundTrip

/-!
# Presented tokens

Whatever is signed, and whatever some verifier accepts, is three segments of Base64. Presented as a
bearer credential, such a text is taken as it is.
-/

namespace SignedToken

/-! ## Coded texts -/

/-- Three segments, each written for some bytes. -/
def Compact.IsCoded (text : String) : Prop :=
  ∃ header payload signature : List UInt8,
    text.toList = Base64Url.encode header ++ '.' :: Base64Url.encode payload
      ++ '.' :: Base64Url.encode signature

namespace Compact.IsCoded

variable {text : String}

theorem forall_mem (h : IsCoded text) {p : Char → Prop} (hdot : p '.')
    (hsegment : ∀ bs, ∀ c ∈ Base64Url.encode bs, p c) : ∀ c ∈ text.toList, p c := by
  obtain ⟨header, payload, signature, htext⟩ := h
  rw [htext]
  simp only [List.forall_mem_append, List.forall_mem_cons]
  exact ⟨⟨hsegment header, hdot, hsegment payload⟩, hdot, hsegment signature⟩

theorem isVisible (h : IsCoded text) : ∀ c ∈ text.toList, Text.IsVisible c :=
  h.forall_mem (by constructor <;> decide) fun _ _ hc => (Base64Url.visible_of_mem_encode hc).1

theorem isSymbol (h : IsCoded text) : ∀ c ∈ text.toList, c = '.' ∨ Base64Url.IsSymbol c :=
  h.forall_mem (.inl rfl) fun _ _ hc => .inr (Base64Url.isSymbol_of_mem_encode hc)

theorem count_dot (h : IsCoded text) : text.toList.count '.' = 2 := by
  obtain ⟨header, payload, signature, htext⟩ := h
  have hcount (bs : List UInt8) : (Base64Url.encode bs).count '.' = 0 :=
    List.count_eq_zero.2 (Base64Url.dot_not_mem_encode bs)
  rw [htext]
  simp only [List.count_append, List.count_cons_self, hcount]

theorem token?_bearer (h : IsCoded text) :
    Bearer.token? (Utf8.bytes ("Bearer " ++ text)) = some text :=
  (Bearer.isCredential_plain h.isVisible h.count_dot).token?_eq

end Compact.IsCoded

/-! ## Signed and accepted texts -/

namespace Token

theorem isCoded_of_create {t : Token} {signed : String} (h : t.create = .ok signed) :
    Compact.IsCoded signed := by
  obtain ⟨signature, ⟨size, -, rfl⟩, rfl⟩ := create_eq_ok_iff.1 h
  exact ⟨_, _, _, String.toList_ofList⟩

theorem isCoded_of_parse {t : Token} {now : Instant} {text : String} {p : ParsedToken}
    (h : t.parse now text = .ok p) : Compact.IsCoded text := by
  obtain ⟨hp, -⟩ := parse_eq_ok_iff_recognize.1 h
  rw [recognize_eq_ok_iff, Compact.split?_eq_some_iff_exists] at hp
  obtain ⟨header, payload, signature, htext, -, -, ⟨⟨headerBytes, hheader, -⟩, size, -, hsigned⟩,
    haccept, -⟩ := hp
  obtain ⟨_, _, ⟨payloadBytes, hpayload, -⟩, -⟩ := acceptPayload_and_ofJson?_iff.1 haccept
  dsimp only at hheader hpayload
  obtain ⟨mac, hmac⟩ : ∃ mac, signature = Base64Url.encode mac := ⟨_, hsigned⟩
  refine ⟨headerBytes, payloadBytes, mac, ?_⟩
  rw [htext, hmac, ← decodeSegment_eq_ok_iff.1 hheader, ← decodeSegment_eq_ok_iff.1 hpayload]
  rfl

end Token

theorem Bearer.token?_bearer_of_create {t : Token} {signed : String} (h : t.create = .ok signed) :
    token? (Utf8.bytes ("Bearer " ++ signed)) = some signed :=
  (Token.isCoded_of_create h).token?_bearer

end SignedToken
