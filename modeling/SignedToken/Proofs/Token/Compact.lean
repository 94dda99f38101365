import SignedToken.Proofs.Bytes.Base64Url
import SignedToken.Proofs.Text.Cut
import SignedToken.Token.Compact

/-!
# The segments of a text

A text is cut at its last two dots, and a segment is read just if it is what is written for the
bytes it stands for. A segment that is read holds no dot.
-/

namespace SignedToken

/-! ## Cutting -/

theorem splitLastDot?_eq_some_iff {cs before after : List Char} :
    splitLastDot? cs = some (before, after) ↔ cs = before ++ '.' :: after ∧ '.' ∉ after := by
  constructor
  · intro h
    simp only [splitLastDot?] at h
    split at h
    · cases h
    · rename_i hd
      cases h
      obtain ⟨-, hcs⟩ := Text.eq_of_dropWhile hd
      constructor
      · simpa using congrArg List.reverse hcs
      · simpa using Text.not_mem_takeWhile '.' cs.reverse
  · rintro ⟨rfl, hdot⟩
    have hdot : '.' ∉ after.reverse := by simpa using hdot
    simp only [splitLastDot?, List.reverse_append, List.reverse_cons, List.append_assoc,
      List.singleton_append, Text.dropWhile_cut hdot, Text.takeWhile_cut hdot, List.reverse_reverse]

theorem exists_splitLastDot? {cs : List Char} (h : '.' ∈ cs) :
    ∃ before after, splitLastDot? cs = some (before, after) := by
  obtain ⟨after, before, hcs, hdot⟩ := List.eq_append_cons_of_mem (List.mem_reverse.2 h)
  refine ⟨before.reverse, after.reverse, splitLastDot?_eq_some_iff.2 ⟨?_, by simpa using hdot⟩⟩
  rw [← List.reverse_reverse cs, hcs]
  simp

namespace Compact

theorem split?_eq_some_iff {text : String} {c : Compact} :
    split? text = some c ↔
      text.toList = c.message ++ '.' :: c.signature ∧ c.message = messageOf c.header c.payload
        ∧ '.' ∉ c.payload ∧ '.' ∉ c.signature := by
  simp only [split?, messageOf, bind, Option.bind_eq_some_iff, Prod.exists,
    splitLastDot?_eq_some_iff]
  constructor
  · rintro ⟨message, signature, ⟨ht, hs⟩, header, payload, ⟨hm, hp⟩, hc⟩
    cases hc
    exact ⟨ht, hm, hp, hs⟩
  · rintro ⟨ht, hm, hp, hs⟩
    exact ⟨c.message, c.signature, ⟨ht, hs⟩, c.header, c.payload, ⟨hm, hp⟩, rfl⟩

theorem split?_ofList {header payload signature : List Char} (hpayload : '.' ∉ payload)
    (hsignature : '.' ∉ signature) :
    split? (String.ofList (messageOf header payload ++ '.' :: signature))
      = some ⟨messageOf header payload, header, payload, signature⟩ :=
  split?_eq_some_iff.2 ⟨String.toList_ofList, rfl, hpayload, hsignature⟩

/-- Two dots are all that it takes to cut a text. -/
theorem exists_split? {text : String} (h : 2 ≤ text.toList.count '.') :
    ∃ c, split? text = some c := by
  have hdot : '.' ∈ text.toList := List.count_pos_iff.1 (by omega)
  obtain ⟨message, signature, hmessage⟩ := exists_splitLastDot? hdot
  obtain ⟨htext, hclean⟩ := splitLastDot?_eq_some_iff.1 hmessage
  have hmore : '.' ∈ message := by
    rw [htext, List.count_append, List.count_cons_self, List.count_eq_zero.2 hclean] at h
    exact List.count_pos_iff.1 (by omega)
  obtain ⟨header, payload, hcut⟩ := exists_splitLastDot? hmore
  exact ⟨⟨message, header, payload, signature⟩, by simp [split?, hmessage, hcut]⟩

/-- A text is cut in one way only. -/
theorem eq_of_split? {text : String} {c : Compact} {header payload signature : List Char}
    (hc : split? text = some c) (htext : text.toList = header ++ '.' :: payload ++ '.' :: signature)
    (hpayload : '.' ∉ payload) (hsignature : '.' ∉ signature) :
    c = ⟨messageOf header payload, header, payload, signature⟩ :=
  Option.some.inj (hc.symm.trans (split?_eq_some_iff.2 ⟨htext, rfl, hpayload, hsignature⟩))

end Compact

/-! ## Coding -/

theorem decodeSegment_eq_ok_iff {segment : List Char} {bytes : List UInt8} :
    decodeSegment segment = .ok bytes ↔ segment = Base64Url.encode bytes := by
  rw [decodeSegment, Base64Url.decode_eq_ok_iff, Base64Url.written]
  exact ⟨Utf8.encode_injective, congrArg Utf8.encode⟩

theorem decodeSegment_encode (bytes : List UInt8) :
    decodeSegment (Base64Url.encode bytes) = .ok bytes :=
  decodeSegment_eq_ok_iff.2 rfl

theorem decodeSegment_segment (v : Json) :
    decodeSegment v.segment = .ok (Utf8.encode v.chars) :=
  decodeSegment_encode _

theorem dot_not_mem_segment (v : Json) : '.' ∉ v.segment := Base64Url.dot_not_mem_encode _

/-- The segment of a text that is spelled in any way. -/
def segmentOf (text : String) : List Char := Base64Url.encode (Utf8.bytes text)

theorem decodeSegment_segmentOf (text : String) :
    decodeSegment (segmentOf text) = .ok (Utf8.bytes text) :=
  decodeSegment_encode _

theorem dot_not_mem_segmentOf (text : String) : '.' ∉ segmentOf text :=
  Base64Url.dot_not_mem_encode _

theorem dot_not_mem_of_decodeSegment {segment : List Char} {bytes : List UInt8}
    (h : decodeSegment segment = .ok bytes) : '.' ∉ segment := by
  rw [decodeSegment_eq_ok_iff.1 h]
  exact Base64Url.dot_not_mem_encode bytes

end SignedToken
