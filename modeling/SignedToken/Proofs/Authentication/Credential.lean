import SignedToken.Authentication.Context
import SignedToken.Proofs.Bytes.Utf8
import SignedToken.Proofs.Text.Blank
import SignedToken.Proofs.Text.Case
import SignedToken.Proofs.Text.Cut

/-!
# The grammar of bearer credentials

A value is a credential if it can be cut into the scheme and a token with padding around them, and
then it can be cut in one way only. A token that was taken from one credential is taken from a
plain one, too.
-/

namespace SignedToken

/-! ## Printable values -/

/-- The characters of a value that has a text: visible ones, spaces and tabs. -/
def Text.IsPrintable (c : Char) : Prop := c = '\t' ∨ 0x20 ≤ c.toNat ∧ c.toNat ≤ 0x7E

namespace Text.IsPrintable

variable {c : Char}

theorem of_isVisible (h : IsVisible c) : IsPrintable c := .inr ⟨Nat.le_of_succ_le h.1, h.2⟩

theorem lt (h : IsPrintable c) : c.toNat < 0x80 := by
  rcases h with rfl | h
  · decide
  · omega

/-- Of the printable characters, only space and tab are blanks. -/
theorem isBlank_iff (h : IsPrintable c) : isBlank c = true ↔ c = ' ' ∨ c = '\t' := by
  constructor
  · intro hblank
    rcases h with rfl | h
    · exact .inr rfl
    · left
      simp only [isBlank, Bool.or_eq_true, Bool.and_eq_true, decide_eq_true_eq, beq_iff_eq]
        at hblank
      have hc : c.toNat = ' '.toNat := by
        show c.toNat = 0x20
        omega
      exact Char.toNat_inj.1 hc
  · rintro (rfl | rfl) <;> rfl

theorem isVisible_of_not_isBlank (h : IsPrintable c) (hblank : isBlank c = false) :
    IsVisible c := by
  rcases h with rfl | h
  · cases hblank
  · have hspace : c.toNat ≠ ' '.toNat := by
      intro hc
      rw [Char.toNat_inj.1 hc] at hblank
      cases hblank
    change c.toNat ≠ 0x20 at hspace
    exact ⟨by omega, h.2⟩

end Text.IsPrintable

namespace Http

def IsPrintable (b : UInt8) : Prop := b = 0x09 ∨ 0x20 ≤ b ∧ b ≤ 0x7E

theorem isPrintable_ofNat_iff {c : Char} (h : c.toNat < 0x80) :
    IsPrintable (.ofNat c.toNat) ↔ Text.IsPrintable c := by
  have hc := Utf8.toNat_ofNat (n := c.toNat) (by omega)
  have htab : c = '\t' ↔ c.toNat = 9 := Char.toNat_inj.symm
  rw [IsPrintable, Text.IsPrintable, htab, ← UInt8.toNat_inj, UInt8.le_iff_toNat_le,
    UInt8.le_iff_toNat_le, hc]
  rfl

/-- The bytes of a text are printable just if its characters are. -/
theorem isPrintable_encode_iff {cs : List Char} :
    (∀ b ∈ Utf8.encode cs, IsPrintable b) ↔ ∀ c ∈ cs, Text.IsPrintable c := by
  rw [Utf8.encode, List.forall_mem_flatMap]
  refine forall₂_congr fun c _ => ?_
  by_cases hc : c.toNat < 0x80
  · rw [Utf8.encodeChar_of_ascii hc, List.forall_mem_singleton, isPrintable_ofNat_iff hc]
  · -- a character outside ASCII has bytes, and none of them is printable
    refine iff_of_false (fun h => ?_) fun h => hc h.lt
    obtain ⟨b, hb⟩ : ∃ b, b ∈ Utf8.encodeChar c := by
      rcases Utf8.encodeChar_cases c with ⟨-, he⟩ | ⟨-, -, he⟩ | ⟨-, -, he⟩ | ⟨-, -, he⟩ <;>
        exact ⟨_, he ▸ List.mem_cons_self⟩
    have hle := UInt8.le_iff_toNat_le.1 (Utf8.le_of_mem_encodeChar (Nat.le_of_not_lt hc) hb)
    rcases h b hb with rfl | ⟨-, hg⟩
    · exact absurd hle (by decide)
    · have hg := UInt8.le_iff_toNat_le.1 hg
      exact absurd (Nat.le_trans hle hg) (by decide)

theorem toNat_char_ofNat : ∀ n < 0x80, (Char.ofNat n).toNat = n := by decide

/-- A printable value is the bytes of its text. -/
theorem eq_encode_of_isPrintable {bs : List UInt8} (h : ∀ b ∈ bs, IsPrintable b) :
    bs = Utf8.encode (bs.map fun b => Char.ofNat b.toNat) := by
  have hchar (b : UInt8) (hb : b ∈ bs) : (Char.ofNat b.toNat).toNat = b.toNat ∧ b.toNat < 0x80 := by
    have hlt : b.toNat < 0x80 := by
      rcases h b hb with rfl | ⟨-, hg⟩
      · decide
      · exact Nat.lt_of_le_of_lt (UInt8.le_iff_toNat_le.1 hg) (by decide)
    exact ⟨toNat_char_ofNat _ hlt, hlt⟩
  rw [Utf8.encode_of_ascii, List.map_map]
  · refine (List.map_id bs).symm.trans (List.map_congr_left fun b hb => ?_)
    rw [Function.comp_apply, (hchar b hb).1, UInt8.ofNat_toNat, id_eq]
  · intro c hc
    obtain ⟨b, hb, rfl⟩ := List.mem_map.1 hc
    rw [(hchar b hb).1]
    exact (hchar b hb).2

theorem visibleText?_eq_some_iff {bs : List UInt8} {cs : List Char} :
    visibleText? bs = some cs ↔ (∀ b ∈ bs, IsPrintable b) ∧ bs = Utf8.encode cs := by
  have hall : (bs.all fun b => b == 0x09 || (0x20 ≤ b && b ≤ 0x7E)) = true
      ↔ ∀ b ∈ bs, IsPrintable b := by
    simp [IsPrintable]
  unfold visibleText?
  split
  · rename_i h
    have htext := eq_encode_of_isPrintable (hall.1 h)
    rw [Option.some.injEq, and_iff_right (hall.1 h)]
    constructor
    · rintro rfl
      exact htext
    · intro hbs
      exact Utf8.encode_injective (htext.symm.trans hbs)
  · rename_i h
    exact iff_of_false (fun hnone => by cases hnone) fun hprintable => h (hall.2 hprintable.1)

end Http

/-! ## Credentials -/

namespace Bearer

open Text

/-- Spaces and tabs. -/
def IsPadding (cs : List Char) : Prop := ∀ c ∈ cs, c = ' ' ∨ c = '\t'

/-- A printable value that consists of the scheme in any letter case, a space and a token, with
padding in front, in between and behind. A token is one word with just two dots. -/
structure IsCredential (value : List UInt8) (token : String) : Prop where
  printable : ∀ b ∈ value, Http.IsPrintable b
  parts : ∃ before scheme between after : List Char,
    IsPadding before ∧ IsPadding between ∧ IsPadding after ∧ lowerChars scheme = "bearer".toList
      ∧ value = Utf8.encode (before ++ (scheme ++ ' ' :: (between ++ token.toList)) ++ after)
  word : ∀ c ∈ token.toList, isBlank c = false
  dots : token.toList.count '.' = 2

theorem IsPadding.allBlank {cs : List Char} (h : IsPadding cs) : AllBlank cs := by
  intro c hc
  rcases h c hc with rfl | rfl <;> rfl

theorem isPadding_of_allBlank {cs : List Char} (hprintable : ∀ c ∈ cs, IsPrintable c)
    (h : AllBlank cs) : IsPadding cs :=
  fun c hc => (hprintable c hc).isBlank_iff.1 (h c hc)

theorem isBlank_of_isAsciiBlank {c : Char} (h : isAsciiBlank c = true) : isBlank c = true := by
  simp only [isAsciiBlank, Bool.or_eq_true, beq_iff_eq] at h
  rcases h with (((rfl | rfl) | rfl) | rfl) | rfl <;> rfl

/-- Among printable characters it does not matter which blanks a token must not hold. -/
theorem isAsciiBlank_eq {c : Char} (h : IsPrintable c) : isAsciiBlank c = isBlank c := by
  rw [Bool.eq_iff_iff]
  refine ⟨isBlank_of_isAsciiBlank, fun hblank => ?_⟩
  rcases h.isBlank_iff.1 hblank with rfl | rfl <;> rfl

theorem isCompact_iff {cs : List Char} :
    isCompact cs = true ↔ cs.count '.' = 2 ∧ ∀ c ∈ cs, isAsciiBlank c = false := by
  simp [isCompact]

section
variable {before scheme between token after cs : List Char}

theorem ne_nil_of_count (h : token.count '.' = 2) : token ≠ [] := by
  rintro rfl
  cases h

theorem isVisible_of_toLower {c : Char} (h : Text.IsVisible c.toLower) : Text.IsVisible c := by
  rw [Text.IsVisible, toNat_toLower] at h
  rw [Text.IsVisible]
  split at h <;> omega

/-- The scheme holds no blank, in whatever case its letters are. -/
theorem isVisible_of_mem_scheme (h : lowerChars scheme = "bearer".toList) :
    ∀ c ∈ scheme, Text.IsVisible c := by
  have hletters : ∀ c ∈ "bearer".toList, Text.IsVisible c := by
    have hscheme : "bearer".toList = ['b', 'e', 'a', 'r', 'e', 'r'] := rfl
    simp [hscheme, Text.IsVisible]
  intro c hc
  refine isVisible_of_toLower (hletters _ ?_)
  rw [← h]
  exact List.mem_map_of_mem hc

theorem tokenChars?_of_parts (hbefore : AllBlank before) (hbetween : AllBlank between)
    (hafter : AllBlank after) (hscheme : lowerChars scheme = "bearer".toList)
    (hword : ∀ c ∈ token, isBlank c = false) (hdots : token.count '.' = 2) :
    tokenChars? (before ++ (scheme ++ ' ' :: (between ++ token)) ++ after) = some token := by
  have hvisible := isVisible_of_mem_scheme hscheme
  have hspace : ' ' ∉ scheme := fun hmem => absurd (hvisible ' ' hmem).1 (by decide)
  have hne := ne_nil_of_count hdots
  have htrim : trimChars (before ++ (scheme ++ ' ' :: (between ++ token)) ++ after)
      = scheme ++ ' ' :: (between ++ token) := by
    refine TrimsTo.eq ⟨⟨before, after, hbefore, hafter, rfl⟩, fun c rest hcore => ?_,
      fun front c hcore => ?_⟩
    · cases scheme with
      | nil => cases hscheme
      | cons first letters =>
        cases hcore
        exact (hvisible c List.mem_cons_self).not_isBlank
    · rw [List.append_cons, ← List.append_assoc] at hcore
      have hlast := congrArg List.getLast? hcore
      rw [List.getLast?_append, List.getLast?_eq_some_getLast hne, Option.some_or,
        List.getLast?_concat] at hlast
      exact hword c (Option.some.inj hlast ▸ List.getLast_mem hne)
  have hstart : trimStart (between ++ token) = token := by
    rw [trimStart_blank_append hbetween]
    cases token with
    | nil => exact absurd rfl hne
    | cons c cs => exact trimStart_cons (hword c List.mem_cons_self) cs
  have hcompact : isCompact token = true := by
    refine isCompact_iff.2 ⟨hdots, fun c hc => ?_⟩
    rw [Bool.eq_false_iff]
    intro hascii
    have := hword c hc
    rw [isBlank_of_isAsciiBlank hascii] at this
    cases this
  unfold tokenChars?
  simp only [htrim, dropWhile_cut hspace, takeWhile_cut hspace, hstart]
  exact if_pos ⟨hscheme, hcompact⟩

theorem exists_parts_of_tokenChars? (h : tokenChars? cs = some token) :
    ∃ before scheme between after, AllBlank before ∧ AllBlank between ∧ AllBlank after
      ∧ lowerChars scheme = "bearer".toList
      ∧ cs = before ++ (scheme ++ ' ' :: (between ++ token)) ++ after
      ∧ isCompact token = true := by
  unfold tokenChars? at h
  dsimp only at h
  split at h
  · cases h
  rename_i c credential hdrop
  obtain ⟨-, hcut⟩ := eq_of_dropWhile hdrop
  split at h
  · rename_i hparts
    cases h
    obtain ⟨before, after, hbefore, hafter, hcs⟩ := (trimsTo_trimChars cs).between
    obtain ⟨between, hbetween, hcredential⟩ := exists_blank_append_trimStart credential
    refine ⟨before, _, between, after, hbefore, hbetween, hafter, hparts.1, ?_, hparts.2⟩
    rw [← hcredential, ← hcut]
    exact hcs
  · cases h

end

theorem IsCredential.token?_eq {value : List UInt8} {token : String}
    (h : IsCredential value token) : token? value = some token := by
  obtain ⟨before, scheme, between, after, hbefore, hbetween, hafter, hscheme, hvalue⟩ := h.parts
  rw [token?, Http.visibleText?_eq_some_iff.2 ⟨h.printable, hvalue⟩, Option.bind_some,
    tokenChars?_of_parts hbefore.allBlank hbetween.allBlank hafter.allBlank hscheme h.word h.dots,
    Option.map_some, String.ofList_toList]

theorem isCredential_of_token? {value : List UInt8} {token : String}
    (h : token? value = some token) : IsCredential value token := by
  obtain ⟨chars, hchars, rfl⟩ := Option.map_eq_some_iff.1 h
  obtain ⟨cs, htext, htoken⟩ := Option.bind_eq_some_iff.1 hchars
  obtain ⟨hbytes, rfl⟩ := Http.visibleText?_eq_some_iff.1 htext
  obtain ⟨before, scheme, between, after, hbefore, hbetween, hafter, hscheme, rfl, hcompact⟩ :=
    exists_parts_of_tokenChars? htoken
  have hprintable := Http.isPrintable_encode_iff.1 hbytes
  simp only [List.forall_mem_append, List.forall_mem_cons] at hprintable
  obtain ⟨⟨hleft, -, -, hmiddle, hchars⟩, hright⟩ := hprintable
  obtain ⟨hdots, hword⟩ := isCompact_iff.1 hcompact
  constructor
  case printable => exact hbytes
  case parts =>
    exact ⟨before, scheme, between, after, isPadding_of_allBlank hleft hbefore,
      isPadding_of_allBlank hmiddle hbetween, isPadding_of_allBlank hright hafter, hscheme,
      by rw [String.toList_ofList (l := chars)]⟩
  case word =>
    rw [String.toList_ofList]
    intro c hc
    exact (isAsciiBlank_eq (hchars c hc)).symm.trans (hword c hc)
  case dots => rwa [String.toList_ofList]

theorem token?_eq_some_iff {value : List UInt8} {token : String} :
    token? value = some token ↔ IsCredential value token :=
  ⟨isCredential_of_token?, IsCredential.token?_eq⟩

/-! ## Plain credentials -/

theorem isCredential_plain {token : String} (hvisible : ∀ c ∈ token.toList, Text.IsVisible c)
    (hdots : token.toList.count '.' = 2) :
    IsCredential (Utf8.bytes ("Bearer " ++ token)) token := by
  have hscheme : lowerChars "Bearer".toList = "bearer".toList := by decide
  have hchars : ("Bearer " ++ token).toList = "Bearer".toList ++ ' ' :: token.toList := by
    rw [String.toList_append]
    rfl
  constructor
  case printable =>
    rw [Utf8.bytes, hchars, Http.isPrintable_encode_iff, List.forall_mem_append,
      List.forall_mem_cons]
    exact ⟨fun c hc => .of_isVisible (isVisible_of_mem_scheme hscheme c hc), .inr (by decide),
      fun c hc => .of_isVisible (hvisible c hc)⟩
  case parts =>
    have hnone : IsPadding [] := fun c hc => absurd hc List.not_mem_nil
    refine ⟨[], "Bearer".toList, [], [], hnone, hnone, hnone, hscheme, ?_⟩
    rw [Utf8.bytes, hchars, List.append_nil, List.nil_append, List.nil_append]
  case word => exact fun c hc => (hvisible c hc).not_isBlank
  case dots => exact hdots

theorem IsCredential.isVisible {value : List UInt8} {token : String}
    (h : IsCredential value token) : ∀ c ∈ token.toList, Text.IsVisible c := by
  obtain ⟨before, scheme, between, after, -, -, -, -, hvalue⟩ := h.parts
  have hprintable := h.printable
  rw [hvalue, Http.isPrintable_encode_iff] at hprintable
  simp only [List.forall_mem_append, List.forall_mem_cons] at hprintable
  obtain ⟨⟨-, -, -, -, htoken⟩, -⟩ := hprintable
  exact fun c hc => (htoken c hc).isVisible_of_not_isBlank (h.word c hc)

theorem token?_bearer {token : String} (hvisible : ∀ c ∈ token.toList, Text.IsVisible c)
    (hdots : token.toList.count '.' = 2) :
    token? (Utf8.bytes ("Bearer " ++ token)) = some token :=
  (isCredential_plain hvisible hdots).token?_eq

/-- A value is taken for a credential of a token just if it is one, and then of no other token. Any
other value is refused as malformed. A token that was taken is taken from its plain credential,
too. -/
theorem token?_grammar (value : List UInt8) :
    (∀ token, token? value = some token ↔ IsCredential value token)
      ∧ (∀ token token', IsCredential value token → IsCredential value token' → token = token')
      ∧ (∀ headers, Http.header? headers "authorization" = some value →
        (∀ token, TokenContext.presented? headers = .ok token ↔ IsCredential value token)
        ∧ ((∀ token, ¬IsCredential value token) →
          TokenContext.presented? headers = .error .invalidAuthorization))
      ∧ ∀ token, token? value = some token →
        token? (Utf8.bytes ("Bearer " ++ token)) = some token := by
  refine ⟨fun token => token?_eq_some_iff, fun token token' h h' => ?_, fun headers hheader => ?_,
    fun token htoken => ?_⟩
  · exact Option.some.inj (h.token?_eq.symm.trans h'.token?_eq)
  · simp only [← token?_eq_some_iff, TokenContext.presented?, hheader]
    cases token? value with
    | none => simp
    | some token => simp
  · have hcredential := isCredential_of_token? htoken
    exact token?_bearer hcredential.isVisible hcredential.dots

/-- Padding of either kind, a scheme in mixed case and a token with nothing between its dots; and a
tab where the space has to be. -/
theorem token?_grammar_padded :
    IsCredential (Utf8.bytes "\t bEARER \th..s ") "h..s"
      ∧ token? (Utf8.bytes ("Bearer " ++ "h..s")) = some "h..s"
      ∧ TokenContext.presented? [("Authorization", Utf8.bytes "Bearer\th.p.s")]
        = .error .invalidAuthorization := by
  obtain ⟨hcredential, -, -, hplain⟩ := token?_grammar (Utf8.bytes "\t bEARER \th..s ")
  obtain ⟨hcredential', -, hpresented, -⟩ := token?_grammar (Utf8.bytes "Bearer\th.p.s")
  have htoken : token? (Utf8.bytes "\t bEARER \th..s ") = some "h..s" := by decide +kernel
  have htoken' : token? (Utf8.bytes "Bearer\th.p.s") = none := by decide +kernel
  refine ⟨(hcredential _).1 htoken, hplain _ htoken, (hpresented _ ?_).2 fun token h => ?_⟩
  · decide +kernel
  · cases htoken'.symm.trans ((hcredential' token).2 h)

end Bearer

end SignedToken
