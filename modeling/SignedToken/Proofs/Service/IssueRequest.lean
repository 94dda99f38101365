import Mathlib.Data.List.DropRight
import SignedToken.Proofs.Json.Depth
import SignedToken.Proofs.Json.Packed
import SignedToken.Proofs.Outcome
import SignedToken.Service.IssueRequest

/-!
# The payload of a request

The entries of a payload are read like other values. So, however a request is spelled that does not
say the name of packed objects, nothing is packed in the payload that is read of it, and it nests
one level less than any value of a text may, so that there is room for the claims around it.
-/

namespace SignedToken.IssueRequest

open Json Ascii

theorem orGrammar_eq_ok_iff {α : Type} {o : Option α} {a : α} :
    orGrammar o = .ok a ↔ o = some a := by
  cases o with
  | none => simp [orGrammar]
  | some b => simp [orGrammar]

/-! ## Lists and members -/

section
variable {α β : Type} {item : List UInt8 → Except ReadError (α × List UInt8)}
  {written : List UInt8 → Option (β × List UInt8)} {f : β → Option α}

/-- What a reader accepts is written there and stands for what the reader makes of it. -/
def Reads (item : List UInt8 → Except ReadError (α × List UInt8))
    (written : List UInt8 → Option (β × List UInt8)) (f : β → Option α) : Prop :=
  ∀ bs a rest, item bs = .ok (a, rest) → ∃ b, written bs = some (b, rest) ∧ f b = some a

theorem reads_readMore (h : Reads item written f) (close : UInt8) (size : Nat) :
    Reads (readMore close item size) (moreItems close written size) (List.mapM f) := by
  induction size with
  | zero =>
    intro bs as rest hread
    cases hread
  | succ size ih =>
    intro bs as rest hread
    rw [readMore] at hread
    obtain ⟨⟨a, after⟩, ha, hread⟩ := Outcome.bind_eq_ok.1 hread
    obtain ⟨b, hb, hba⟩ := h _ _ _ ha
    rw [moreItems, hb]
    dsimp only [bind, Option.bind_some] at hread ⊢
    cases hblank : skipBlank after with
    | nil =>
      rw [hblank] at hread
      cases hread
    | cons c behind =>
      rw [hblank] at hread
      dsimp only at hread ⊢
      split at hread
      · rename_i hcomma
        obtain ⟨⟨as', rest'⟩, hmore, hread⟩ := Outcome.bind_eq_ok.1 hread
        cases hread
        obtain ⟨bs', hbs', hmap⟩ := ih _ _ _ hmore
        rw [if_pos hcomma, hbs']
        exact ⟨b :: bs', rfl, by simp [List.mapM_cons, hba, hmap]⟩
      rename_i hcomma
      rw [if_neg hcomma]
      split at hread
      · rename_i hclose
        cases hread
        rw [if_pos hclose]
        exact ⟨[b], rfl, by simp [List.mapM_cons, hba]⟩
      · cases hread

theorem reads_readList (h : Reads item written f) (close : UInt8) (size : Nat) :
    Reads (readList close item size) (items close written size) (List.mapM f) := by
  intro bs as rest hread
  unfold readList at hread
  unfold items
  cases hblank : skipBlank bs with
  | nil =>
    rw [hblank] at hread
    cases hread
  | cons b after =>
    rw [hblank] at hread
    dsimp only at hread ⊢
    split at hread
    · rename_i hclose
      cases hread
      rw [if_pos hclose]
      exact ⟨[], rfl, rfl⟩
    · rename_i hclose
      rw [if_neg hclose]
      exact reads_readMore h close size _ _ _ hread

end

theorem reads_readMember {item : List UInt8 → Except ReadError (Json × List UInt8)}
    {written : List UInt8 → Option (Json × List UInt8)} {f : Json → Option Json}
    (h : Reads item written f) :
    Reads (readMember item) (member written) fun m => (f m.2).map (m.1, ·) := by
  intro bs m rest hread
  unfold readMember at hread
  obtain ⟨⟨k, behindName⟩, hname, hread⟩ := Outcome.bind_eq_ok.1 hread
  obtain ⟨⟨v, behindValue⟩, hvalue, hread⟩ := Outcome.bind_eq_ok.1 hread
  cases hread
  obtain ⟨w, hw, hv⟩ := h _ _ _ hvalue
  refine ⟨(k, w), ?_, congrArg (Option.map (k, ·)) hv⟩
  rw [member, orGrammar_eq_ok_iff.1 hname]
  dsimp only [bind, Option.bind_some] at hw ⊢
  rw [hw]
  rfl

/-! ## Packed objects -/

theorem memberName_of_skipBlank {bs rest : List UInt8} (h : skipBlank bs = rest) :
    memberName rest = memberName bs := by
  have hblank : skipBlank rest = skipBlank bs := by
    rw [← h]
    exact List.dropWhile_idempotent _ _
  rw [memberName, memberName, hblank]

theorem exists_cons_of_moreItems {α : Type} {close : UInt8}
    {item : List UInt8 → Option (α × List UInt8)} {size : Nat} {bs rest : List UInt8} {as : List α}
    (h : moreItems close item size bs = some (as, rest)) :
    ∃ a after tail, item bs = some (a, after) ∧ as = a :: tail := by
  cases size with
  | zero => cases h
  | succ size =>
    rw [moreItems] at h
    obtain ⟨⟨a, after⟩, ha, h⟩ := Option.bind_eq_some_iff.1 h
    dsimp only at h
    split at h
    · cases h
    split at h
    · obtain ⟨⟨tail, _⟩, -, h⟩ := Option.bind_eq_some_iff.1 h
      cases h
      exact ⟨a, after, tail, ha, rfl⟩
    split at h
    · cases h
      exact ⟨a, after, [], ha, rfl⟩
    · cases h

/-- Whether an object is packed shows at its first name. -/
theorem packed?_of_behindPackedName? {item : List UInt8 → Option (Json × List UInt8)} {size : Nat}
    {bs rest : List UInt8} {ms : List (String × Json)} (h : behindPackedName? bs = none)
    (hread : items closeBrace (member item) size bs = some (ms, rest)) : packed? ms = none := by
  unfold items at hread
  split at hread
  · cases hread
  rename_i b after hblank
  split at hread
  · cases hread
    rfl
  · obtain ⟨m, behind, tail, hm, rfl⟩ := exists_cons_of_moreItems hread
    simp only [member, bind, Option.bind_eq_some_iff, pure] at hm
    obtain ⟨⟨k, behindName⟩, hname, ⟨v, behindValue⟩, -, hm⟩ := hm
    cases hm
    rw [memberName_of_skipBlank hblank] at hname
    rw [behindPackedName?, hname] at h
    rw [packed?]
    exact if_neg fun hk => absurd hk (by simpa using h)

theorem value_of_quote {size depth : Nat} {bs after rest : List UInt8} {s : String}
    (h : skipBlank bs = quote :: after) (hs : unquote after = some (s, rest)) :
    value size depth bs = some (.str s, rest) := by
  have hscalar : scalar (quote :: after) = some (.str s, rest) := by
    rw [scalar, if_pos rfl, hs]
    rfl
  have harr : quote ≠ openBracket := by decide
  have hobj : quote ≠ openBrace := by decide
  cases depth with
  | zero => rw [value, h, hscalar]
  | succ depth =>
    rw [value, h]
    dsimp only
    rw [if_neg harr, if_neg hobj, hscalar]

theorem memberName_of_behindPackedName? {bs behind : List UInt8}
    (h : behindPackedName? bs = some behind) : memberName bs = some (packedName, behind) := by
  unfold behindPackedName? at h
  split at h
  · rename_i k rest hname
    rw [Option.ite_none_right_eq_some] at h
    obtain ⟨rfl, h⟩ := h
    cases h
    exact hname
  · cases h

theorem exists_quote_of_memberName {bs rest : List UInt8} {k : String}
    (h : memberName bs = some (k, rest)) : ∃ after, skipBlank bs = quote :: after := by
  unfold memberName at h
  split at h
  · cases h
  rename_i b after hblank
  split at h
  · rename_i hq
    exact ⟨after, hq ▸ hblank⟩
  · cases h

/-- What a reader accepts of a packed object: a text that can be read, and no further member. -/
theorem exists_text_of_readPacked {bs rest : List UInt8} {v : Json}
    (h : readPacked bs = .ok (v, rest)) :
    ∃ after s behindText, skipBlank bs = quote :: after ∧ unquote after = some (s, behindText)
      ∧ read? (Utf8.bytes s) = some v ∧ skipBlank behindText = closeBrace :: rest := by
  unfold readPacked at h
  split at h
  · cases h
  rename_i b after hblank
  split at h
  · rename_i hq
    obtain ⟨⟨s, behindText⟩, hs, h⟩ := Outcome.bind_eq_ok.1 h
    dsimp only at h
    split at h
    · cases h
    rename_i w hw
    split at h
    · cases h
    rename_i c behindObject hclose
    split at h
    · rename_i hc
      cases h
      exact ⟨after, s, behindText, hq ▸ hblank, orGrammar_eq_ok_iff.1 hs, hw, hc ▸ hclose⟩
    · cases h
  · cases h

theorem items_of_memberName {item : List UInt8 → Option (Json × List UInt8)} {count : Nat}
    {bs behindName behindValue rest : List UInt8} {k : String} {v : Json}
    (hname : memberName bs = some (k, behindName)) (hvalue : item behindName = some (v, behindValue))
    (hclose : skipBlank behindValue = closeBrace :: rest) :
    items closeBrace (member item) (count + 1) bs = some ([(k, v)], rest) := by
  obtain ⟨after, hafter⟩ := exists_quote_of_memberName hname
  rw [← memberName_of_skipBlank hafter] at hname
  have hmember : member item (quote :: after) = some ((k, v), behindValue) := by
    simp only [member, hname, hvalue, bind, Option.bind_some]
    rfl
  have hquote : quote ≠ closeBrace := by decide
  have hcomma : closeBrace ≠ comma := by decide
  rw [items, hafter]
  dsimp only
  rw [if_neg hquote, moreItems, hmember]
  simp only [bind, Option.bind_some, hclose, if_neg hcomma]
  rfl

/-- A packed object is written with its text as its only member. -/
theorem exists_items_of_readPacked {size count depth : Nat} {bs behind rest : List UInt8} {v : Json}
    (hname : behindPackedName? bs = some behind) (h : readPacked behind = .ok (v, rest)) :
    ∃ s, items closeBrace (member (value size depth)) (count + 1) bs
        = some ([(packedName, .str s)], rest)
      ∧ read? (Utf8.bytes s) = some v := by
  obtain ⟨after, s, behindText, hblank, hs, hread, hclose⟩ := exists_text_of_readPacked h
  have hvalue : value size depth behind = some (.str s, behindText) := value_of_quote hblank hs
  exact ⟨s, items_of_memberName (memberName_of_behindPackedName? hname) hvalue hclose, hread⟩

/-! ## Values -/

theorem unpackItems?_eq_mapM (vs : List Json) : unpackItemsWith read? vs = vs.mapM unpack? := by
  induction vs with
  | nil => rfl
  | cons v vs ih =>
    rw [unpackItemsWith, ih, List.mapM_cons]
    rfl

theorem unpackMembers?_eq_mapM (ms : List (String × Json)) :
    unpackMembers? ms = ms.mapM fun m => (unpack? m.2).map (m.1, ·) := by
  induction ms with
  | nil => rfl
  | cons m ms ih =>
    rw [unpackMembers?] at ih ⊢
    rw [unpackMembersWith, ih, List.mapM_cons, ← unpack?]
    cases unpack? m.2 <;> rfl

theorem reads_scalar : Reads (fun bs => orGrammar (scalar bs)) scalar unpack? := by
  intro bs v rest hread
  have hscalar := orGrammar_eq_ok_iff.1 hread
  refine ⟨v, hscalar, ?_⟩
  have hdepth := depth_of_scalar hscalar
  cases v with
  | arr vs => simp [depth] at hdepth
  | obj ms => simp [depth] at hdepth
  | _ => rfl

/-- A value of a request is read like any other value, packed objects replaced. -/
theorem reads_readValue {size : Nat} (hsize : 0 < size) (depth : Nat) :
    Reads (readValue size depth) (value size depth) unpack? := by
  induction depth with
  | zero =>
    intro bs v rest hread
    exact reads_scalar _ _ _ hread
  | succ depth ih =>
    intro bs v rest hread
    rw [readValue] at hread
    rw [value]
    cases hblank : skipBlank bs with
    | nil =>
      rw [hblank] at hread
      cases hread
    | cons b after =>
      rw [hblank] at hread
      dsimp only at hread ⊢
      split at hread
      · rename_i harr
        obtain ⟨⟨vs, _⟩, hlist, hread⟩ := Outcome.map_eq_ok.1 hread
        cases hread
        obtain ⟨ws, hws, hmap⟩ := reads_readList ih _ _ _ _ _ hlist
        refine ⟨.arr ws, by rw [if_pos harr, hws, Option.map_some], ?_⟩
        rw [unpack?_arr, unpackItems?_eq_mapM, hmap, Option.map_some]
      rename_i harr
      rw [if_neg harr]
      split at hread
      · rename_i hobj
        rw [if_pos hobj]
        cases hname : behindPackedName? after with
        | some behind =>
          rw [hname] at hread
          obtain ⟨count, rfl⟩ := Nat.exists_eq_add_one_of_ne_zero (Nat.ne_of_gt hsize)
          obtain ⟨s, hitems, hs⟩ := exists_items_of_readPacked hname hread
          exact ⟨_, by rw [hitems, Option.map_some], (unpack?_packed s).trans hs⟩
        | none =>
          rw [hname] at hread
          obtain ⟨⟨ms, _⟩, hlist, hread⟩ := Outcome.map_eq_ok.1 hread
          cases hread
          obtain ⟨ws, hws, hmap⟩ := reads_readList (reads_readMember ih) _ _ _ _ _ hlist
          refine ⟨.obj ws, by rw [hws, Option.map_some], ?_⟩
          rw [unpack?_obj (packed?_of_behindPackedName? hname hws), unpackMembers?_eq_mapM, hmap,
            Option.map_some]
      · rename_i hobj
        rw [if_neg hobj]
        exact reads_scalar _ _ _ hread

/-! ## Payloads -/

/-- A payload that fits into the claims of a token, with nothing packed in it. -/
structure Fits (o : Json.Object) : Prop where
  depth_le : o.toJson.depth ≤ maxDepth - 1
  isUnpacked : o.toJson.isUnpacked = true

theorem fits_empty : Fits .empty where
  depth_le := by decide
  isUnpacked := rfl

theorem exists_value_of_readBody {size : Nat} (hsize : 0 < size) {bs rest : List UInt8}
    {o : Json.Object} (h : readBody size bs = .ok (o, rest)) :
    ∃ written members, value size (maxDepth - 1) bs = some (.obj written, rest)
      ∧ unpackMembers? written = some members ∧ o = .ofMembers members := by
  unfold readBody at h
  split at h
  · cases h
  rename_i b after hblank
  split at h
  · rename_i hobj
    obtain ⟨⟨members, _⟩, hlist, h⟩ := Outcome.map_eq_ok.1 h
    cases h
    obtain ⟨written, hwritten, hmap⟩ :=
      reads_readList (reads_readMember (reads_readValue hsize _)) _ _ _ _ _ hlist
    have hne : openBrace ≠ openBracket := by decide
    refine ⟨written, members, ?_, by rw [unpackMembers?_eq_mapM, hmap], rfl⟩
    rw [show maxDepth - 1 = maxDepth - 2 + 1 from rfl, value, hblank]
    dsimp only
    rw [hobj, if_neg hne, if_pos rfl, hwritten, Option.map_some]
  · cases h

theorem fits_of_readBody {size : Nat} (hsize : 0 < size) {bs rest : List UInt8} {o : Json.Object}
    (hname : ¬Quotes bs packedName) (h : readBody size bs = .ok (o, rest)) :
    Fits o ∧ rest <:+ bs := by
  obtain ⟨written, members, hwritten, hmembers, rfl⟩ := exists_value_of_readBody hsize h
  obtain ⟨hrest, hquotes⟩ := shows_value _ _ _ _ _ hwritten
  have hstrings : packedName ∉ (Json.obj written).strings := fun hs => hname (hquotes _ hs)
  -- nothing is replaced, so the payload is what is written
  have hunpacked := isUnpacked_of_not_mem_strings _ hstrings
  rw [isUnpacked, Bool.and_eq_true] at hunpacked
  rw [unpackMembers?, unpackMembersWith_of_areMembersUnpacked _ _ hunpacked.2] at hmembers
  cases hmembers
  refine ⟨⟨?_, ?_⟩, hrest⟩
  · exact Nat.le_trans (depth_canonical_le (.obj written)) (depth_le_of_value hwritten)
  · exact isUnpacked_of_not_mem_strings _ fun hs =>
      hstrings (mem_strings_of_canonical (.obj written) hs)

/-! ## Fields -/

theorem readTtl_suffix {bs rest : List UInt8} {t : Option Int64}
    (h : readTtl bs = .ok (t, rest)) : rest <:+ bs := by
  unfold readTtl at h
  split at h
  · cases h
  rename_i b after hblank
  split at h
  · cases h
  obtain ⟨⟨v, behind⟩, hscalar, h⟩ := Outcome.bind_eq_ok.1 h
  have hbehind : behind <:+ bs :=
    (shows_scalar _ _ _ (orGrammar_eq_ok_iff.1 hscalar)).1.trans (cons_suffix_of_skipBlank hblank)
  dsimp only at h
  split at h
  · cases h
    exact hbehind
  · split at h
    · cases h
      exact hbehind
    · cases h
  · cases h

theorem readName_suffix {f : Fields} {bs rest : List UInt8} {name : String}
    (h : readName f bs = .ok (name, rest)) : rest <:+ bs := by
  unfold readName at h
  split at h
  · cases h
  rename_i b after hblank
  split at h
  · obtain ⟨⟨s, behind⟩, hs, h⟩ := Outcome.bind_eq_ok.1 h
    obtain ⟨-, h⟩ := Outcome.guard_eq_ok.1 h
    have hbehind := (unquote_consumes (orGrammar_eq_ok_iff.1 hs)).1
    split at h
    · cases h
    rename_i c behindColon hcolon
    split at h
    · cases h
      exact (suffix_of_skipBlank hcolon).trans (hbehind.trans (suffix_of_skipBlank hblank))
    · cases h
  · cases h

/-- The payload met so far, if any, fits. -/
def Fields.Fit (f : Fields) : Prop := ∀ o, f.body = some o → Fits o

theorem Fields.Fit.request {f : Fields} (h : f.Fit) : Fits f.request.body := by
  cases hbody : f.body with
  | none =>
    rw [Fields.request, hbody]
    exact fits_empty
  | some o =>
    rw [Fields.request, hbody]
    exact h o hbody

section
variable {size : Nat} (hsize : 0 < size)
include hsize

theorem fit_of_readField {f f' : Fields} {name : String} {bs rest : List UInt8}
    (hf : f.Fit) (hname : ¬Quotes bs packedName) (h : readField size f name bs = .ok (f', rest)) :
    f'.Fit ∧ rest <:+ bs := by
  unfold readField at h
  split at h
  · obtain ⟨⟨o, after⟩, hbody, h⟩ := Outcome.bind_eq_ok.1 h
    cases h
    obtain ⟨hfits, hrest⟩ := fits_of_readBody hsize hname hbody
    refine ⟨fun o' ho' => ?_, hrest⟩
    cases ho'
    exact hfits
  split at h
  · obtain ⟨⟨t, after⟩, httl, h⟩ := Outcome.bind_eq_ok.1 h
    cases h
    exact ⟨hf, readTtl_suffix httl⟩
  · obtain ⟨after, hpass, h⟩ := Outcome.bind_eq_ok.1 h
    cases h
    exact ⟨hf, passValue_suffix (orGrammar_eq_ok_iff.1 hpass)⟩

theorem fit_of_readMembers {more : Nat} {f f' : Fields} {bs : List UInt8} (hf : f.Fit)
    (hname : ¬Quotes bs packedName) (h : readMembers size more f bs = .ok f') : f'.Fit := by
  induction more generalizing f bs with
  | zero => cases h
  | succ more ih =>
    rw [readMembers] at h
    obtain ⟨⟨name, behindName⟩, hreadName, h⟩ := Outcome.bind_eq_ok.1 h
    obtain ⟨⟨g, behindField⟩, hfield, h⟩ := Outcome.bind_eq_ok.1 h
    have hbehindName := readName_suffix hreadName
    obtain ⟨hg, hbehindField⟩ :=
      fit_of_readField hsize hf (fun hq => hname (hq.of_suffix hbehindName)) hfield
    dsimp only at h
    split at h
    · cases h
    rename_i b rest hblank
    split at h
    · have hrest := (suffix_of_skipBlank hblank).trans (hbehindField.trans hbehindName)
      exact ih hg (fun hq => hname (hq.of_suffix hrest)) h
    split at h
    · cases h
      exact hg
    · cases h

theorem fit_of_readItems {bs : List UInt8} {f : Fields} (hname : ¬Quotes bs packedName)
    (h : readItems size bs = .ok f) : f.Fit := by
  have hnone : ({} : Fields).Fit := by
    intro o ho
    cases ho
  unfold readItems at h
  split at h
  · cases h
  rename_i b after hblank
  split at h
  · cases h
    exact hnone
  obtain ⟨⟨o, behindBody⟩, hbody, h⟩ := Outcome.bind_eq_ok.1 h
  have hafter := cons_suffix_of_skipBlank hblank
  have hsome : ∀ t, (Fields.mk (some o) t).Fit := by
    intro t o' ho'
    cases ho'
    exact (fits_of_readBody hsize (fun hq => hname (hq.of_suffix hafter)) hbody).1
  dsimp only at h
  split at h
  · cases h
  split at h
  · cases h
    exact hsome none
  split at h
  · obtain ⟨⟨t, behindTtl⟩, -, h⟩ := Outcome.bind_eq_ok.1 h
    dsimp only at h
    split at h
    · cases h
    split at h
    · cases h
      exact hsome (some t)
    · cases h
  · cases h

end

/-- A request that does not say the name of packed objects has a payload that fits. -/
theorem fits_of_read {text : List UInt8} {request : IssueRequest} (hname : ¬Quotes text packedName)
    (h : read text = .ok request) : Fits request.body := by
  unfold read at h
  split at h
  · cases h
  rename_i b rest hblank
  have hrest := suffix_of_skipBlank hblank
  have hsize : 0 < text.length :=
    Nat.lt_of_lt_of_le (Nat.succ_pos _) (cons_suffix_of_skipBlank hblank).length_le
  split at h
  · split at h
    · cases h
    rename_i c rest' hblank'
    split at h
    · cases h
      exact fits_empty
    · obtain ⟨f, hf, rfl⟩ := Outcome.map_eq_ok.1 h
      have hrest' := (cons_suffix_of_skipBlank hblank').trans hrest
      refine Fields.Fit.request
        (fit_of_readMembers hsize ?_ (fun hq => hname (hq.of_suffix hrest')) hf)
      intro o ho
      cases ho
  split at h
  · obtain ⟨f, hf, rfl⟩ := Outcome.map_eq_ok.1 h
    exact (fit_of_readItems hsize (fun hq => hname (hq.of_suffix hrest)) hf).request
  · cases h

end SignedToken.IssueRequest
