import SignedToken.Proofs.Config
import SignedToken.Proofs.Text.Blank
import SignedToken.Proofs.Text.Case
import SignedToken.Proofs.Text.Integer

/-!
# Which variables load

Just which variables make up a configuration, and which one; otherwise, which variable is reported.
Blanks around a value do not matter for either.
-/

namespace SignedToken

/-- The variable that an error is about. -/
def ConfigError.variable : ConfigError → String
  | .missing name => name
  | .invalid name _ => name

namespace Config

/-! ## Values -/

/-- `s` is the value without the blanks around it. -/
def Says (value s : String) : Prop := Text.TrimsTo value.toList s.toList

def IsBlank (value : String) : Prop := Text.AllBlank value.toList

/-- The variable is unset or blank. -/
def IsAbsent (value : Option String) : Prop := ∀ v, value = some v → IsBlank v

/-- The variable is neither unset nor blank, and says `s`. -/
def Gives (value : Option String) (s : String) : Prop :=
  ∃ v, value = some v ∧ ¬IsBlank v ∧ Says v s

/-- The name of an algorithm of the HMAC family, in whatever letter case. -/
def SpellsAlgorithm (s : String) (a : Algorithm) : Prop :=
  a ∈ [Algorithm.hs256, .hs384, .hs512] ∧ Text.lower s = Text.lower a.name

/-- A number of seconds that is positive and whose milliseconds fit 64 bits. -/
def SaysLifetime (value : String) (n : Int) : Prop :=
  ∃ s, Says value s ∧ Text.SpellsInteger s.toList n ∧ 1 ≤ n ∧ n ≤ 9223372036854775

/-- A number of seconds that fits 32 bits. -/
def SaysLeeway (value : String) (n : Nat) : Prop :=
  ∃ s, Says value s ∧ Text.SpellsNatural s.toList n ∧ n ≤ 4294967295

/-- A switch that is on. -/
def SaysYes (value : Option String) : Prop :=
  ∃ v s, value = some v ∧ Says v s ∧ Text.lower s ∈ ["1", "true", "yes", "on"]

section
variable {value s : String} {given : Option String}

theorem trim_eq_iff : Text.trim value = s ↔ Says value s := by
  rw [Says, ← Text.trimChars_eq_iff, Text.trim]
  constructor
  · rintro rfl
    rw [String.toList_ofList]
  · intro h
    rw [h, String.ofList_toList]

theorem says_empty_iff : Says value "" ↔ IsBlank value := Text.trimsTo_nil_iff

theorem trimmed?_eq_some_iff : trimmed? given = some s ↔ Gives given s := by
  rw [trimmed?, Option.filter_eq_some_iff, Option.map_eq_some_iff, decide_eq_true_iff]
  constructor
  · rintro ⟨⟨v, hv, rfl⟩, hne⟩
    exact ⟨v, hv, fun hblank => hne (trim_eq_iff.2 (says_empty_iff.2 hblank)), trim_eq_iff.1 rfl⟩
  · rintro ⟨v, hv, hblank, hsays⟩
    refine ⟨⟨v, hv, trim_eq_iff.2 hsays⟩, ?_⟩
    rintro rfl
    exact hblank (says_empty_iff.1 hsays)

theorem trimmed?_eq_none_iff : trimmed? given = none ↔ IsAbsent given := by
  cases given with
  | none => simp [trimmed?, IsAbsent]
  | some v => simp [trimmed?, IsAbsent, ← says_empty_iff, ← trim_eq_iff]

theorem signingAlgorithm?_eq_some_iff {a : Algorithm} :
    signingAlgorithm? s = some a ↔ SpellsAlgorithm s a := by
  have hfamily : a.hmac?.isSome = true ↔ a ∈ [Algorithm.hs256, .hs384, .hs512] := by
    cases a <;> decide
  have hname : Algorithm.ofName? (Text.upper s) = some a ↔ Text.upper s = a.name := by
    constructor
    · intro h
      have hfound := List.find?_some h
      exact (beq_iff_eq.1 hfound).symm
    · intro h
      rw [h]
      cases a <;> rfl
  rw [signingAlgorithm?, Option.filter_eq_some_iff, hfamily, hname, SpellsAlgorithm, and_comm]
  refine and_congr_right fun ha => ?_
  have hupper : a.name = Text.upper a.name := by
    simp only [List.mem_cons, List.not_mem_nil, or_false] at ha
    rcases ha with rfl | rfl | rfl <;> rfl
  rw [hupper, Text.upper_eq_iff, ← hupper]

theorem exists_says_iff (p : List Char → Prop) :
    (∃ s, Says value s ∧ p s.toList) ↔ p (Text.trimChars value.toList) := by
  constructor
  · rintro ⟨s, hs, hp⟩
    rw [Text.TrimsTo.eq hs]
    exact hp
  · intro hp
    refine ⟨Text.trim value, trim_eq_iff.1 rfl, ?_⟩
    rw [Text.trim, String.toList_ofList]
    exact hp

theorem saysLifetime_iff {n : Int} :
    SaysLifetime value n ↔ Text.signed64? (Text.trimChars value.toList) = some n
      ∧ 1 ≤ n ∧ n ≤ 9223372036854775 := by
  refine (exists_says_iff fun cs => Text.SpellsInteger cs n ∧ 1 ≤ n ∧ n ≤ 9223372036854775).trans ?_
  rw [Text.signed64?_eq_some_iff, and_assoc]
  refine and_congr_right fun _ => ?_
  omega

theorem lifetime?_eq_some_iff {d : Duration} :
    lifetime? value = some d ↔ ∃ n, SaysLifetime value n ∧ d.nanoseconds = n * second := by
  have hgreatest (n : Int) (hd : d.nanoseconds = n * 1000000000) : n ≤ 9223372036854775 := by
    have := d.greatest
    omega
  simp only [saysLifetime_iff]
  unfold lifetime?
  cases hn : Text.signed64? (Text.trimChars value.toList) with
  | none => simp
  | some n =>
    simp only [Option.ite_none_right_eq_some, Duration.ofSeconds?_eq_some_iff]
    constructor
    · rintro ⟨hpositive, hd⟩
      exact ⟨n, ⟨rfl, hpositive, hgreatest n hd⟩, hd⟩
    · rintro ⟨m, ⟨hm, hpositive, -⟩, hd⟩
      cases hm
      exact ⟨hpositive, hd⟩

theorem exists_lifetime?_iff : (∃ d, lifetime? value = some d) ↔ ∃ n, SaysLifetime value n := by
  simp only [lifetime?_eq_some_iff]
  constructor
  · rintro ⟨d, n, hn, -⟩
    exact ⟨n, hn⟩
  · rintro ⟨n, hn⟩
    obtain ⟨-, hl, hg⟩ := saysLifetime_iff.1 hn
    obtain ⟨d, hd⟩ := Duration.exists_ofSeconds? (by omega) hg
    exact ⟨d, n, hn, Duration.ofSeconds?_eq_some_iff.1 hd⟩

theorem saysLeeway_iff {n : Nat} :
    SaysLeeway value n ↔ Text.natural? 4294967295 (Text.trimChars value.toList) = some n :=
  (exists_says_iff fun cs => Text.SpellsNatural cs n ∧ n ≤ 4294967295).trans
    Text.natural?_eq_some_iff.symm

theorem leeway?_eq_some_iff {leeway : UInt32} :
    leeway? value = some leeway ↔ SaysLeeway value leeway.toNat := by
  rw [leeway?, Option.map_eq_some_iff, saysLeeway_iff]
  constructor
  · rintro ⟨n, hn, rfl⟩
    have hbound := (Text.natural?_eq_some_iff.1 hn).2
    rw [UInt32.toNat_ofNat_of_lt' (Nat.lt_succ_of_le hbound)]
    exact hn
  · intro h
    exact ⟨leeway.toNat, h, UInt32.ofNat_toNat⟩

theorem exists_leeway?_iff :
    (∃ leeway, leeway? value = some leeway) ↔ ∃ n, SaysLeeway value n := by
  simp only [leeway?, Option.map_eq_some_iff, saysLeeway_iff]
  constructor
  · rintro ⟨_, n, hn, -⟩
    exact ⟨n, hn⟩
  · rintro ⟨n, hn⟩
    exact ⟨_, n, hn, rfl⟩

theorem isOn_eq_true_iff : isOn given = true ↔ SaysYes given := by
  cases given with
  | none => simp [isOn, SaysYes]
  | some v => simp [isOn, SaysYes, ← trim_eq_iff]

end

/-! ## Whole environments -/

/-- The party that a variable names; the usual one if it is unset or blank. -/
def NamesParty (given : Option String) (usual party : String) : Prop :=
  IsAbsent given ∧ party = usual ∨ Gives given party

theorem getD_trimmed?_eq_iff {given : Option String} {usual party : String} :
    (trimmed? given).getD usual = party ↔ NamesParty given usual party := by
  rw [NamesParty, ← trimmed?_eq_some_iff, ← trimmed?_eq_none_iff]
  cases trimmed? given with
  | none => simp [eq_comm]
  | some s => simp

/-- The configuration that the variables spell. -/
structure SpelledBy (lookup : String → Option String) (c : Config) : Prop where
  secret : ∃ s, Gives (lookup "TOKEN_SECRET") s ∧ c.secret = Utf8.bytes s
  algorithm : IsAbsent (lookup "TOKEN_ALGORITHM") ∧ c.algorithm = .hs256
    ∨ ∃ s, Gives (lookup "TOKEN_ALGORITHM") s ∧ SpellsAlgorithm s c.algorithm
  issuer : NamesParty (lookup "TOKEN_ISSUER") StandardClaims.defaultIssuer c.issuer
  audience : NamesParty (lookup "TOKEN_AUDIENCE") StandardClaims.defaultAudience c.audience
  lifetime : lookup "TOKEN_TTL_SECONDS" = none ∧ c.lifetime = StandardClaims.defaultLifetime
    ∨ ∃ v, lookup "TOKEN_TTL_SECONDS" = some v
      ∧ ∃ n, SaysLifetime v n ∧ c.lifetime.nanoseconds = n * second
  leeway : lookup "TOKEN_LEEWAY_SECONDS" = none ∧ c.leewaySeconds = 0
    ∨ ∃ v, lookup "TOKEN_LEEWAY_SECONDS" = some v ∧ SaysLeeway v c.leewaySeconds.toNat
  enforceAudience : c.enforceAudience = true ↔ SaysYes (lookup "TOKEN_ENFORCE_AUDIENCE")
  enforceIssuer : c.enforceIssuer = true ↔ SaysYes (lookup "TOKEN_ENFORCE_ISSUER")

/-- The variable is neither unset nor blank. -/
def HasSecret (lookup : String → Option String) : Prop :=
  ∃ s, Gives (lookup "TOKEN_SECRET") s

/-- The variable is unset or blank, or names a signing algorithm. -/
def HasAlgorithm (lookup : String → Option String) : Prop :=
  ∀ s, Gives (lookup "TOKEN_ALGORITHM") s → ∃ a, SpellsAlgorithm s a

/-- The variable is unset or names a lifetime. -/
def HasLifetime (lookup : String → Option String) : Prop :=
  ∀ v, lookup "TOKEN_TTL_SECONDS" = some v → ∃ n, SaysLifetime v n

/-- The variable is unset or names a leeway. -/
def HasLeeway (lookup : String → Option String) : Prop :=
  ∀ v, lookup "TOKEN_LEEWAY_SECONDS" = some v → ∃ n, SaysLeeway v n

/-- The error of the first variable that will not do. -/
inductive FirstFault (lookup : String → Option String) : ConfigError → Prop
  | secret (h : ¬HasSecret lookup) : FirstFault lookup (.missing "TOKEN_SECRET")
  | algorithm {s} (hsecret : HasSecret lookup) (h : Gives (lookup "TOKEN_ALGORITHM") s)
      (hnot : ¬∃ a, SpellsAlgorithm s a) : FirstFault lookup (.invalid "TOKEN_ALGORITHM" s)
  | lifetime {v} (hsecret : HasSecret lookup) (halgorithm : HasAlgorithm lookup)
      (h : lookup "TOKEN_TTL_SECONDS" = some v) (hnot : ¬∃ n, SaysLifetime v n) :
      FirstFault lookup (.invalid "TOKEN_TTL_SECONDS" v)
  | leeway {v} (hsecret : HasSecret lookup) (halgorithm : HasAlgorithm lookup)
      (hlifetime : HasLifetime lookup) (h : lookup "TOKEN_LEEWAY_SECONDS" = some v)
      (hnot : ¬∃ n, SaysLeeway v n) :
      FirstFault lookup (.invalid "TOKEN_LEEWAY_SECONDS" v)

/-! ## Loading -/

variable {lookup lookup' : String → Option String}

theorem ofVariables_eq_ok_iff {c : Config} :
    ofVariables lookup = .ok c ↔ c.SpelledBy lookup := by
  constructor
  · intro h
    unfold ofVariables at h
    obtain ⟨secret, hsecret, h⟩ := Outcome.bind_eq_ok.1 h
    obtain ⟨algorithm, halgorithm, h⟩ := Outcome.bind_eq_ok.1 h
    obtain ⟨lifetime, hlifetime, h⟩ := Outcome.bind_eq_ok.1 h
    obtain ⟨leeway, hleeway, h⟩ := Outcome.bind_eq_ok.1 h
    simp only [setting_eq_ok_iff, trimmed?_eq_none_iff, trimmed?_eq_some_iff,
      signingAlgorithm?_eq_some_iff, lifetime?_eq_some_iff, leeway?_eq_some_iff]
      at halgorithm hlifetime hleeway
    cases h
    exact {
      secret := ⟨secret, trimmed?_eq_some_iff.1 (Outcome.elim_eq_ok.1 hsecret), rfl⟩
      algorithm := halgorithm
      issuer := getD_trimmed?_eq_iff.1 rfl
      audience := getD_trimmed?_eq_iff.1 rfl
      lifetime := hlifetime
      leeway := hleeway
      enforceAudience := isOn_eq_true_iff
      enforceIssuer := isOn_eq_true_iff }
  · intro h
    obtain ⟨⟨secret, hsecret, hbytes⟩, halgorithm, hissuer, haudience, hlifetime, hleeway,
      honAudience, honIssuer⟩ := h
    simp only [← trimmed?_eq_none_iff, ← trimmed?_eq_some_iff, ← signingAlgorithm?_eq_some_iff,
      ← lifetime?_eq_some_iff, ← leeway?_eq_some_iff] at hsecret halgorithm hlifetime hleeway
    rw [ofVariables, hsecret, setting_eq_ok_iff.2 halgorithm, setting_eq_ok_iff.2 hlifetime,
      setting_eq_ok_iff.2 hleeway, getD_trimmed?_eq_iff.2 hissuer, getD_trimmed?_eq_iff.2 haudience,
      Bool.eq_iff_iff.2 (isOn_eq_true_iff.trans honAudience.symm),
      Bool.eq_iff_iff.2 (isOn_eq_true_iff.trans honIssuer.symm)]
    change Except.ok { c with secret := Utf8.bytes secret } = Except.ok c
    rw [← hbytes]

theorem exists_secret_iff :
    (∃ s, (trimmed? (lookup "TOKEN_SECRET")).elim (throw (.missing "TOKEN_SECRET")) pure
      = (.ok s : Except ConfigError String)) ↔ HasSecret lookup := by
  simp only [Outcome.elim_eq_ok, trimmed?_eq_some_iff, HasSecret]

theorem exists_algorithm_iff :
    (∃ a, setting "TOKEN_ALGORITHM" (trimmed? (lookup "TOKEN_ALGORITHM")) signingAlgorithm? .hs256
      = .ok a) ↔ HasAlgorithm lookup := by
  simp only [exists_setting_iff, trimmed?_eq_some_iff, signingAlgorithm?_eq_some_iff, HasAlgorithm]

theorem exists_lifetime_iff :
    (∃ d, setting "TOKEN_TTL_SECONDS" (lookup "TOKEN_TTL_SECONDS") lifetime?
      StandardClaims.defaultLifetime = .ok d) ↔ HasLifetime lookup := by
  simp only [exists_setting_iff, exists_lifetime?_iff, HasLifetime]

theorem firstFault_of_ofVariables {e : ConfigError} (h : ofVariables lookup = .error e) :
    FirstFault lookup e := by
  unfold ofVariables at h
  rcases Outcome.bind_eq_error.1 h with h | ⟨secret, hsecret, h⟩
  · obtain ⟨hnone, rfl⟩ := Outcome.elim_eq_error.1 h
    refine .secret fun ⟨s, hs⟩ => ?_
    rw [trimmed?_eq_some_iff.2 hs] at hnone
    cases hnone
  have hsecret := exists_secret_iff.1 ⟨secret, hsecret⟩
  rcases Outcome.bind_eq_error.1 h with h | ⟨algorithm, halgorithm, h⟩
  · obtain ⟨s, hs, hnot, rfl⟩ := setting_eq_error_iff.1 h
    simp only [signingAlgorithm?_eq_some_iff] at hnot
    exact .algorithm hsecret (trimmed?_eq_some_iff.1 hs) hnot
  have halgorithm := exists_algorithm_iff.1 ⟨algorithm, halgorithm⟩
  rcases Outcome.bind_eq_error.1 h with h | ⟨lifetime, hlifetime, h⟩
  · obtain ⟨v, hv, hnot, rfl⟩ := setting_eq_error_iff.1 h
    rw [exists_lifetime?_iff] at hnot
    exact .lifetime hsecret halgorithm hv hnot
  have hlifetime := exists_lifetime_iff.1 ⟨lifetime, hlifetime⟩
  rcases Outcome.bind_eq_error.1 h with h | ⟨leeway, -, h⟩
  · obtain ⟨v, hv, hnot, rfl⟩ := setting_eq_error_iff.1 h
    rw [exists_leeway?_iff] at hnot
    exact .leeway hsecret halgorithm hlifetime hv hnot
  · cases h

theorem FirstFault.ofVariables_eq {e : ConfigError} (h : FirstFault lookup e) :
    ofVariables lookup = .error e := by
  unfold ofVariables
  rw [Outcome.bind_eq_error]
  cases h with
  | secret hnot =>
    refine .inl (Outcome.elim_eq_error.2 ⟨?_, rfl⟩)
    exact Option.eq_none_iff_forall_ne_some.2 fun s hs => hnot ⟨s, trimmed?_eq_some_iff.1 hs⟩
  | algorithm hsecret hs hnot =>
    obtain ⟨secret, hsecret⟩ := exists_secret_iff.2 hsecret
    simp only [← signingAlgorithm?_eq_some_iff] at hnot
    refine .inr ⟨secret, hsecret, Outcome.bind_eq_error.2 (.inl ?_)⟩
    exact setting_eq_error_iff.2 ⟨_, trimmed?_eq_some_iff.2 hs, hnot, rfl⟩
  | lifetime hsecret halgorithm hv hnot =>
    obtain ⟨secret, hsecret⟩ := exists_secret_iff.2 hsecret
    obtain ⟨algorithm, halgorithm⟩ := exists_algorithm_iff.2 halgorithm
    rw [← exists_lifetime?_iff] at hnot
    refine .inr ⟨secret, hsecret, Outcome.bind_eq_error.2 (.inr ⟨algorithm, halgorithm, ?_⟩)⟩
    exact Outcome.bind_eq_error.2 (.inl (setting_eq_error_iff.2 ⟨_, hv, hnot, rfl⟩))
  | leeway hsecret halgorithm hlifetime hv hnot =>
    obtain ⟨secret, hsecret⟩ := exists_secret_iff.2 hsecret
    obtain ⟨algorithm, halgorithm⟩ := exists_algorithm_iff.2 halgorithm
    obtain ⟨lifetime, hlifetime⟩ := exists_lifetime_iff.2 hlifetime
    rw [← exists_leeway?_iff] at hnot
    refine .inr ⟨secret, hsecret, Outcome.bind_eq_error.2 (.inr ⟨algorithm, halgorithm, ?_⟩)⟩
    refine Outcome.bind_eq_error.2 (.inr ⟨lifetime, hlifetime, ?_⟩)
    exact Outcome.bind_eq_error.2 (.inl (setting_eq_error_iff.2 ⟨_, hv, hnot, rfl⟩))

theorem exists_ofVariables_iff :
    (∃ c, ofVariables lookup = .ok c) ↔
      HasSecret lookup ∧ HasAlgorithm lookup ∧ HasLifetime lookup ∧ HasLeeway lookup := by
  cases h : ofVariables lookup with
  | ok c =>
    have hnone : ∀ e, ¬FirstFault lookup e := by
      intro e he
      rw [he.ofVariables_eq] at h
      cases h
    have hsecret : HasSecret lookup :=
      Classical.byContradiction fun hnot => hnone _ (.secret hnot)
    have halgorithm : HasAlgorithm lookup := fun s hs =>
      Classical.byContradiction fun hnot => hnone _ (.algorithm hsecret hs hnot)
    have hlifetime : HasLifetime lookup := fun v hv =>
      Classical.byContradiction fun hnot => hnone _ (.lifetime hsecret halgorithm hv hnot)
    have hleeway : HasLeeway lookup := fun v hv =>
      Classical.byContradiction fun hnot => hnone _ (.leeway hsecret halgorithm hlifetime hv hnot)
    exact iff_of_true ⟨c, rfl⟩ ⟨hsecret, halgorithm, hlifetime, hleeway⟩
  | error e =>
    refine iff_of_false (fun ⟨c, hc⟩ => by cases hc) ?_
    rintro ⟨hsecret, halgorithm, hlifetime, hleeway⟩
    have hfault := firstFault_of_ofVariables h
    cases hfault with
    | secret hnot => exact hnot hsecret
    | algorithm _ hs hnot => exact hnot (halgorithm _ hs)
    | lifetime _ _ hv hnot => exact hnot (hlifetime _ hv)
    | leeway _ _ _ hv hnot => exact hnot (hleeway _ hv)

/-! ## Blanks around values -/

/-- The second value is the first one between blanks. -/
def Padded (value value' : String) : Prop :=
  ∃ before after, Text.AllBlank before ∧ Text.AllBlank after
    ∧ value'.toList = before ++ value.toList ++ after

theorem trimChars_of_padded {value value' : String} (h : Padded value value') :
    Text.trimChars value'.toList = Text.trimChars value.toList := by
  obtain ⟨before, after, hbefore, hafter, hvalue⟩ := h
  rw [hvalue, Text.trimChars_blanks_around hbefore _ hafter]

section
variable {given given' : Option String} (h : Option.Rel Padded given given')
include h

theorem trimmed?_of_padded : trimmed? given' = trimmed? given := by
  cases h with
  | none => rfl
  | some h => simp only [trimmed?, Option.map_some, Text.trim, trimChars_of_padded h]

theorem isOn_of_padded : isOn given' = isOn given := by
  cases h with
  | none => rfl
  | some h => simp only [isOn, Option.any_some, Text.trim, trimChars_of_padded h]

theorem setting_of_padded {α : Type} {name : String} {read : String → Option α} {otherwise : α}
    (hread : ∀ v v', Padded v v' → read v' = read v) :
    (setting name given' read otherwise).mapError ConfigError.variable
      = (setting name given read otherwise).mapError ConfigError.variable := by
  cases h with
  | none => rfl
  | some h =>
    rename_i v v'
    rw [setting, setting, hread v v' h]
    cases read v with
    | none => rfl
    | some a => rfl

end

theorem ofVariables_of_padded (h : ∀ name, Option.Rel Padded (lookup name) (lookup' name)) :
    (ofVariables lookup').mapError ConfigError.variable
      = (ofVariables lookup).mapError ConfigError.variable := by
  have hlifetime : ∀ v v', Padded v v' → lifetime? v' = lifetime? v := fun v v' hv => by
    rw [lifetime?, lifetime?, trimChars_of_padded hv]
  have hleeway : ∀ v v', Padded v v' → leeway? v' = leeway? v := fun v v' hv => by
    rw [leeway?, leeway?, trimChars_of_padded hv]
  simp only [ofVariables, Outcome.mapError_bind, trimmed?_of_padded (h _), isOn_of_padded (h _),
    setting_of_padded (h _) hlifetime, setting_of_padded (h _) hleeway]

/-- Variables make up a configuration just if there is a secret and the algorithm, the lifetime and
the leeway are usable or not set. They make up the one they spell; otherwise the error is that of
the first variable that will not do, in this order. With blanks around them the values make up the
same configuration, or the same variable is reported. -/
theorem ofVariables_spelled_or_faulty (lookup : String → Option String) :
    ((∃ c, ofVariables lookup = .ok c) ↔
        HasSecret lookup ∧ HasAlgorithm lookup ∧ HasLifetime lookup ∧ HasLeeway lookup)
      ∧ (∀ c, ofVariables lookup = .ok c ↔ c.SpelledBy lookup)
      ∧ (∀ e, ofVariables lookup = .error e ↔ FirstFault lookup e)
      ∧ ∀ lookup', (∀ name, Option.Rel Padded (lookup name) (lookup' name)) →
        (∀ c, ofVariables lookup = .ok c → ofVariables lookup' = .ok c)
          ∧ ∀ e, ofVariables lookup = .error e →
            ∃ e', ofVariables lookup' = .error e' ∧ e'.variable = e.variable := by
  refine ⟨exists_ofVariables_iff, fun _ => ofVariables_eq_ok_iff,
    fun _ => ⟨firstFault_of_ofVariables, FirstFault.ofVariables_eq⟩,
    fun lookup' hpadded => ⟨fun c hc => ?_, fun e he => ?_⟩⟩
  · rw [← Outcome.mapError_eq_ok, ofVariables_of_padded hpadded, Outcome.mapError_eq_ok]
    exact hc
  · rw [← Outcome.mapError_eq_error, ofVariables_of_padded hpadded, Outcome.mapError_eq_error]
    exact ⟨e, he, rfl⟩

/-- Variables for tokens that last a minute. -/
def minuteVariables (algorithm : String) (name : String) : Option String :=
  if name = "TOKEN_SECRET" then some "key"
  else if name = "TOKEN_ALGORITHM" then some algorithm
  else if name = "TOKEN_TTL_SECONDS" then some "+060"
  else none

def inBlanks (lookup : String → Option String) (name : String) : Option String :=
  (lookup name).map fun v => " " ++ v ++ "\n"

theorem ofVariables_spelled_or_faulty_minute :
    (∃ c, ofVariables (minuteVariables "hs384") = .ok c
        ∧ ofVariables (inBlanks (minuteVariables "hs384")) = .ok c)
      ∧ ofVariables (minuteVariables "es256") = .error (.invalid "TOKEN_ALGORITHM" "es256")
      ∧ ∃ e, ofVariables (inBlanks (minuteVariables "es256")) = .error e
        ∧ e.variable = "TOKEN_ALGORITHM" := by
  have hpadded (lookup : String → Option String) (name : String) :
      Option.Rel Padded (lookup name) (inBlanks lookup name) := by
    rw [inBlanks]
    cases lookup name with
    | none => exact .none
    | some v =>
      exact .some ⟨[' '], ['\n'], by simp [Text.AllBlank, Text.isBlank],
        by simp [Text.AllBlank, Text.isBlank], by simp⟩
  have hloads : ∃ c, ofVariables (minuteVariables "hs384") = .ok c := ⟨_, rfl⟩
  have hfails : ofVariables (minuteVariables "es256")
      = .error (.invalid "TOKEN_ALGORITHM" "es256") := rfl
  obtain ⟨c, hc⟩ := hloads
  exact ⟨⟨c, hc, ((ofVariables_spelled_or_faulty _).2.2.2 _ (hpadded _)).1 c hc⟩, hfails,
    ((ofVariables_spelled_or_faulty _).2.2.2 _ (hpadded _)).2 _ hfails⟩

end Config

end SignedToken
