import SignedToken.Config
import SignedToken.Proofs.Bytes.Utf8
import SignedToken.Proofs.Outcome
import SignedToken.Proofs.Time.Instant

/-!
# Configurations that load

What a configuration that was read from variables has, whatever the variables say: all that issuing
and verifying rely on.
-/

namespace SignedToken

/-- There is a secret, the algorithm can use it, both parties have names, and what is issued lasts
at least a second. -/
structure Config.IsUsable (c : Config) : Prop where
  secret_ne_nil : c.secret ≠ []
  algorithm_mem : c.algorithm ∈ [Algorithm.hs256, .hs384, .hs512]
  issuer_ne_empty : c.issuer ≠ ""
  audience_ne_empty : c.audience ≠ ""
  second_le_lifetime : second ≤ c.lifetime.nanoseconds

namespace Config

/-! ## Variables -/

theorem ne_empty_of_trimmed? {value : Option String} {s : String} (h : trimmed? value = some s) :
    s ≠ "" :=
  of_decide_eq_true (Option.filter_eq_some_iff.1 h).2

theorem getD_trimmed?_ne_empty {value : Option String} {otherwise : String}
    (h : otherwise ≠ "") : (trimmed? value).getD otherwise ≠ "" := by
  cases htrimmed : trimmed? value with
  | none => exact h
  | some s => exact ne_empty_of_trimmed? htrimmed

section
variable {α : Type} {name : String} {value : Option String} {read : String → Option α}
  {otherwise : α}

theorem setting_eq_ok_iff {a : α} :
    setting name value read otherwise = .ok a ↔
      value = none ∧ a = otherwise ∨ ∃ v, value = some v ∧ read v = some a := by
  cases value with
  | none => simp [setting, eq_comm]
  | some v =>
    cases hread : read v <;> simp [setting, hread]

theorem exists_setting_iff :
    (∃ a, setting name value read otherwise = .ok a) ↔
      ∀ v, value = some v → ∃ a, read v = some a := by
  cases value with
  | none => simp [setting_eq_ok_iff]
  | some v => simp [setting_eq_ok_iff]

theorem setting_eq_error_iff {e : ConfigError} :
    setting name value read otherwise = .error e ↔
      ∃ v, value = some v ∧ (¬∃ a, read v = some a) ∧ .invalid name v = e := by
  cases value with
  | none => simp [setting]
  | some v => cases hread : read v <;> simp [setting, hread]

end

theorem signingAlgorithm?_mem {value : String} {a : Algorithm}
    (h : signingAlgorithm? value = some a) : a ∈ [Algorithm.hs256, .hs384, .hs512] := by
  have hhmac : a.hmac?.isSome = true := (Option.filter_eq_some_iff.1 h).2
  cases a <;> first | decide | cases hhmac

theorem second_le_of_lifetime? {value : String} {d : Duration} (h : lifetime? value = some d) :
    second ≤ d.nanoseconds := by
  unfold lifetime? at h
  split at h
  · split at h
    · rename_i n _ hn
      rw [Duration.ofSeconds?_eq_some_iff.1 h]
      rw [← Int.one_mul second]
      exact Int.mul_le_mul_of_nonneg_right hn (by decide)
    · cases h
  · cases h

/-! ## Whole configurations -/

theorem isUsable_of_ofVariables {lookup : String → Option String} {c : Config}
    (h : ofVariables lookup = .ok c) : c.IsUsable := by
  unfold ofVariables at h
  obtain ⟨secret, hsecret, h⟩ := Outcome.bind_eq_ok.1 h
  obtain ⟨algorithm, halgorithm, h⟩ := Outcome.bind_eq_ok.1 h
  obtain ⟨lifetime, hlifetime, h⟩ := Outcome.bind_eq_ok.1 h
  obtain ⟨leeway, -, h⟩ := Outcome.bind_eq_ok.1 h
  cases h
  exact {
    secret_ne_nil :=
      Utf8.bytes_ne_nil (ne_empty_of_trimmed? (Outcome.elim_eq_ok.1 hsecret))
    algorithm_mem := by
      rcases setting_eq_ok_iff.1 halgorithm with ⟨-, rfl⟩ | ⟨v, -, hv⟩
      · exact List.mem_cons_self
      · exact signingAlgorithm?_mem hv
    issuer_ne_empty := getD_trimmed?_ne_empty (by decide)
    audience_ne_empty := getD_trimmed?_ne_empty (by decide)
    second_le_lifetime := by
      rcases setting_eq_ok_iff.1 hlifetime with ⟨-, rfl⟩ | ⟨v, -, hv⟩
      · exact (by decide : second ≤ StandardClaims.defaultLifetime.nanoseconds)
      · exact second_le_of_lifetime? hv }

end Config

end SignedToken
