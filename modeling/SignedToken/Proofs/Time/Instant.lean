import SignedToken.Claims.Basic

/-!
# Seconds

The second of an instant fits 64 bits, with any leeway too, and names that second again.
-/

namespace SignedToken

/-! ## Durations -/

theorem Duration.ofNanoseconds?_eq_some_iff {n : Int} {d : Duration} :
    ofNanoseconds? n = some d ↔ d.nanoseconds = n := by
  obtain ⟨m, hl, hg⟩ := d
  unfold ofNanoseconds?
  split
  · rw [Option.some.injEq, Duration.mk.injEq, eq_comm]
  · rename_i h
    refine iff_of_false (fun he => by cases he) ?_
    rintro rfl
    exact h ⟨hl, hg⟩

theorem Duration.ofSeconds?_eq_some_iff {n : Int} {d : Duration} :
    ofSeconds? n = some d ↔ d.nanoseconds = n * second :=
  ofNanoseconds?_eq_some_iff

/-- Whole seconds fit as long as their milliseconds fit 64 bits. -/
theorem Duration.exists_ofSeconds? {n : Int} (hl : -9223372036854775 ≤ n)
    (hg : n ≤ 9223372036854775) : ∃ d, ofSeconds? n = some d := by
  have hbounds : -9223372036854775807000000 ≤ n * 1000000000
      ∧ n * 1000000000 ≤ 9223372036854775807000000 := by omega
  exact ⟨⟨n * second, hbounds.1, hbounds.2⟩, ofSeconds?_eq_some_iff.2 rfl⟩

theorem Duration.bounds_of_ofSeconds? {n : Int} {d : Duration} (h : ofSeconds? n = some d) :
    -9223372036854775 ≤ n ∧ n ≤ 9223372036854775 := by
  have hn : d.nanoseconds = n * 1000000000 := ofSeconds?_eq_some_iff.1 h
  have hl := d.least
  have hg := d.greatest
  omega

/-! ## Instants -/

theorem Instant.toInt_timestamp (t : Instant) : t.timestamp.toInt = t.seconds := by
  have hl := t.notBeforeCalendar
  have hg := t.notAfterCalendar
  exact Int64.toInt_ofInt_of_le (by omega) (by omega)

theorem toInt_nearest64 {n : Int} (hl : -9223372036854775808 ≤ n) (hg : n ≤ 9223372036854775807) :
    (nearest64 n).toInt = n := by
  rw [nearest64, Int.min_eq_left hg, Int.max_eq_right hl]
  exact Int64.toInt_ofInt_of_le hl (by omega)

/-- The calendar is so far from the ends of 64 bits that no leeway leads there. -/
theorem Instant.toInt_nearest64_sub (t : Instant) (leeway : UInt32) :
    (nearest64 (t.timestamp.toInt - leeway.toNat)).toInt = t.seconds - leeway.toNat := by
  have hl := t.notBeforeCalendar
  have hg := t.notAfterCalendar
  have hleeway := leeway.toNat_lt
  rw [t.toInt_timestamp]
  exact toInt_nearest64 (by omega) (by omega)

theorem Instant.toInt_nearest64_add (t : Instant) (leeway : UInt32) :
    (nearest64 (t.timestamp.toInt + leeway.toNat)).toInt = t.seconds + leeway.toNat := by
  have hl := t.notBeforeCalendar
  have hg := t.notAfterCalendar
  have hleeway := leeway.toNat_lt
  rw [t.toInt_timestamp]
  exact toInt_nearest64 (by omega) (by omega)

/-- The start of the second of an instant. -/
def Instant.wholeSecond (t : Instant) : Instant :=
  ⟨t.seconds, 0, t.notBeforeCalendar, t.notAfterCalendar, by decide, .inl (by decide)⟩

/-- The start of the calendar. -/
def Instant.earliest : Instant where
  seconds := -8334601228800
  subsecond := 0
  notBeforeCalendar := by decide
  notAfterCalendar := latest.notBeforeCalendar
  subsecond_nonneg := by decide
  subsecond_lt := by decide

/-- Since 1970 all instants are so far from the start of the calendar. -/
theorem Instant.earliest_add_le {now : Instant} (h : 0 ≤ now.seconds) (leeway : UInt32) :
    earliest.seconds + leeway.toNat ≤ now.seconds := by
  have hleeway := leeway.toNat_lt
  show -8334601228800 + (leeway.toNat : Int) ≤ now.seconds
  omega

theorem StandardClaims.instantOf?_timestamp {t : Instant} (h : t.timestamp ≠ 0) :
    instantOf? t.timestamp = some t.wholeSecond := by
  rw [instantOf?, if_neg h, Instant.toInt_timestamp, Instant.ofSeconds?, Instant.ofParts?,
    dif_pos ⟨⟨t.notBeforeCalendar, t.notAfterCalendar⟩, by decide, .inl (by decide)⟩]
  rfl

theorem StandardClaims.instantOf?_eq_none_iff {n : Int64} :
    instantOf? n = none
      ↔ n = 0 ∨ n.toInt < Instant.earliest.seconds ∨ Instant.latest.seconds < n.toInt := by
  show instantOf? n = none ↔ n = 0 ∨ n.toInt < -8334601228800 ∨ 8210266876799 < n.toInt
  unfold instantOf? Instant.ofSeconds? Instant.ofParts?
  split
  · rename_i hzero
    exact iff_of_true rfl (.inl hzero)
  rename_i hset
  rw [or_iff_right hset]
  split
  · rename_i hinside
    exact iff_of_false nofun (by omega)
  · rename_i houtside
    refine iff_of_true rfl ?_
    have hseconds : ¬(-8334601228800 ≤ n.toInt ∧ n.toInt ≤ 8210266876799) := fun h =>
      houtside ⟨h, Int.le_refl 0, .inl (by decide)⟩
    omega

theorem StandardClaims.timestamp_of_instantOf? {n : Int64} {t : Instant}
    (h : instantOf? n = some t) : t.timestamp = n ∧ t.subsecond = 0 := by
  unfold instantOf? Instant.ofSeconds? Instant.ofParts? at h
  split at h
  · cases h
  split at h
  · cases h
    exact ⟨Int64.ofInt_toInt n, rfl⟩
  · cases h

end SignedToken
