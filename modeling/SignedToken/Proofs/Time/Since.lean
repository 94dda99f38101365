import SignedToken.Proofs.Time.Later

/-!
# Time between instants

Between two instants there is always a duration, whose whole seconds are counted toward zero. Up to
the second that some seconds lead to they are never less than none, and never more than these.
-/

namespace SignedToken

theorem Duration.wholeSeconds_bounds {d : Duration} {n : Int} (hn : 0 ≤ n)
    (hl : -second < d.nanoseconds) (hg : d.nanoseconds ≤ n * second) :
    0 ≤ d.wholeSeconds ∧ d.wholeSeconds ≤ n := by
  by_cases hshort : d.nanoseconds < second
  · rw [wholeSeconds_eq_zero_iff.2 ⟨hl, hshort⟩]
    exact ⟨Int.le_refl 0, hn⟩
  · have hnonneg : 0 ≤ d.nanoseconds := Int.le_trans (by decide) (Int.not_lt.1 hshort)
    have hwhole : d.wholeSeconds = d.nanoseconds / second := Int.tdiv_eq_ediv_of_nonneg hnonneg
    rw [hwhole]
    exact ⟨Int.ediv_nonneg hnonneg (by decide), Int.ediv_le_of_le_mul (by decide) hg⟩

namespace Instant

theorem isLeap_of_subsecond {t : Instant} (h : t.subsecond = 0) : t.isLeap = false := by
  rw [isLeap, h]
  decide

theorem nanosecondsSince_of_not_leap {t start : Instant} (ht : t.isLeap = false)
    (hstart : start.isLeap = false) :
    t.nanosecondsSince start = t.nanoseconds - start.nanoseconds := by
  simp [nanosecondsSince, ht, hstart]

/-- A leap second counts for one second at most. -/
theorem nanosecondsSince_near (t start : Instant) :
    t.nanoseconds - start.nanoseconds - second ≤ t.nanosecondsSince start
      ∧ t.nanosecondsSince start ≤ t.nanoseconds - start.nanoseconds + second := by
  unfold nanosecondsSince
  simp only [second]
  split
  · omega
  · split <;> omega

theorem nanoseconds_bounds (t : Instant) :
    -8334601228800 * second ≤ t.nanoseconds ∧ t.nanoseconds < 8210266876801 * second := by
  have hfrom := t.notBeforeCalendar
  have huntil := t.notAfterCalendar
  have hnonneg := t.subsecond_nonneg
  have hshort := t.subsecond_lt
  simp only [nanoseconds, second] at *
  omega

/-- The calendar is so short that a duration leads from anywhere to anywhere. -/
theorem exists_nanosecondsSince (t start : Instant) :
    ∃ d, Duration.ofNanoseconds? (t.nanosecondsSince start) = some d := by
  obtain ⟨hl, hg⟩ := nanosecondsSince_near t start
  obtain ⟨hfrom, huntil⟩ := t.nanoseconds_bounds
  obtain ⟨hfrom', huntil'⟩ := start.nanoseconds_bounds
  have hbounds : -9223372036854775807000000 ≤ t.nanosecondsSince start
      ∧ t.nanosecondsSince start ≤ 9223372036854775807000000 := by
    simp only [second] at *
    omega
  exact ⟨⟨_, hbounds.1, hbounds.2⟩, Duration.ofNanoseconds?_eq_some_iff.2 rfl⟩

/-- The second that some seconds lead to begins no later than after these. At the end of the
calendar it may have begun already, less than a second before. -/
theorem nanosecondsSince_bounds {t start : Instant} {n : Int} (hn : 0 < n)
    (hwhole : t.subsecond = 0) (ht : t.seconds = min (start.seconds + n) latest.seconds)
    (huntil : start.nanoseconds ≤ latest.nanoseconds) :
    -second < t.nanosecondsSince start ∧ t.nanosecondsSince start ≤ n * second := by
  have hnonneg := start.subsecond_nonneg
  have hleap := isLeap_of_subsecond hwhole
  by_cases hstart : start.isLeap = true
  · obtain ⟨hlong, hshort, -⟩ := leap_bounds hstart
    have hcounted : ¬(t.isLeap = true ∧ t.timeOfDay < start.timeOfDay) := by simp [hleap]
    rw [nanosecondsSince, if_neg hcounted]
    simp only [nanoseconds, latest, second] at *
    split <;> omega
  · have hshort := subsecond_lt_of_not_leap hstart
    rw [nanosecondsSince_of_not_leap hleap (eq_false_of_ne_true hstart)]
    have hlast := start.notAfterCalendar
    simp only [nanoseconds, latest, second] at *
    omega

theorem secondsSince_eq {t start : Instant} {d : Duration}
    (h : Duration.ofNanoseconds? (t.nanosecondsSince start) = some d) :
    t.secondsSince start = d.wholeSeconds := by
  rw [secondsSince, ← Duration.ofNanoseconds?_eq_some_iff.1 h]
  rfl

theorem secondsSince_bounds {t start : Instant} {n : Int} (hn : 0 < n)
    (hwhole : t.subsecond = 0) (ht : t.seconds = min (start.seconds + n) latest.seconds)
    (huntil : start.nanoseconds ≤ latest.nanoseconds) :
    0 ≤ t.secondsSince start ∧ t.secondsSince start ≤ n := by
  obtain ⟨d, hd⟩ := t.exists_nanosecondsSince start
  obtain ⟨hl, hg⟩ := nanosecondsSince_bounds hn hwhole ht huntil
  rw [← Duration.ofNanoseconds?_eq_some_iff.1 hd] at hl hg
  rw [secondsSince_eq hd]
  exact Duration.wholeSeconds_bounds (Int.le_of_lt hn) hl hg

end Instant

end SignedToken
