import SignedToken.Proofs.Time.Instant

/-!
# Later instants

A duration leads to the second in which the exact sum lies, and no further than to the end of the
calendar. There is no such limit at the start of the calendar: whatever leads behind it leads to the
end of the calendar as well.
-/

namespace SignedToken

/-! ## Durations -/

theorem Duration.wholeSeconds_eq_zero_iff {d : Duration} :
    d.wholeSeconds = 0 ↔ -second < d.nanoseconds ∧ d.nanoseconds < second := by
  have habs : d.wholeSeconds.natAbs = d.nanoseconds.natAbs / 1000000000 :=
    Int.natAbs_tdiv d.nanoseconds second
  simp only [second]
  omega

theorem Duration.subsecond_eq {d : Duration} (h : d.wholeSeconds = 0) :
    d.subsecond = d.nanoseconds := by
  have hsum := Int.tdiv_mul_add_tmod d.nanoseconds second
  rw [wholeSeconds] at h
  rwa [h, Int.zero_mul, Int.zero_add] at hsum

namespace Instant

/-! ## Leap seconds -/

theorem leap_bounds {t : Instant} (h : t.isLeap = true) :
    second ≤ t.subsecond ∧ t.subsecond < 2 * second ∧ t.seconds % 60 = 59 := by
  have hlong : second ≤ t.subsecond := of_decide_eq_true h
  rcases t.subsecond_lt with hlt | ⟨hminute, hlt⟩
  · omega
  · exact ⟨hlong, hlt, hminute⟩

theorem subsecond_lt_of_not_leap {t : Instant} (h : ¬t.isLeap = true) : t.subsecond < second :=
  Int.not_le.1 fun hlong => h (decide_eq_true hlong)

/-! ## Sums -/

/-- The second in which `t` and `d` together lie, as if the calendar had no ends. A leap second that
`t` lies in is not counted: what follows it is counted from the second before it. -/
def secondAfter (t : Instant) (d : Duration) : Int :=
  let n := t.nanoseconds + d.nanoseconds
  if t.isLeap ∧ (t.seconds + 1) * second ≤ n then (n - second) / second else n / second

section
variable {t : Instant} {d : Duration}

theorem secondAfter_of_not_leap (h : ¬t.isLeap = true) :
    t.secondAfter d = (t.nanoseconds + d.nanoseconds) / second :=
  if_neg fun hleap => h hleap.1

theorem secondAfter_of_lt (h : t.nanoseconds + d.nanoseconds < (t.seconds + 1) * second) :
    t.secondAfter d = (t.nanoseconds + d.nanoseconds) / second :=
  if_neg fun hleap => Int.not_le.2 h hleap.2

theorem secondAfter_of_le (hleap : t.isLeap = true)
    (h : (t.seconds + 1) * second ≤ t.nanoseconds + d.nanoseconds) :
    t.secondAfter d = (t.nanoseconds + d.nanoseconds - second) / second :=
  if_pos ⟨hleap, h⟩

/-- Less than a second leads on inside a leap second, or back into the second before it. -/
theorem secondAfter_eq_seconds (hleap : t.isLeap = true) (hd : d.wholeSeconds = 0)
    (hinside : t.subsecond + d.nanoseconds < 2 * second) : t.secondAfter d = t.seconds := by
  obtain ⟨hlong, -⟩ := leap_bounds hleap
  obtain ⟨hback, -⟩ := Duration.wholeSeconds_eq_zero_iff.1 hd
  have hsum : t.nanoseconds + d.nanoseconds
      = t.seconds * second + (t.subsecond + d.nanoseconds) := Int.add_assoc _ _ _
  by_cases h : (t.seconds + 1) * second ≤ t.nanoseconds + d.nanoseconds
  · rw [secondAfter_of_le hleap h]
    simp only [second] at *
    omega
  · rw [secondAfter_of_lt (Int.not_le.1 h)]
    simp only [second] at *
    omega

/-- A longer duration leads on, and so does a later instant, if a leap second is not compared with
what is none. -/
theorem secondAfter_le_secondAfter {t' : Instant} {d' : Duration} (hleap : t.isLeap = t'.isLeap)
    (ht : t.nanoseconds ≤ t'.nanoseconds) (hd : d.nanoseconds ≤ d'.nanoseconds) :
    t.secondAfter d ≤ t'.secondAfter d' := by
  have hsum : t.nanoseconds + d.nanoseconds ≤ t'.nanoseconds + d'.nanoseconds :=
    Int.add_le_add ht hd
  by_cases h : t.isLeap = true
  · have h' : t'.isLeap = true := hleap ▸ h
    have hseconds : t.seconds ≤ t'.seconds := by
      obtain ⟨hlong, -⟩ := leap_bounds h
      obtain ⟨-, hshort', -⟩ := leap_bounds h'
      simp only [nanoseconds, second] at *
      omega
    by_cases hn : (t.seconds + 1) * second ≤ t.nanoseconds + d.nanoseconds
    · by_cases hn' : (t'.seconds + 1) * second ≤ t'.nanoseconds + d'.nanoseconds
      · rw [secondAfter_of_le h hn, secondAfter_of_le h' hn']
        exact Int.ediv_le_ediv (by decide) (Int.sub_le_sub_right hsum _)
      · rw [secondAfter_of_le h hn, secondAfter_of_lt (Int.not_le.1 hn')]
        simp only [second] at *
        omega
    · by_cases hn' : (t'.seconds + 1) * second ≤ t'.nanoseconds + d'.nanoseconds
      · rw [secondAfter_of_lt (Int.not_le.1 hn), secondAfter_of_le h' hn']
        simp only [second] at *
        omega
      · rw [secondAfter_of_lt (Int.not_le.1 hn), secondAfter_of_lt (Int.not_le.1 hn')]
        exact Int.ediv_le_ediv (by decide) hsum
  · have h' : ¬t'.isLeap = true := hleap ▸ h
    rw [secondAfter_of_not_leap h, secondAfter_of_not_leap h']
    exact Int.ediv_le_ediv (by decide) hsum

/-- From a leap second a duration may lead to an earlier second than from just before it. -/
example : (⟨59, 1000000000, by decide, by decide, by decide, by decide⟩ : Instant).secondAfter
      ⟨1100000000, by decide, by decide⟩
    < (⟨59, 950000000, by decide, by decide, by decide, by decide⟩ : Instant).secondAfter
      ⟨1100000000, by decide, by decide⟩ := by decide

theorem seconds_lt_secondAfter (h : second ≤ d.nanoseconds) : t.seconds < t.secondAfter d := by
  have hnonneg := t.subsecond_nonneg
  by_cases hleap : t.isLeap = true
  · obtain ⟨hlong, -⟩ := leap_bounds hleap
    have hn : (t.seconds + 1) * second ≤ t.nanoseconds + d.nanoseconds := by
      simp only [nanoseconds, second] at *
      omega
    rw [secondAfter_of_le hleap hn]
    simp only [nanoseconds, second] at *
    omega
  · rw [secondAfter_of_not_leap hleap]
    simp only [nanoseconds, second] at *
    omega

theorem secondAfter_le_seconds (h : d.nanoseconds < 0) : t.secondAfter d ≤ t.seconds := by
  by_cases hleap : t.isLeap = true
  · obtain ⟨-, hshort, -⟩ := leap_bounds hleap
    by_cases hn : (t.seconds + 1) * second ≤ t.nanoseconds + d.nanoseconds
    · rw [secondAfter_of_le hleap hn]
      simp only [nanoseconds, second] at *
      omega
    · rw [secondAfter_of_lt (Int.not_le.1 hn)]
      simp only [second] at *
      omega
  · have hshort := subsecond_lt_of_not_leap hleap
    rw [secondAfter_of_not_leap hleap]
    simp only [nanoseconds, second] at *
    omega

end

/-! ## The ends of the calendar -/

/-- The second `n` if the calendar has it, and otherwise the last second of the calendar. -/
def secondOrLast (n : Int) : Int :=
  if n < earliest.seconds then latest.seconds else min n latest.seconds

theorem secondOrLast_seconds (t : Instant) : secondOrLast t.seconds = t.seconds := by
  have hfrom : earliest.seconds ≤ t.seconds := t.notBeforeCalendar
  rw [secondOrLast, if_neg (Int.not_lt.2 hfrom)]
  exact Int.min_eq_left t.notAfterCalendar

theorem secondOrLast_of_le {n : Int} (h : earliest.seconds ≤ n) :
    secondOrLast n = min n latest.seconds :=
  if_neg (Int.not_lt.2 h)

theorem seconds_of_ofNanoseconds? {n : Int} {t : Instant} (h : ofNanoseconds? n = some t) :
    t.seconds = n / second := by
  unfold ofNanoseconds? ofParts? at h
  split at h
  · cases h
    rfl
  · cases h

theorem seconds_getD_ofNanoseconds? (n : Int) :
    ((ofNanoseconds? n).getD latest).seconds = secondOrLast (n / second) := by
  cases h : ofNanoseconds? n with
  | some t => rw [Option.getD_some, ← seconds_of_ofNanoseconds? h, secondOrLast_seconds]
  | none =>
    have hout : n / second < earliest.seconds ∨ latest.seconds < n / second := by
      have hsubsecond : 0 ≤ n % second ∧ n % second < second :=
        ⟨Int.emod_nonneg n (by decide), Int.emod_lt_of_pos n (by decide)⟩
      unfold ofNanoseconds? ofParts? at h
      split at h
      · cases h
      · rename_i hparts
        refine Decidable.by_contra fun hin => hparts ⟨?_, hsubsecond.1, .inl hsubsecond.2⟩
        obtain ⟨hfrom, huntil⟩ := not_or.1 hin
        exact ⟨Int.not_lt.1 hfrom, Int.not_lt.1 huntil⟩
    rw [Option.getD_none, secondOrLast]
    rcases hout with hout | hout
    · rw [if_pos hout]
    · have hfrom : ¬n / second < earliest.seconds :=
        Int.not_lt.2 (Int.le_trans (by decide) (Int.le_of_lt hout))
      rw [if_neg hfrom, Int.min_eq_right (Int.le_of_lt hout)]

/-- The second of a later instant is the one in which the exact sum lies; where the calendar does
not have it, in front of its start as well as behind its end, it is the last one. -/
theorem seconds_later (t : Instant) (d : Duration) :
    (t.later d).seconds = secondOrLast (t.secondAfter d) := by
  by_cases hleap : t.isLeap = true
  · obtain ⟨hlong, hshort, hminute⟩ := leap_bounds hleap
    by_cases hstay : d.wholeSeconds = 0 ∧ t.subsecond + d.subsecond < 2 * second
    · obtain ⟨hback, -⟩ := Duration.wholeSeconds_eq_zero_iff.1 hstay.1
      have hinside := hstay.2
      rw [Duration.subsecond_eq hstay.1] at hinside
      have hnonneg : 0 ≤ t.subsecond + d.subsecond := by
        rw [Duration.subsecond_eq hstay.1]
        omega
      have hparts : ofParts? t.seconds (t.subsecond + d.subsecond) = some
          ⟨t.seconds, t.subsecond + d.subsecond, t.notBeforeCalendar, t.notAfterCalendar, hnonneg,
            .inr ⟨hminute, hstay.2⟩⟩ :=
        dif_pos ⟨⟨t.notBeforeCalendar, t.notAfterCalendar⟩, hnonneg, .inr ⟨hminute, hstay.2⟩⟩
      rw [secondAfter_eq_seconds hleap hstay.1 hinside, secondOrLast_seconds, later, if_pos hleap,
        if_pos hstay, hparts]
      rfl
    · rw [later, if_pos hleap, if_neg hstay]
      by_cases hforward : 0 < d.nanoseconds
      · have hn : (t.seconds + 1) * second ≤ t.nanoseconds + d.nanoseconds := by
          simp only [nanoseconds, second] at *
          omega
        have hsum : t.nanoseconds - second + d.nanoseconds
            = t.nanoseconds + d.nanoseconds - second := by omega
        rw [if_pos hforward, hsum, secondAfter_of_le hleap hn]
        exact seconds_getD_ofNanoseconds? _
      · have hlong : ¬(-second < d.nanoseconds ∧ d.nanoseconds < second) := by
          intro hd
          have hwhole := Duration.wholeSeconds_eq_zero_iff.2 hd
          refine hstay ⟨hwhole, ?_⟩
          rw [Duration.subsecond_eq hwhole]
          omega
        have hn : t.nanoseconds + d.nanoseconds < (t.seconds + 1) * second := by
          simp only [nanoseconds, second] at *
          omega
        rw [if_neg hforward, secondAfter_of_lt hn]
        exact seconds_getD_ofNanoseconds? _
  · rw [secondAfter_of_not_leap hleap, later, if_neg hleap]
    exact seconds_getD_ofNanoseconds? _

/-- At least a second later it is another second, unless the calendar ends. -/
theorem seconds_lt_later (t : Instant) {d : Duration} (h : second ≤ d.nanoseconds) :
    t.seconds < (t.later d).seconds ∨ (t.later d).seconds = latest.seconds := by
  have hlt := seconds_lt_secondAfter (t := t) h
  have hfrom : earliest.seconds ≤ t.seconds := t.notBeforeCalendar
  rw [seconds_later, secondOrLast_of_le (Int.le_trans hfrom (Int.le_of_lt hlt))]
  omega

/-! ## Whole seconds -/

/-- Whole seconds lead on from a leap second as they do from the second before it. -/
theorem secondAfter_of_seconds {t : Instant} {d : Duration} {n : Int} (hn : 0 < n)
    (hd : d.nanoseconds = n * second) : t.secondAfter d = t.seconds + n := by
  have hnonneg := t.subsecond_nonneg
  by_cases hleap : t.isLeap = true
  · obtain ⟨hlong, hshort, -⟩ := leap_bounds hleap
    have hpast : (t.seconds + 1) * second ≤ t.nanoseconds + d.nanoseconds := by
      simp only [nanoseconds, second] at *
      omega
    rw [secondAfter_of_le hleap hpast]
    simp only [nanoseconds, second] at *
    omega
  · have hshort := subsecond_lt_of_not_leap hleap
    rw [secondAfter_of_not_leap hleap]
    simp only [nanoseconds, second] at *
    omega

theorem seconds_later_of_seconds {t : Instant} {d : Duration} {n : Int} (hn : 0 < n)
    (hd : d.nanoseconds = n * second) :
    (t.later d).seconds = min (t.seconds + n) latest.seconds := by
  have hfrom : earliest.seconds ≤ t.seconds := t.notBeforeCalendar
  have hafter := secondAfter_of_seconds (t := t) hn hd
  rw [seconds_later, secondOrLast_of_le (by omega), hafter]

end Instant

end SignedToken
