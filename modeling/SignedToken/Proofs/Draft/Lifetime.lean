import SignedToken.Draft
import SignedToken.Identifier
import SignedToken.Proofs.Time.Later

/-!
# Recorded lifetimes

A draft records a lifetime as the second it leads to. A lifetime that leads back behind the start of
the calendar is recorded as the end of the calendar.
-/

namespace SignedToken

namespace Draft

open Instant (earliest latest)

variable {σ : Type}

/-- A lifetime is recorded as the second in which the draft's present and the lifetime together lie,
and no later than the last second of the calendar. If the calendar has no such second because it
lies in front of its start, the last second is recorded, too. Apart from that, a negative lifetime
is never recorded as a second behind the present, and neither with a longer lifetime nor with a
later present is the second recorded an earlier one; leap seconds are only compared with one
another. -/
theorem expiresAt_set_lifetime (d : Draft σ) (wall : Instant) (l : Duration) :
    ∃ e : Int64, (d.set wall (.lifetime l)).expiresAt = some e
      ∧ e.toInt = (if (d.now wall).secondAfter l < earliest.seconds then latest.seconds
        else min ((d.now wall).secondAfter l) latest.seconds)
      ∧ (earliest.seconds ≤ (d.now wall).secondAfter l →
        (l.nanoseconds < 0 → e.toInt ≤ (d.now wall).seconds)
          ∧ ∀ (d' : Draft σ) (wall' : Instant) (l' : Duration),
            (d.now wall).isLeap = (d'.now wall').isLeap →
            (d.now wall).nanoseconds ≤ (d'.now wall').nanoseconds →
            l.nanoseconds ≤ l'.nanoseconds →
            ∃ e' : Int64, (d'.set wall' (.lifetime l')).expiresAt = some e' ∧ e ≤ e') := by
  have hrecorded (d : Draft σ) (wall : Instant) (l : Duration) :
      ((d.now wall).later l).timestamp.toInt
        = Instant.secondOrLast ((d.now wall).secondAfter l) := by
    rw [Instant.toInt_timestamp, Instant.seconds_later]
  refine ⟨_, rfl, hrecorded d wall l, fun hfrom => ⟨fun hnegative => ?_, ?_⟩⟩
  · rw [hrecorded, Instant.secondOrLast_of_le hfrom]
    exact Int.le_trans (Int.min_le_left _ _) (Instant.secondAfter_le_seconds hnegative)
  · intro d' wall' l' hleap hnow hl
    have hle := Instant.secondAfter_le_secondAfter hleap hnow hl
    refine ⟨_, rfl, Int64.le_iff_toInt_le.2 ?_⟩
    rw [hrecorded, hrecorded, Instant.secondOrLast_of_le hfrom,
      Instant.secondOrLast_of_le (Int.le_trans hfrom hle)]
    omega

/-- A draft whose present is `t`. -/
def presently (t : Instant) : Draft Nat where
  clock := some t
  generate := Identifier.random .zeros

/-- From inside a leap second, back into the second before it and on past the minute. -/
theorem expiresAt_set_lifetime_leap :
    ∃ e e' : Int64,
      ((presently ⟨59, 1500000000, by decide, by decide, by decide, by decide⟩).set latest
          (.lifetime ⟨-600000000, by decide, by decide⟩)).expiresAt = some e
        ∧ ((presently ⟨59, 1500000000, by decide, by decide, by decide, by decide⟩).set latest
          (.lifetime ⟨600000000, by decide, by decide⟩)).expiresAt = some e'
        ∧ e.toInt = 59 ∧ e ≤ e' := by
  obtain ⟨e, he, hseconds, hcalendar⟩ := expiresAt_set_lifetime
    (presently ⟨59, 1500000000, by decide, by decide, by decide, by decide⟩) latest
    ⟨-600000000, by decide, by decide⟩
  obtain ⟨e', he', hle⟩ := (hcalendar (by decide)).2
    (presently ⟨59, 1500000000, by decide, by decide, by decide, by decide⟩) latest
    ⟨600000000, by decide, by decide⟩ rfl (by decide) (by decide)
  exact ⟨e, e', he, he', hseconds.trans (by decide), hle⟩

/-- At the start of the calendar, a nanosecond less makes the earliest expiry the latest one. -/
theorem expiresAt_before_calendar :
    ((presently earliest).set latest (.lifetime ⟨0, by decide, by decide⟩)).expiresAt
        = some (-8334601228800)
      ∧ (earliest.secondAfter ⟨-1, by decide, by decide⟩ < earliest.seconds)
      ∧ ((presently earliest).set latest (.lifetime ⟨-1, by decide, by decide⟩)).expiresAt
        = some 8210266876799 := by
  refine ⟨?_, ?_, ?_⟩ <;> decide

end Draft

end SignedToken
