import Stencil.Proofs.Time.Zone

/-!
# Words wide enough for the calendar

Durations and numbers of months are held in words of a fixed width. What does not fit
in them would lead out of the calendar from everywhere in it, so a time that starts
within the calendar never meets the limits of the words: `elapse?_eq`.
-/

namespace Stencil

/-- A number fits into a word if it lies between the least and the greatest of the word. -/
theorem signed?_eq_some_iff {largest : Nat} {n found : Int} :
    signed? largest n = some found ↔ found = n ∧ -(largest : Int) - 1 ≤ n ∧ n ≤ largest := by
  unfold signed?
  split
  · next fits => rw [Option.some.injEq, eq_comm, and_iff_left fits]
  · next wide =>
    constructor
    · intro isSome
      cases isSome
    · rintro ⟨-, fits⟩
      exact absurd fits wide

/-- A word has 64 bits. -/
theorem word?_eq_some_iff {n found : Int} :
    word? n = some found ↔
      found = n ∧ -0x7fffffffffffffff - 1 ≤ n ∧ n ≤ 0x7fffffffffffffff :=
  signed?_eq_some_iff

/-- A half word has 32 bits. -/
theorem halfWord?_eq_some_iff {n found : Int} :
    halfWord? n = some found ↔ found = n ∧ -0x7fffffff - 1 ≤ n ∧ n ≤ 0x7fffffff :=
  signed?_eq_some_iff

namespace Timestamp

/-- The first second of the calendar as a number. -/
theorem firstSecond_eq : firstSecond = -8334601228800 := by decide

/-- The last second of the calendar as a number. -/
theorem lastSecond_eq : lastSecond = 8210266876799 := by decide

/-- Outside a leap second the time that passes is added. -/
theorem elapse_of_nanos_lt {t : Timestamp} (noLeapSecond : t.nanos < nanosPerSecond)
    (seconds : Int) : t.elapse seconds = t.shiftLine seconds :=
  if_pos (.inl noLeapSecond)

/-- Outside a leap second the nanoseconds stay while whole seconds pass. -/
theorem nanos_elapse {t : Timestamp} (noLeapSecond : t.nanos < nanosPerSecond) (seconds : Int) :
    (t.elapse seconds).nanos = t.nanos := by
  rw [elapse_of_nanos_lt noLeapSecond, shiftLine]

/-- Nothing is left behind while no time passes, a leap second included. -/
@[simp] theorem elapse_zero (t : Timestamp) : t.elapse 0 = t := by
  rw [elapse, if_pos (.inr rfl), shiftLine_zero]

/-- Time passes by the same rules on every clock. -/
theorem elapse_shiftLine (t : Timestamp) (east seconds : Int) :
    (t.shiftLine east).elapse seconds = (t.elapse seconds).shiftLine east := by
  unfold elapse shiftLine
  split
  · simp only [Int.add_right_comm]
  · split <;> simp only [mk.injEq, and_true] <;> omega

/-- A time that cannot be held as a duration leads out of the calendar. -/
theorem not_isWithin_elapse {t : Timestamp} (inside : t.IsWithin 0) {seconds : Int}
    (long : maxDuration < seconds.natAbs) : ¬ (t.elapse seconds).IsWithin 0 := by
  have distance : t.seconds + seconds ≤ (t.elapse seconds).seconds ∧
      (t.elapse seconds).seconds ≤ t.seconds + seconds + 1 := by
    unfold elapse shiftLine
    split
    · simp only
      omega
    · split <;> simp only <;> omega
  have limit : maxDuration = 9223372036854775 := by decide
  simp only [IsWithin, firstSecond_eq, lastSecond_eq] at inside ⊢
  omega

/-- From within the calendar only the calendar limits the time that can pass. -/
theorem elapse?_eq {t : Timestamp} (inside : t.IsWithin 0) (seconds : Int) :
    t.elapse? seconds = (t.elapse seconds).checked := by
  unfold elapse? duration?
  split
  · rfl
  · next long =>
    rw [checked_of_not_isWithin (not_isWithin_elapse inside (Nat.not_le.1 long))]
    rfl

end Timestamp
end Stencil
