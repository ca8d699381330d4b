import Stencil.Time.Shift

/-!
# Zones with changes days apart

The offsets that a search for a wall clock meets belong to instants less than a
day away from that wall clock. If a zone changes its offset at most once in two
days, these instants see one change at most: `exists_change_or_constant`.
-/

namespace Stencil

namespace Timestamp

/-- The timestamp keeps a distance in seconds from both ends of the calendar. -/
def IsWithin (margin : Nat) (t : Timestamp) : Prop :=
  firstSecond + margin ≤ t.seconds ∧ t.seconds + margin ≤ lastSecond

instance (margin : Nat) (t : Timestamp) : Decidable (IsWithin margin t) :=
  inferInstanceAs (Decidable (_ ∧ _))

/-- A checked timestamp is the timestamp, and lies in the calendar. -/
theorem checked_eq_some_iff {t found : Timestamp} :
    t.checked = some found ↔ found = t ∧ t.IsWithin 0 := by
  simp only [checked, inCalendar, IsWithin, Bool.and_eq_true, decide_eq_true_eq]
  split
  · next inside =>
    constructor
    · intro same
      cases same
      exact ⟨rfl, by simpa using inside⟩
    · rintro ⟨rfl, -⟩
      rfl
  · next outside =>
    simp only [reduceCtorEq, false_iff]
    rintro ⟨-, inside⟩
    exact outside (by simpa using inside)

/-- What the calendar holds passes the check. -/
theorem checked_of_isWithin {t : Timestamp} (inside : t.IsWithin 0) : t.checked = some t :=
  checked_eq_some_iff.2 ⟨rfl, inside⟩

/-- What the calendar does not hold fails the check. -/
theorem checked_of_not_isWithin {t : Timestamp} (outside : ¬ t.IsWithin 0) : t.checked = none := by
  rw [Option.eq_none_iff_forall_ne_some]
  intro found same
  exact outside (checked_eq_some_iff.1 same).2

/-- The check fails exactly outside the calendar. -/
theorem checked_eq_none_iff {t : Timestamp} : t.checked = none ↔ ¬ t.IsWithin 0 := by
  refine ⟨fun unchecked inside => ?_, checked_of_not_isWithin⟩
  rw [checked_of_isWithin inside] at unchecked
  cases unchecked

/-- What a check falls back on is in the calendar too. -/
theorem IsWithin.getD_checked {t : Timestamp} (inside : t.IsWithin 0) (other : Timestamp) :
    (other.checked.getD t).IsWithin 0 := by
  by_cases otherInside : other.IsWithin 0
  · rw [checked_of_isWithin otherInside]
    exact otherInside
  · rw [checked_of_not_isWithin otherInside]
    exact inside

/-- What keeps a distance from the ends of the calendar lies in it. -/
theorem IsWithin.inCalendar {margin : Nat} {t : Timestamp} (inside : t.IsWithin margin) :
    t.IsWithin 0 := by
  simp only [IsWithin] at inside ⊢
  omega

/-- Moving a timestamp by less than its distance from the ends keeps it in the calendar. -/
theorem IsWithin.shiftLine {margin : Nat} {t : Timestamp} (inside : t.IsWithin margin)
    {seconds : Int} (back : -margin ≤ seconds) (ahead : seconds ≤ margin) :
    (t.shiftLine seconds).IsWithin 0 := by
  simp only [IsWithin, Timestamp.shiftLine] at inside ⊢
  omega

/-- Moving along the line of seconds adds to them. -/
@[simp] theorem seconds_shiftLine (t : Timestamp) (seconds : Int) :
    (t.shiftLine seconds).seconds = t.seconds + seconds := rfl

/-- Moving twice is moving by the sum. -/
theorem shiftLine_shiftLine (t : Timestamp) (first second : Int) :
    (t.shiftLine first).shiftLine second = t.shiftLine (first + second) := by
  simp [shiftLine, Int.add_assoc]

/-- Moving by nothing leaves a timestamp where it is. -/
@[simp] theorem shiftLine_zero (t : Timestamp) : t.shiftLine 0 = t := by
  simp [shiftLine]

end Timestamp

/-- The changes of the zone come in order, at least two days apart. -/
def ZoneTable.IsSpaced (table : ZoneTable) : Prop :=
  table.changes.Pairwise fun earlier later => earlier.since + 172800 ≤ later.since

instance (table : ZoneTable) : Decidable table.IsSpaced :=
  inferInstanceAs (Decidable (List.Pairwise _ _))

/-- The offset at a second, given the one from before all changes. -/
def offsetAfter (changes : List ZoneChange) (initial seconds : Int) : Int :=
  changes.foldl
    (fun offset change => if change.since ≤ seconds then change.offset else offset) initial

/-- The first change of the list sets the offset that the others may change again. -/
theorem offsetAfter_cons (change : ZoneChange) (rest : List ZoneChange) (initial seconds : Int) :
    offsetAfter (change :: rest) initial seconds =
      offsetAfter rest (if change.since ≤ seconds then change.offset else initial) seconds := rfl

/-- Changes that all lie ahead leave the offset as it is. -/
theorem offsetAfter_of_lt {changes : List ZoneChange} {initial seconds : Int}
    (ahead : ∀ change ∈ changes, seconds < change.since) :
    offsetAfter changes initial seconds = initial := by
  induction changes with
  | nil => rfl
  | cons change rest ih =>
    obtain ⟨notYet, restAhead⟩ := List.forall_mem_cons.1 ahead
    rw [offsetAfter_cons, if_neg (Int.not_le.2 notYet)]
    exact ih restAhead

/-- Within two days the offset is constant, or there is one change: before it one
offset holds, and from it on the offset that it brings. -/
theorem offsetAfter_within_two_days {changes : List ZoneChange}
    (spaced : changes.Pairwise fun earlier later => earlier.since + 172800 ≤ later.since)
    (initial first : Int) :
    (∃ offset, ∀ seconds, first ≤ seconds → seconds < first + 172800 →
      offsetAfter changes initial seconds = offset) ∨
    ∃ change ∈ changes, first < change.since ∧ change.since < first + 172800 ∧
      ∃ before, ∀ seconds, first ≤ seconds → seconds < first + 172800 →
        offsetAfter changes initial seconds =
          if seconds < change.since then before else change.offset := by
  induction changes generalizing initial with
  | nil => exact .inl ⟨initial, fun _ _ _ => rfl⟩
  | cons change rest ih =>
    obtain ⟨restLater, restSpaced⟩ := List.pairwise_cons.1 spaced
    by_cases past : change.since ≤ first
    · -- The change has taken place; what follows decides.
      have skip (seconds : Int) (low : first ≤ seconds) :
          offsetAfter (change :: rest) initial seconds =
            offsetAfter rest change.offset seconds := by
        rw [offsetAfter_cons, if_pos (Int.le_trans past low)]
      rcases ih restSpaced change.offset with
        ⟨offset, constant⟩ | ⟨other, member, above, below, before, values⟩
      · refine .inl ⟨offset, fun seconds low high => ?_⟩
        rw [skip seconds low, constant seconds low high]
      · refine .inr ⟨other, List.mem_cons_of_mem _ member, above, below, before, ?_⟩
        intro seconds low high
        rw [skip seconds low, values seconds low high]
    · -- All later changes are out of reach.
      have value (seconds : Int) (high : seconds < first + 172800) :
          offsetAfter (change :: rest) initial seconds =
            if seconds < change.since then initial else change.offset := by
        rw [offsetAfter_cons, offsetAfter_of_lt]
        · by_cases reached : change.since ≤ seconds
          · rw [if_pos reached, if_neg (Int.not_lt.2 reached)]
          · rw [if_neg reached, if_pos (Int.not_le.1 reached)]
        · intro later member
          have gap := restLater later member
          omega
      by_cases inReach : change.since < first + 172800
      · exact .inr ⟨change, List.mem_cons_self .., Int.not_le.1 past, inReach, initial,
          fun seconds _ high => value seconds high⟩
      · refine .inl ⟨initial, fun seconds _ high => ?_⟩
        rw [value seconds high, if_pos (by omega)]

/-- The instants within two days see one change of the zone at most. -/
theorem ZoneTable.exists_change_or_constant {table : ZoneTable} (spaced : table.IsSpaced)
    (first : Int) :
    (∃ offset, ∀ instant : Instant, first ≤ instant.seconds →
      instant.seconds < first + 172800 → table.offsetAt instant = offset) ∨
    ∃ change ∈ table.changes, first < change.since ∧ change.since < first + 172800 ∧
      ∃ before, ∀ instant : Instant, first ≤ instant.seconds →
        instant.seconds < first + 172800 → table.offsetAt instant =
          if instant.seconds < change.since then before else change.offset := by
  rcases offsetAfter_within_two_days spaced table.initial first with
    ⟨offset, constant⟩ | ⟨change, member, above, below, before, values⟩
  · exact .inl ⟨offset, fun instant => constant instant.seconds⟩
  · exact .inr ⟨change, member, above, below, before, fun instant => values instant.seconds⟩

end Stencil
