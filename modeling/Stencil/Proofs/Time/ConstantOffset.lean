import Stencil.Proofs.Time.Arrival

/-!
# Zones that never change their offset

In such a zone, UTC among them, wall clocks and instants lie apart by the same number of
seconds everywhere. A style that shows nothing but the wall clock shows one text in all
these zones, whatever the offset of the time: `ShowsWallClock.exists_display`. So the
host's zone shows what UTC shows on a clock that is ahead. Main statement:
`outcome_now_host_eq_utc`.
-/

namespace Stencil

section

variable {clock : Clock} {zone : Zone} {east : Int}
  (constant : ∀ instant, clock.zoneOffset zone instant = east)
include constant

/-- Where a zone never changes its offset, a wall clock is shown at the instant that this offset
leads back to. -/
theorem Clock.wallClock_of_zoneOffset_eq {wall : WallClock} (inside : wall.IsWithin 0) :
    clock.wallClock zone (wall.shiftLine (-east)) = .ok wall := by
  rw [wallClock_eq_ok_iff, constant, Timestamp.shiftLine_shiftLine, Int.add_left_neg,
    Timestamp.shiftLine_zero]
  exact ⟨rfl, inside⟩

/-- Where a zone never changes its offset, an offset of any unit that stays within the calendar
leads to the instant that shows what it makes of the wall clock. -/
theorem Clock.shift?_of_zoneOffset_eq (low : -86400 < east) (high : east < 86400)
    {wall : WallClock} (inside : wall.IsWithin 172800) {offset : Offset}
    (laterInside : (offset.moved wall).IsWithin 172800) :
    clock.shift? zone offset (wall.shiftLine (-east)) =
      .ok (some ((offset.moved wall).shiftLine (-east))) := by
  have readingInside := inside.shiftLine (show -(172800 : Int) ≤ -east by omega) (by omega)
  have laterChecked : ((offset.moved wall).shiftLine (-east)).checked = some _ :=
    Timestamp.checked_of_isWithin (laterInside.shiftLine (by omega) (by omega))
  have moveWallClock (wallUnit : ∀ seconds, offset.unit.length ≠ .elapsed seconds) :
      clock.shift? zone offset (wall.shiftLine (-east)) =
        .ok (some ((offset.moved wall).shiftLine (-east))) := by
    rw [shift?_of_wallClock (wallClock_of_zoneOffset_eq constant inside.inCalendar) wallUnit,
      Timestamp.checked_of_isWithin laterInside.inCalendar, Option.bind_some,
      instantAt?_of_zoneOffset_eq constant, laterChecked]
  cases length : offset.unit.length with
  | elapsed seconds =>
    have commutes : offset.moved (wall.shiftLine (-east)) =
        (offset.moved wall).shiftLine (-east) := by
      simp only [Offset.moved, length]
      exact wall.elapse_shiftLine _ _
    rw [shift?_of_elapsed readingInside length, commutes, laterChecked]
  | days count => exact moveWallClock (by simp [length])
  | months count => exact moveWallClock (by simp [length])

end

namespace TimeStyle

/-- The style shows nothing of an instant but its wall clock: by a pattern, or as a date, a
time of day or both. -/
def ShowsWallClock (style : TimeStyle) : Prop :=
  style.pattern ≠ none ∨ style.preset = some .date ∨ style.preset = some .time ∨
    style.preset = some .dateTime

/-- What the offset of the style, if it has one, makes of a wall clock. -/
def moved (style : TimeStyle) (wall : WallClock) : WallClock :=
  match style.offset with
  | some offset => offset.moved wall
  | none => wall

variable {style : TimeStyle}

/-- A zone behind all other modifiers is the one that counts, and nothing else changes. -/
theorem ofModifiers_append_zone (modifiers : List Modifier) (zone : Zone) :
    ofModifiers (modifiers ++ [.zone zone]) = { ofModifiers modifiers with zone } :=
  ofModifiers_append_singleton modifiers _

/-- A style that shows nothing but the wall clock makes one text of it, in whatever zone and
at whatever instant the wall clock is read. -/
theorem ShowsWallClock.exists_render (shows : style.ShowsWallClock) (wall : WallClock) :
    ∃ text, ∀ (zone : Zone) (clock : Clock) (instant : Instant),
      clock.wallClock zone instant = .ok wall →
        ({ style with zone } : TimeStyle).render clock instant = .ok text := by
  cases chosen : style.pattern with
  | some pattern =>
    refine ⟨wall.fill pattern, fun zone clock instant read => ?_⟩
    simp only [render, read]
    rfl
  | none =>
    have named := shows.resolve_left fun some => some chosen
    refine ⟨style.format wall wall (style.preset.getD .iso), fun zone clock instant read => ?_⟩
    simp only [render, read]
    rcases named with preset | preset | preset <;> rw [preset] <;> rfl

/-- A style that shows nothing but the wall clock shows one text in all zones that never change
their offset, at the instants at which they show one wall clock. -/
theorem ShowsWallClock.exists_display (shows : style.ShowsWallClock) {wall : WallClock}
    (inside : wall.IsWithin 172800) (laterInside : (style.moved wall).IsWithin 172800) :
    ∃ text, ∀ (zone : Zone) (clock : Clock) (east : Int),
      (∀ instant, clock.zoneOffset zone instant = east) → -86400 < east → east < 86400 →
        ({ style with zone } : TimeStyle).display clock (wall.shiftLine (-east)) = .ok text := by
  obtain ⟨text, rendered⟩ := shows.exists_render (style.moved wall)
  refine ⟨text, fun zone clock east constant low high => ?_⟩
  have read := Clock.wallClock_of_zoneOffset_eq constant laterInside.inCalendar
  rw [← rendered zone clock _ read]
  rcases Option.eq_none_or_eq_some style.offset with unshifted | ⟨offset, selected⟩
  · simp only [display, moved, unshifted]
  · have movedEq : style.moved wall = offset.moved wall := by rw [moved, selected]
    rw [movedEq] at laterInside ⊢
    have shifted := Clock.shift?_of_zoneOffset_eq constant low high inside laterInside
    have shifts : ({ style with zone } : TimeStyle).offset = some offset := selected
    rw [display_of_shift?_eq shifts shifted, Option.getD_some]

end TimeStyle

/-- On a host whose zone never changes its offset, modifiers whose last zone is the host's show
the same text as, followed by `utc`, on a clock that is ahead by this offset, provided that they
show nothing but the wall clock, and that this is two days within the calendar before and after
the offset of the time. -/
theorem Sources.outcome_now_host_eq_utc {sources ahead : Sources} {east : Int}
    (constant : ∀ instant, sources.clock.offsetAt instant = east) (low : -86400 < east)
    (high : east < 86400)
    (isAhead : ∀ count, ahead.clock.reading count = (sources.clock.reading count).shiftLine east)
    {tokens : List Text} {used : Usage}
    (host : (TimeStyle.ofModifiers (tokens.map Modifier.ofToken)).zone = .host)
    (shows : (TimeStyle.ofModifiers (tokens.map Modifier.ofToken)).ShowsWallClock)
    (inside : ((sources.clock.reading used.readings).shiftLine east).IsWithin 172800)
    (laterInside : ((TimeStyle.ofModifiers (tokens.map Modifier.ofToken)).moved
      ((sources.clock.reading used.readings).shiftLine east)).IsWithin 172800) :
    ∃ text,
      (sources.now (tokens.map Modifier.ofToken)).outcome used =
        (.ok text, { used with readings := used.readings + 1 }) ∧
      (ahead.now ((tokens ++ ["utc".toList]).map Modifier.ofToken)).outcome used =
        (.ok text, { used with readings := used.readings + 1 }) := by
  have utc : (tokens ++ ["utc".toList]).map Modifier.ofToken =
      tokens.map Modifier.ofToken ++ [.zone .utc] := by
    rw [List.map_append]
    rfl
  rw [outcome_now, outcome_now, utc, TimeStyle.ofModifiers_append_zone, isAhead]
  generalize TimeStyle.ofModifiers (tokens.map Modifier.ofToken) = style at *
  obtain ⟨text, displayed⟩ := shows.exists_display inside laterInside
  have inHost := displayed .host sources.clock east constant low high
  have inUtc := displayed .utc ahead.clock 0 ahead.clock.zoneOffset_utc (by decide) (by decide)
  have styleEq : { style with zone := .host } = style := by rw [← host]
  rw [styleEq, Timestamp.shiftLine_shiftLine, Int.add_right_neg, Timestamp.shiftLine_zero] at inHost
  rw [Int.neg_zero, Timestamp.shiftLine_zero] at inUtc
  exact ⟨text, by rw [inHost], by rw [inUtc]⟩

/-- Two hours east of UTC the first of March has begun while it is still February there, and a
month later it is the first of April. -/
theorem Sources.outcome_now_host_eq_utc_nextMonth :
    let sources : Sources := ⟨.ofTable ⟨1709245800, 0⟩ 60 { initial := 7200 }, .ofDraws []⟩
    let ahead : Sources := ⟨.ofTable ⟨1709253000, 0⟩ 60 {}, .ofDraws []⟩
    let tokens : List Text :=
      ["utc".toList, "local".toList, "+1M".toList, "fmt:YYYY-MM-DD HH:mm".toList]
    let style := TimeStyle.ofModifiers (tokens.map Modifier.ofToken)
    let wall : WallClock := (sources.clock.reading 0).shiftLine 7200
    (∀ instant, sources.clock.offsetAt instant = 7200) ∧
      (∀ count, ahead.clock.reading count = (sources.clock.reading count).shiftLine 7200) ∧
      style.zone = .host ∧ style.ShowsWallClock ∧ wall.IsWithin 172800 ∧
      (style.moved wall).IsWithin 172800 ∧
      (sources.now (tokens.map Modifier.ofToken)).outcome {} =
        (.ok "2024-04-01 00:30".toList, { readings := 1 }) ∧
      (ahead.now ((tokens ++ ["utc".toList]).map Modifier.ofToken)).outcome {} =
        (.ok "2024-04-01 00:30".toList, { readings := 1 }) := by
  intro sources ahead tokens style wall
  have constant (instant : Instant) : sources.clock.offsetAt instant = 7200 := rfl
  have isAhead (count : Nat) :
      ahead.clock.reading count = (sources.clock.reading count).shiftLine 7200 := by
    simp only [ahead, sources, Clock.ofTable, Timestamp.shiftLine, Timestamp.mk.injEq, and_true]
    omega
  have host : style.zone = .host := by decide
  have shows : style.ShowsWallClock := .inl (by decide)
  have inside : wall.IsWithin 172800 := by decide
  have laterInside : (style.moved wall).IsWithin 172800 := by decide
  have inUtc : (ahead.now ((tokens ++ ["utc".toList]).map Modifier.ofToken)).outcome {} =
      (.ok "2024-04-01 00:30".toList, { readings := 1 }) := by
    simp only [ahead, tokens]
    rfl
  obtain ⟨text, inHost, sameInUtc⟩ := @outcome_now_host_eq_utc sources ahead 7200 constant
    (by decide) (by decide) isAhead tokens {} host shows inside laterInside
  exact ⟨constant, isAhead, host, shows, inside, laterInside,
    inHost.trans (sameInUtc.symm.trans inUtc), inUtc⟩

end Stencil
