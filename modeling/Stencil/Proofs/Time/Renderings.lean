import Stencil.Proofs.Builtin.EffectiveModifiers
import Stencil.Proofs.Builtin.Values
import Stencil.Proofs.Time.Arrival
import Stencil.Proofs.Time.Filling

/-!
# Renderings of one reading

The zone and the offset of a style alone decide which instant and which wall clock are rendered,
and whether any can be: `Reaches`. The named formats and the patterns then write texts of the same
instant and the same wall clock, which agree outside leap seconds and where the year has four
digits. Main statement: `renderings_agree`.
-/

namespace Stencil

/-! ## Texts of one wall clock -/

open Pattern in
/-- A pattern is filled in as its cells are. -/
theorem WallClock.fill_eq_of_cells {pattern : Text} {cells : List Cell}
    (filled : TimeField.all.foldl (fun cells field => Cell.fillFirst field cells)
      (pattern.map .kept) = cells) (wall : WallClock) :
    wall.fill pattern = cells.flatMap (Cell.text wall) := by
  rw [← filled, ← Cell.foldl_replaceFirst_text, Cell.text_map_kept]
  rfl

namespace Timestamp

/-- A year of four digits is written without a sign. -/
theorem signedYear_eq_yearText {year : Int} (low : 0 ≤ year) (high : year ≤ 9999) :
    signedYear year = TimeField.yearText year := by
  rw [signedYear, TimeField.yearText, if_neg (Int.not_lt.2 low), if_pos high,
    if_neg (Int.not_lt.2 low)]

/-- Outside a leap second the milliseconds of the second are those that a pattern shows. -/
theorem milliText_eq_value {t : Timestamp} (noLeapSecond : t.nanos < nanosPerSecond) :
    t.milliText = TimeField.value t .millis := by
  simp only [nanosPerSecond] at noLeapSecond
  rw [milliText, TimeField.value, nanosPerSecond, nanosPerMilli]
  congr 1
  omega

/-- Outside a leap second the seconds are those that a pattern shows. -/
theorem timeText_eq {t : Timestamp} (noLeapSecond : t.nanos < nanosPerSecond) :
    t.timeText = Decimal.padded 2 t.hour ++ ':' :: Decimal.padded 2 t.minute ++
      ':' :: Decimal.padded 2 t.second := by
  rw [timeText, Nat.div_eq_of_lt noLeapSecond, Nat.add_zero]

end Timestamp

section

open Pattern

variable {wall : WallClock} (noLeapSecond : wall.nanos < nanosPerSecond)
  (low : 0 ≤ wall.date.year) (high : wall.date.year ≤ 9999)
include noLeapSecond low high

/-- A pattern for the day and the time of day. -/
theorem WallClock.fill_dateTime :
    wall.fill "YYYY-MM-DD HH:mm:ss".toList = wall.dateText ++ ' ' :: wall.timeText := by
  have cells : TimeField.all.foldl (fun cells field => Cell.fillFirst field cells)
      ("YYYY-MM-DD HH:mm:ss".toList.map .kept) =
      [.filled .fullYear, .kept '-', .filled .paddedMonth, .kept '-', .filled .paddedDay, .kept ' ',
        .filled .paddedHour, .kept ':', .filled .minute, .kept ':', .filled .second] := by
    decide
  rw [fill_eq_of_cells cells, Timestamp.timeText_eq noLeapSecond, Timestamp.dateText,
    Timestamp.signedYear_eq_yearText low high]
  simp [Cell.text, TimeField.value]

/-- A pattern for the ISO 8601 text with its mark of UTC. -/
theorem WallClock.fill_iso :
    wall.fill "YYYY-MM-DDTHH:mm:ss.SSSZ".toList = wall.isoText ++ ['Z'] := by
  have cells : TimeField.all.foldl (fun cells field => Cell.fillFirst field cells)
      ("YYYY-MM-DDTHH:mm:ss.SSSZ".toList.map .kept) =
      [.filled .fullYear, .kept '-', .filled .paddedMonth, .kept '-', .filled .paddedDay, .kept 'T',
        .filled .paddedHour, .kept ':', .filled .minute, .kept ':', .filled .second, .kept '.',
        .filled .millis, .kept 'Z'] := by
    decide
  rw [fill_eq_of_cells cells, Timestamp.isoText, Timestamp.milliText_eq_value noLeapSecond,
    Timestamp.timeText_eq noLeapSecond, Timestamp.dateText,
    Timestamp.signedYear_eq_yearText low high]
  simp [Cell.text, TimeField.value]

end

/-! ## What is rendered -/

namespace Timestamp

/-- Outside a leap second time that passes within the calendar keeps the nanoseconds. -/
theorem nanos_of_elapse?_eq_some {t later : Timestamp} (noLeapSecond : t.nanos < nanosPerSecond)
    {seconds : Int} (elapsed : t.elapse? seconds = some later) : later.nanos = t.nanos := by
  obtain ⟨duration, -, checked⟩ := Option.bind_eq_some_iff.1 elapsed
  rw [(checked_eq_some_iff.1 checked).1, nanos_elapse noLeapSecond]

end Timestamp

/-- No offset moves the nanoseconds of a reading outside leap seconds. -/
theorem Offset.nanos_moved (offset : Offset) {t : Timestamp}
    (noLeapSecond : t.nanos < nanosPerSecond) : (offset.moved t).nanos = t.nanos := by
  unfold moved
  split
  · exact Timestamp.nanos_elapse noLeapSecond _
  · exact Timestamp.nanos_elapse noLeapSecond _
  · rfl

/-- Seconds, minutes and hours are elapsed time. -/
theorem TimeUnit.exists_elapsed {unit : TimeUnit} (member : unit ∈ [.seconds, .minutes, .hours]) :
    ∃ seconds, unit.length = .elapsed seconds := by
  cases unit with
  | seconds | minutes | hours => exact ⟨_, rfl⟩
  | days | weeks | months | years => exact absurd member (by decide)

namespace Clock

variable {clock : Clock} {zone : Zone} {wall : WallClock} {reading instant : Instant}
  {offset : Offset}

/-- A shift keeps the nanoseconds of a reading outside leap seconds. -/
theorem nanos_of_shift?_eq_some (noLeapSecond : reading.nanos < nanosPerSecond)
    (shifted : clock.shift? zone offset reading = .ok (some instant)) :
    instant.nanos = reading.nanos := by
  by_cases elapsed : ∃ seconds, offset.unit.length = .elapsed seconds
  · obtain ⟨seconds, length⟩ := elapsed
    simp only [shift?, length, Except.ok.injEq] at shifted
    exact Timestamp.nanos_of_elapse?_eq_some noLeapSecond shifted
  have wallUnit := not_exists.1 elapsed
  cases read : clock.wallClock zone reading with
  | error fault => cases shifted.symm.trans (shift?_of_wallClock_eq_error read wallUnit)
  | ok wall =>
    have sameNanos := nanos_of_wallClock read
    rw [shift?_of_wallClock read wallUnit, Except.ok.injEq] at shifted
    obtain ⟨target, checked, settled⟩ := Option.bind_eq_some_iff.1 shifted
    obtain ⟨rfl, -⟩ := Timestamp.checked_eq_some_iff.1 checked
    -- Every instant that is tried keeps the nanoseconds of the wall clock that is searched for.
    rw [(settle_eq_some_iff.1 settled).2, nanos_candidate,
      offset.nanos_moved (sameNanos ▸ noLeapSecond), sameNanos]

/-- A shifted reading has the nanoseconds of the reading, also where the offset is
disregarded. -/
theorem nanos_of_shift_eq_ok (noLeapSecond : reading.nanos < nanosPerSecond)
    (shifted : clock.shift zone offset reading = .ok instant) :
    instant.nanos = reading.nanos := by
  obtain ⟨result, found, same⟩ := Except.bind_eq_ok_iff.1 shifted
  cases same
  cases result with
  | none => rfl
  | some later => exact nanos_of_shift?_eq_some noLeapSecond found

/-- Elapsed time is the same in all zones. -/
theorem shift_eq_of_elapsed {seconds : Nat} (length : offset.unit.length = .elapsed seconds)
    (first second : Zone) :
    clock.shift first offset reading = clock.shift second offset reading := by
  simp only [shift, shift?, length]

end Clock

namespace TimeStyle

/-- The style that tokens select. -/
def ofTokens (tokens : List Text) : TimeStyle :=
  ofModifiers (tokens.map Modifier.ofToken)

variable {style : TimeStyle} {clock : Clock} {reading instant : Instant} {wall : WallClock}

/-- Outside a leap second no leap second is rendered. -/
theorem Reaches.nanos_lt (reaches : style.Reaches clock reading instant wall)
    (noLeapSecond : reading.nanos < nanosPerSecond) : wall.nanos < nanosPerSecond := by
  obtain ⟨found, read⟩ := reaches
  have sameNanos : instant.nanos = reading.nanos := by
    unfold shifted at found
    split at found
    · exact Clock.nanos_of_shift_eq_ok noLeapSecond found
    · cases found
      rfl
  rw [Clock.nanos_of_wallClock read, sameNanos]
  exact noLeapSecond

/-- In UTC the wall clock is the instant. -/
theorem Reaches.wall_eq_of_utc (reaches : style.Reaches clock reading instant wall)
    (utc : style.zone = .utc) : wall = instant := by
  obtain ⟨rfl, -⟩ := Clock.wallClock_eq_ok_iff.1 reaches.2
  rw [utc, Clock.zoneOffset_utc, Timestamp.shiftLine_zero]

/-- With no offset but of elapsed time a reading is rendered as the same instant in all zones. -/
theorem Reaches.instant_eq {first second : Zone} {other : Instant} {otherWall : WallClock}
    (elapsed : ∀ offset, style.offset = some offset →
      ∃ seconds, offset.unit.length = .elapsed seconds)
    (reaches : (style.select (.zone first)).Reaches clock reading instant wall)
    (alsoReaches : (style.select (.zone second)).Reaches clock reading other otherWall) :
    instant = other := by
  have same : (style.select (.zone first)).shifted clock reading =
      (style.select (.zone second)).shifted clock reading := by
    unfold shifted select
    cases shifts : style.offset with
    | none => rfl
    | some offset =>
      obtain ⟨seconds, length⟩ := elapsed offset shifts
      exact Clock.shift_eq_of_elapsed length first second
  exact Except.ok.inj (reaches.1.symm.trans (same.trans alsoReaches.1))

/-- Without a pattern a named format is written. -/
theorem write_select_preset (noPattern : style.pattern = none) (preset : Preset) :
    (style.select (.preset preset)).write instant wall = style.format instant wall preset := by
  simp only [write, select, noPattern]
  cases preset <;> rfl

/-- A further token has the last say on what it selects. -/
theorem ofTokens_append_singleton (tokens : List Text) {token : Text} {modifier : Modifier}
    (isClass : Modifier.ofToken token = modifier) :
    ofTokens (tokens ++ [token]) = (ofTokens tokens).select modifier := by
  rw [ofTokens, List.map_append, List.map_singleton, isClass, ofModifiers_append_singleton,
    ofTokens]

/-- Tokens without a pattern select none. -/
theorem pattern_ofTokens_eq_none {tokens : List Text}
    (noPattern : ∀ token ∈ tokens, (Modifier.ofToken token).kind? ≠ some .pattern) :
    (ofTokens tokens).pattern = none := by
  have nothing : (tokens.map Modifier.ofToken).filterMap Modifier.toPattern? = [] := by
    refine List.filterMap_eq_nil_iff.2 (List.forall_mem_map.2 fun token member => ?_)
    exact Modifier.reads_toPattern?.eq_none (noPattern token member)
  rw [ofTokens, ofModifiers_eq, Modifier.effective, nothing]
  rfl

end TimeStyle

namespace Sources

/-- The tokens show the text at the next reading of the clock. -/
def Shows (sources : Sources) (used : Usage) (tokens : List Text) (text : Text) : Prop :=
  (sources.now (tokens.map Modifier.ofToken)).outcome used =
    (.ok text, { used with readings := used.readings + 1 })

instance (sources : Sources) (used : Usage) (tokens : List Text) (text : Text) :
    Decidable (sources.Shows used tokens text) :=
  inferInstanceAs (Decidable (_ = _))

/-- Both lists of tokens show one text at the next reading of the clock. -/
def ShowAlike (sources : Sources) (used : Usage) (first second : List Text) : Prop :=
  ∃ text, sources.Shows used first text ∧ sources.Shows used second text

variable {sources : Sources} {used : Usage} {tokens : List Text} {instant : Instant}
  {wall : WallClock}

/-- What shows the same as tokens shows the text that they show. -/
theorem ShowAlike.shows {first second : List Text} (alike : sources.ShowAlike used first second)
    {text : Text} (shows : sources.Shows used second text) : sources.Shows used first text := by
  obtain ⟨other, otherShown, alsoShows⟩ := alike
  cases shows.symm.trans alsoShows
  exact otherShown

/-- Tokens show what their style writes of what it reaches. -/
theorem shows_iff {text : Text} :
    sources.Shows used tokens text ↔
      ∃ instant wall, (TimeStyle.ofTokens tokens).Reaches sources.clock
        (sources.clock.reading used.readings) instant wall ∧
        (TimeStyle.ofTokens tokens).write instant wall = text := by
  rw [Shows, outcome_now, Prod.mk.injEq, ← TimeStyle.ofTokens, TimeStyle.display_eq_ok_iff]
  exact and_iff_left rfl

section

variable (reaches : (TimeStyle.ofTokens tokens).Reaches sources.clock
  (sources.clock.reading used.readings) instant wall)
include reaches

/-- A pattern behind the tokens is filled in. -/
theorem shows_append_pattern {token pattern : Text}
    (named : Modifier.ofToken token = .pattern pattern) :
    sources.Shows used (tokens ++ [token]) (wall.fill pattern) := by
  rw [shows_iff, TimeStyle.ofTokens_append_singleton tokens named]
  exact ⟨instant, wall, reaches, rfl⟩

/-- A named format behind tokens without a pattern is written. -/
theorem shows_append_preset {word : Text} {preset : Preset}
    (named : Modifier.ofToken word = .preset preset)
    (noPattern : ∀ token ∈ tokens, (Modifier.ofToken token).kind? ≠ some .pattern) :
    sources.Shows used (tokens ++ [word])
      ((TimeStyle.ofTokens tokens).format instant wall preset) := by
  rw [shows_iff, TimeStyle.ofTokens_append_singleton tokens named]
  have noneSelected := TimeStyle.pattern_ofTokens_eq_none noPattern
  exact ⟨instant, wall, reaches, TimeStyle.write_select_preset noneSelected preset⟩

end

/-- Where tokens show something in a zone, all named formats show one instant and one wall
clock. -/
theorem exists_shows_of_zone {word : Text} {zone : Zone}
    (named : Modifier.ofToken word = .zone zone)
    (noPattern : ∀ token ∈ tokens, (Modifier.ofToken token).kind? ≠ some .pattern)
    (shown : ∃ text, sources.Shows used (tokens ++ [word]) text) :
    let style := (TimeStyle.ofTokens tokens).select (.zone zone)
    ∃ instant wall,
      style.Reaches sources.clock (sources.clock.reading used.readings) instant wall ∧
      ∀ format preset, Modifier.ofToken format = .preset preset →
        sources.Shows used (tokens ++ [word, format]) (style.format instant wall preset) := by
  intro style
  have stillNone : ∀ token ∈ tokens ++ [word], (Modifier.ofToken token).kind? ≠ some .pattern := by
    refine List.forall_mem_append.2 ⟨noPattern, List.forall_mem_singleton.2 ?_⟩
    rw [named]
    exact (nomatch ·)
  have selected : TimeStyle.ofTokens (tokens ++ [word]) = style :=
    TimeStyle.ofTokens_append_singleton tokens named
  obtain ⟨text, shows⟩ := shown
  obtain ⟨instant, wall, reaches, -⟩ := shows_iff.1 shows
  refine ⟨instant, wall, selected ▸ reaches, fun format preset isFormat => ?_⟩
  rw [List.append_cons, ← selected]
  exact shows_append_preset reaches isFormat stillNone

/-- Elapsed time leads both zones to one instant, and they count and write it alike. -/
theorem showAlike_zones
    (noPattern : ∀ token ∈ tokens, (Modifier.ofToken token).kind? ≠ some .pattern)
    (elapsed : ∀ offset, (TimeStyle.ofTokens tokens).offset = some offset →
      offset.unit ∈ [.seconds, .minutes, .hours])
    (inUtc : ∃ text, sources.Shows used (tokens ++ ["utc".toList]) text)
    (onHost : ∃ text, sources.Shows used (tokens ++ ["local".toList]) text) :
    sources.ShowAlike used (tokens ++ ["utc".toList, "unix".toList])
        (tokens ++ ["local".toList, "unix".toList]) ∧
      sources.ShowAlike used (tokens ++ ["utc".toList, "unixms".toList])
        (tokens ++ ["local".toList, "unixms".toList]) ∧
      ∃ text, sources.Shows used (tokens ++ ["local".toList, "iso".toList]) text ∧
        sources.Shows used (tokens ++ ["utc".toList, "iso".toList]) (text ++ ['Z']) := by
  obtain ⟨instant, wall, reaches, shows⟩ :=
    @exists_shows_of_zone sources used tokens "utc".toList .utc rfl noPattern inUtc
  obtain ⟨other, otherWall, alsoReaches, alsoShows⟩ :=
    @exists_shows_of_zone sources used tokens "local".toList .host rfl noPattern onHost
  have sameInstant : instant = other := reaches.instant_eq
    (fun offset shifts => TimeUnit.exists_elapsed (elapsed offset shifts)) alsoReaches
  subst sameInstant
  exact ⟨⟨_, shows _ .unix rfl, alsoShows _ .unix rfl⟩,
    ⟨_, shows _ .unixMillis rfl, alsoShows _ .unixMillis rfl⟩,
    _, alsoShows _ .iso rfl, shows _ .iso rfl⟩

/-- Tokens without a pattern that show anything show a date, a time of day, and both with a
space in between, all of one wall clock. Outside leap seconds and in a year of four digits a
pattern shows the same, and in UTC another pattern shows the ISO 8601 text. With no offset but
of elapsed time both zones show the same counts of seconds and milliseconds and the same
ISO 8601 text, except for the mark of UTC. -/
theorem renderings_agree
    (noPattern : ∀ token ∈ tokens, (Modifier.ofToken token).kind? ≠ some .pattern)
    (shown : ∃ text, sources.Shows used tokens text) :
    let style := TimeStyle.ofTokens tokens
    let reading := sources.clock.reading used.readings
    ∃ instant wall, style.Reaches sources.clock reading instant wall ∧
      (∃ date time, sources.Shows used (tokens ++ ["date".toList]) date ∧
        sources.Shows used (tokens ++ ["time".toList]) time ∧
        sources.Shows used (tokens ++ ["datetime".toList]) (date ++ ' ' :: time)) ∧
      (reading.nanos < nanosPerSecond → 0 ≤ wall.date.year → wall.date.year ≤ 9999 →
        sources.ShowAlike used (tokens ++ ["fmt:YYYY-MM-DD HH:mm:ss".toList])
          (tokens ++ ["datetime".toList]) ∧
        (style.zone = .utc →
          sources.ShowAlike used (tokens ++ ["fmt:YYYY-MM-DDTHH:mm:ss.SSSZ".toList])
            (tokens ++ ["iso".toList]))) ∧
      ((∀ offset, style.offset = some offset → offset.unit ∈ [.seconds, .minutes, .hours]) →
        (∃ text, sources.Shows used (tokens ++ ["utc".toList]) text) →
        (∃ text, sources.Shows used (tokens ++ ["local".toList]) text) →
        sources.ShowAlike used (tokens ++ ["utc".toList, "unix".toList])
          (tokens ++ ["local".toList, "unix".toList]) ∧
        sources.ShowAlike used (tokens ++ ["utc".toList, "unixms".toList])
          (tokens ++ ["local".toList, "unixms".toList]) ∧
        ∃ text, sources.Shows used (tokens ++ ["local".toList, "iso".toList]) text ∧
          sources.Shows used (tokens ++ ["utc".toList, "iso".toList]) (text ++ ['Z'])) := by
  intro style reading
  obtain ⟨text, shows⟩ := shown
  obtain ⟨instant, wall, reaches, -⟩ := shows_iff.1 shows
  have inFormat (word : Text) (preset : Preset) (named : Modifier.ofToken word = .preset preset) :
      sources.Shows used (tokens ++ [word]) (style.format instant wall preset) :=
    shows_append_preset reaches named noPattern
  refine ⟨instant, wall, reaches, ?_, fun noLeapSecond low high => ⟨?_, fun utc => ?_⟩, ?_⟩
  · exact ⟨_, _, inFormat _ .date rfl, inFormat _ .time rfl, inFormat _ .dateTime rfl⟩
  · have filled := @shows_append_pattern sources used tokens instant wall reaches
      "fmt:YYYY-MM-DD HH:mm:ss".toList "YYYY-MM-DD HH:mm:ss".toList rfl
    rw [WallClock.fill_dateTime (reaches.nanos_lt noLeapSecond) low high] at filled
    exact ⟨_, filled, inFormat _ .dateTime rfl⟩
  · obtain rfl : wall = instant := reaches.wall_eq_of_utc utc
    have filled := @shows_append_pattern sources used tokens wall wall reaches
      "fmt:YYYY-MM-DDTHH:mm:ss.SSSZ".toList "YYYY-MM-DDTHH:mm:ss.SSSZ".toList rfl
    rw [WallClock.fill_iso (reaches.nanos_lt noLeapSecond) low high] at filled
    have iso := inFormat "iso".toList .iso rfl
    rw [TimeStyle.format, utc] at iso
    exact ⟨_, filled, iso⟩
  · exact showAlike_zones noPattern

/-- An hour and a half after half past ten all formats show noon. -/
theorem renderings_agree_noon :
    let sources : Sources := ⟨.ofTable ⟨1718447445, 123456789⟩ 60 { initial := 7200 }, .ofDraws []⟩
    let tokens : List Text := ["+90m".toList]
    (∀ token ∈ tokens, (Modifier.ofToken token).kind? ≠ some .pattern) ∧
      (∃ text, sources.Shows {} tokens text) ∧
      (sources.clock.reading 0).nanos < nanosPerSecond ∧
      (TimeStyle.ofTokens tokens).zone = .utc ∧
      sources.Shows {} (tokens ++ ["datetime".toList]) "2024-06-15 12:00:45".toList ∧
      sources.Shows {} (tokens ++ ["fmt:YYYY-MM-DD HH:mm:ss".toList])
        "2024-06-15 12:00:45".toList ∧
      sources.Shows {} (tokens ++ ["fmt:YYYY-MM-DDTHH:mm:ss.SSSZ".toList])
        "2024-06-15T12:00:45.123Z".toList ∧
      sources.Shows {} (tokens ++ ["utc".toList, "unix".toList]) "1718452845".toList ∧
      sources.Shows {} (tokens ++ ["local".toList, "iso".toList])
        "2024-06-15T12:00:45.123".toList := by
  intro sources tokens
  have noPattern : ∀ token ∈ tokens, (Modifier.ofToken token).kind? ≠ some .pattern := by decide
  have noLeapSecond : (sources.clock.reading 0).nanos < nanosPerSecond := by decide
  have dateTimeShown : sources.Shows {} (tokens ++ ["datetime".toList])
      "2024-06-15 12:00:45".toList := by decide
  have isoShown : sources.Shows {} (tokens ++ ["iso".toList])
      "2024-06-15T12:00:45.123Z".toList := by decide
  have shown : ∃ text, sources.Shows {} tokens text :=
    ⟨"2024-06-15T12:00:45.123Z".toList, by decide⟩
  have inUtc : ∃ text, sources.Shows {} (tokens ++ ["utc".toList]) text :=
    ⟨"2024-06-15T12:00:45.123Z".toList, by decide⟩
  have onHost : ∃ text, sources.Shows {} (tokens ++ ["local".toList]) text :=
    ⟨"2024-06-15T12:00:45.123".toList, by decide⟩
  obtain ⟨instant, wall, reaches, -, patterns, zones⟩ :=
    @renderings_agree sources {} tokens noPattern shown
  have year : wall.date.year = 2024 := by
    obtain ⟨shifted, read⟩ := reaches
    cases shifted
    cases read
    decide
  obtain ⟨dateTime, iso⟩ := patterns noLeapSecond (by omega) (by omega)
  obtain ⟨unix, -, text, isoOnHost, isoInUtc⟩ := zones (by decide) inUtc onHost
  have unixOnHost : sources.Shows {} (tokens ++ ["local".toList, "unix".toList])
      "1718452845".toList := by decide
  have markedIso : sources.Shows {} (tokens ++ ["utc".toList, "iso".toList])
      ("2024-06-15T12:00:45.123".toList ++ ['Z']) := by decide
  have sameText : text = "2024-06-15T12:00:45.123".toList :=
    List.append_cancel_right (Except.ok.inj (congrArg Prod.fst (isoInUtc.symm.trans markedIso)))
  exact ⟨noPattern, shown, noLeapSecond, rfl, dateTimeShown, dateTime.shows dateTimeShown,
    (iso rfl).shows isoShown, unix.shows unixOnHost, sameText ▸ isoOnHost⟩

end Sources

end Stencil
