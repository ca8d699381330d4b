import Stencil.Builtin
import Stencil.Proofs.Eval
import Stencil.Proofs.Time.Slots

/-!
# What builtins write

A time is rendered as one instant with one wall clock, and its style writes these in a named
format or in a pattern of one of the modifiers (`display_eq_ok_iff`). So the value of a builtin
has one of the four shapes of `Writes`, and what holds of the texts of every shape holds of all
values. In particular none is empty.
-/

namespace Stencil

/-! ## Texts of a time -/

namespace TimeStyle

/-- The instant that a reading is rendered as. -/
def shifted (style : TimeStyle) (clock : Clock) (reading : Instant) : Except Fault Instant :=
  match style.offset with
  | some offset => clock.shift style.zone offset reading
  | none => .ok reading

/-- The reading is rendered as the instant, and the zone of the style shows it as the wall
clock. -/
def Reaches (style : TimeStyle) (clock : Clock) (reading instant : Instant)
    (wall : WallClock) : Prop :=
  style.shifted clock reading = .ok instant ∧ clock.wallClock style.zone instant = .ok wall

/-- What the style writes of an instant and its wall clock. -/
def write (style : TimeStyle) (instant : Instant) (wall : WallClock) : Text :=
  match style.pattern with
  | some pattern => wall.fill pattern
  | none => style.format instant wall (style.preset.getD .iso)

/-- A reading is displayed exactly if it is rendered as some instant with some wall clock. -/
theorem display_eq_ok_iff {style : TimeStyle} {clock : Clock} {reading : Instant} {text : Text} :
    style.display clock reading = .ok text ↔
      ∃ instant wall, style.Reaches clock reading instant wall ∧
        style.write instant wall = text := by
  have parts : style.display clock reading = style.shifted clock reading >>= fun instant =>
      clock.wallClock style.zone instant >>= fun wall => .ok (style.write instant wall) := by
    unfold display shifted render write
    cases style.offset <;> cases style.pattern <;> rfl
  simp only [parts, Except.bind_eq_ok_iff, Except.ok.injEq, Reaches, and_assoc, exists_and_left]

/-- The pattern of a style is that of one of the modifiers. -/
theorem mem_of_pattern_ofModifiers {modifiers : List Modifier} {pattern : Text}
    (chosen : (ofModifiers modifiers).pattern = some pattern) :
    .pattern pattern ∈ modifiers := by
  have from_start (style : TimeStyle) (selected : (modifiers.foldl select style).pattern =
      some pattern) : style.pattern = some pattern ∨ .pattern pattern ∈ modifiers := by
    clear chosen
    induction modifiers generalizing style with
    | nil => exact .inl selected
    | cons modifier rest ih =>
      rcases ih _ selected with atStart | later
      · cases modifier with
        | pattern other =>
          cases atStart
          exact .inr (List.mem_cons_self ..)
        | zone | preset | offset | range | unrecognized => exact .inl atStart
      · exact .inr (List.mem_cons_of_mem _ later)
  rcases from_start {} chosen with atStart | member
  · cases atStart
  · exact member

end TimeStyle

/-! ## The shapes of values -/

namespace Builtin

/-- The texts that a builtin can write with the modifiers. -/
inductive Writes (modifiers : List Modifier) : Text → Prop
  | format (style : TimeStyle) (instant : Instant) (wall : WallClock) (preset : Preset) :
      Writes modifiers (style.format instant wall preset)
  | fill (wall : WallClock) {pattern : Text} (member : .pattern pattern ∈ modifiers) :
      Writes modifiers (wall.fill pattern)
  | identifier (bytes : Vector UInt8 16) : Writes modifiers (Uuid.text bytes)
  | number (n : Nat) : Writes modifiers (Decimal.write n)

/-- A time is written as its last pattern says, or in the format of a preset. -/
theorem writes_write (modifiers : List Modifier) (instant : Instant) (wall : WallClock) :
    Writes modifiers ((TimeStyle.ofModifiers modifiers).write instant wall) := by
  unfold TimeStyle.write
  split
  · next pattern chosen => exact .fill wall (TimeStyle.mem_of_pattern_ofModifiers chosen)
  · exact .format _ instant wall _

/-- The value of a builtin has one of the shapes. -/
theorem ensures_writes (builtin : Builtin) (sources : Sources) (default : Range)
    (modifiers : List Modifier) :
    (builtin.value sources default modifiers).Ensures (Writes modifiers) := by
  cases builtin with
  | now =>
    refine .bind_of_forall fun reading => .ofExcept fun text displayed => ?_
    obtain ⟨instant, wall, -, rfl⟩ := TimeStyle.display_eq_ok_iff.1 displayed
    exact writes_write modifiers instant wall
  | uuid => exact .bind_of_forall fun bytes => .pure (.identifier bytes)
  | random => exact .bind_of_forall fun number => .pure (.number number.toNat)

end Builtin

/-! ## No value is empty -/

/-- Replacing a word by something leaves something. -/
theorem Text.replaceFirst_ne_nil {text word value : Text} (notEmpty : text ≠ [])
    (valueNotEmpty : value ≠ []) : text.replaceFirst word value ≠ [] := by
  cases text with
  | nil => exact absurd rfl notEmpty
  | cons c rest =>
    unfold Text.replaceFirst
    split
    · exact List.append_ne_nil_of_left_ne_nil valueNotEmpty _
    · exact List.cons_ne_nil _ _

/-- Something is left of a pattern when its fields are filled in. -/
theorem WallClock.fill_ne_nil (wall : WallClock) {pattern : Text} (notEmpty : pattern ≠ []) :
    WallClock.fill wall pattern ≠ [] :=
  List.foldlRecOn (motive := (· ≠ [])) _ _ notEmpty fun _ textNotEmpty field _ =>
    Text.replaceFirst_ne_nil textNotEmpty (field.value_ne_nil wall)

/-- A number has a digit at least. -/
theorem Decimal.writeInt_ne_nil (n : Int) : writeInt n ≠ [] := by
  unfold writeInt
  split
  · exact List.cons_ne_nil _ _
  · exact write_ne_nil _

/-- Every preset shows something. -/
theorem TimeStyle.format_ne_nil (style : TimeStyle) (instant : Instant) (wall : WallClock)
    (preset : Preset) : style.format instant wall preset ≠ [] := by
  cases preset with
  | unix => exact Decimal.writeInt_ne_nil _
  | unixMillis => exact Decimal.writeInt_ne_nil _
  | date => simp [format, Timestamp.dateText]
  | time => simp [format, Timestamp.timeText]
  | dateTime => simp [format]
  | iso =>
    unfold format
    cases style.zone <;> simp [Timestamp.isoText]

/-- An identifier is not the empty text. -/
theorem Uuid.text_ne_nil (bytes : Vector UInt8 16) : text bytes ≠ [] := by
  simp [text]

namespace Modifier

/-- A token that is a pattern is one because of its keyword. -/
theorem pattern?_of_ofToken_eq_pattern {token pattern : Text}
    (read : ofToken token = .pattern pattern) : pattern? token = some pattern := by
  cases found : pattern? token with
  | some other => simpa [ofToken, found] using read
  | none =>
    cases hasZone : Zone.ofKeyword? token <;> cases hasPreset : Preset.ofKeyword? token <;>
      cases hasOffset : Offset.ofToken? token <;> cases hasRange : Range.ofToken? token <;>
        simp [ofToken, found, hasZone, hasPreset, hasOffset, hasRange] at read

/-- A pattern is what stands behind the first colon of its token, and it is not empty. -/
theorem exists_splitFirst?_of_ofToken_eq_pattern {token pattern : Text}
    (read : ofToken token = .pattern pattern) :
    ∃ keyword, token.splitFirst? ':' = some (keyword, pattern) ∧ pattern ≠ [] := by
  have found := pattern?_of_ofToken_eq_pattern read
  unfold pattern? at found
  split at found
  · next keyword rest parts =>
    obtain ⟨⟨-, notEmpty⟩, same⟩ := Option.ite_none_right_eq_some.1 found
    cases same
    exact ⟨keyword, parts, notEmpty⟩
  · cases found

end Modifier

namespace Builtin

/-- No value of a builtin is empty unless a pattern among the modifiers is. -/
theorem Writes.ne_nil {modifiers : List Modifier}
    (notEmpty : ∀ pattern, .pattern pattern ∈ modifiers → pattern ≠ []) {text : Text}
    (writes : Writes modifiers text) : text ≠ [] := by
  cases writes with
  | format style instant wall preset => exact style.format_ne_nil instant wall preset
  | fill wall member => exact wall.fill_ne_nil (notEmpty _ member)
  | identifier bytes => exact Uuid.text_ne_nil bytes
  | number n => exact Decimal.write_ne_nil n

/-- The value of a builtin in an expression is not empty. -/
theorem ensures_ne_nil (builtin : Builtin) (sources : Sources) (default : Range)
    (expression : Expression) :
    (builtin.value sources default expression.classified).Ensures (· ≠ []) := by
  refine (builtin.ensures_writes sources default _).mono fun text writes => writes.ne_nil ?_
  intro pattern member
  obtain ⟨token, -, read⟩ := List.mem_map.1 member
  obtain ⟨keyword, -, notEmpty⟩ := Modifier.exists_splitFirst?_of_ofToken_eq_pattern read
  exact notEmpty

end Builtin
end Stencil
