import Stencil.Time.Pattern
import Stencil.Proofs.Text.Numerals

/-!
# Slots of a pattern

A slot is a place of a pattern where the word of a field stands. The fields take their
slots one after another, each the leftmost one that overlaps no slot taken before it,
and all slots are then replaced by the values of their fields at once.
-/

namespace Stencil

namespace Decimal

/-- A padded numeral consists of digits. -/
theorem isDigit_of_mem_padded {width n : Nat} {c : Char} (member : c ∈ padded width n) :
    c.isDigit = true := by
  rcases List.mem_append.1 member with zero | digit
  · rw [List.eq_of_mem_replicate zero]
    rfl
  · exact isDigit_of_mem_write digit

/-- A padded numeral has a digit at least. -/
theorem padded_ne_nil (width n : Nat) : padded width n ≠ [] :=
  List.append_ne_nil_of_right_ne_nil _ (write_ne_nil n)

end Decimal

namespace TimeField

/-- Every word has a letter at least. -/
theorem word_ne_nil (field : TimeField) : field.word ≠ [] := by
  cases field <;> decide

/-- A word takes up a position at least. -/
theorem length_word_pos (field : TimeField) : 0 < field.word.length :=
  List.length_pos_iff.2 field.word_ne_nil

/-- The characters that values consist of. -/
def IsValueChar (c : Char) : Prop :=
  c.isDigit = true ∨ c = '-'

instance (c : Char) : Decidable (IsValueChar c) :=
  inferInstanceAs (Decidable (_ ∨ _))

/-- No letter of a word can stand in a value. -/
theorem not_isValueChar_of_mem_word {field : TimeField} {c : Char} (member : c ∈ field.word) :
    ¬IsValueChar c := by
  have letters : field.word.all (¬IsValueChar ·) = true := by
    cases field <;> rfl
  simpa using List.all_eq_true.1 letters c member

/-- Every field shows something. -/
theorem value_ne_nil (wall : WallClock) (field : TimeField) : field.value wall ≠ [] := by
  cases field <;> simp only [value, yearText, ne_eq, Decimal.padded_ne_nil, Decimal.write_ne_nil,
    not_false_eq_true]
  split
  · exact List.cons_ne_nil _ _
  · exact Decimal.padded_ne_nil _ _

/-- Values consist of digits, and a year of a sign perhaps. -/
theorem isValueChar_of_mem_value {wall : WallClock} {field : TimeField} {c : Char}
    (member : c ∈ field.value wall) : IsValueChar c := by
  cases field with
  | fullYear =>
    simp only [value, yearText] at member
    split at member
    · rcases List.mem_cons.1 member with minus | digit
      · exact .inr minus
      · exact .inl (Decimal.isDigit_of_mem_padded digit)
    · exact .inl (Decimal.isDigit_of_mem_padded member)
  | month | day | hour => exact .inl (Decimal.isDigit_of_mem_write member)
  | shortYear | paddedMonth | paddedDay | paddedHour | minute | second | millis =>
    exact .inl (Decimal.isDigit_of_mem_padded member)

end TimeField

namespace Pattern

/-! ## Simultaneous replacement -/

/-- A place of a pattern and the field that is filled in there. -/
structure Slot where
  start : Nat
  field : TimeField
  deriving DecidableEq, Repr

namespace Slot

/-- The position behind the word of the field. -/
def stop (slot : Slot) : Nat :=
  slot.start + slot.field.word.length

/-- The position is one of the slot's. -/
def Covers (slot : Slot) (position : Nat) : Prop :=
  slot.start ≤ position ∧ position < slot.stop

instance (slot : Slot) (position : Nat) : Decidable (slot.Covers position) :=
  inferInstanceAs (Decidable (_ ∧ _))

/-- No position is one of both slots. -/
def Apart (first second : Slot) : Prop :=
  first.stop ≤ second.start ∨ second.stop ≤ first.start

instance (first second : Slot) : Decidable (first.Apart second) :=
  inferInstanceAs (Decidable (_ ∨ _))

/-- The word of the field stands in the pattern where the slot starts. -/
def StandsIn (pattern : Text) (slot : Slot) : Prop :=
  slot.field.word <+: pattern.drop slot.start

instance (pattern : Text) (slot : Slot) : Decidable (slot.StandsIn pattern) :=
  inferInstanceAs (Decidable (_ <+: _))

/-- The slot can be taken beside those that are. -/
def IsFree (pattern : Text) (taken : List Slot) (slot : Slot) : Prop :=
  slot.StandsIn pattern ∧ ∀ other ∈ taken, slot.Apart other

instance (pattern : Text) (taken : List Slot) (slot : Slot) :
    Decidable (slot.IsFree pattern taken) :=
  inferInstanceAs (Decidable (_ ∧ _))

end Slot

/-- The leftmost free slot for the field. -/
def slot? (pattern : Text) (taken : List Slot) (field : TimeField) : Option Slot :=
  ((List.range pattern.length).find? fun start => Slot.IsFree pattern taken ⟨start, field⟩).map
    fun start => ⟨start, field⟩

/-- The slots taken, and the one that the field takes beside them if it can. -/
def addSlot (pattern : Text) (taken : List Slot) (field : TimeField) : List Slot :=
  taken ++ (slot? pattern taken field).toList

/-- The slots that the fields take one after another in the pattern. -/
def slots (pattern : Text) (fields : List TimeField) : List Slot :=
  fields.foldl (addSlot pattern) []

/-- What the character at a position becomes: in a slot, the value of the field for the
first character and nothing for the others. Outside every slot the character stays. -/
def fillAt (wall : WallClock) (taken : List Slot) (position : Nat) (c : Char) : Text :=
  match taken.find? fun slot => slot.Covers position with
  | some slot => if slot.start = position then slot.field.value wall else []
  | none => [c]

/-- The pattern with the values of the fields in place of the slots. -/
def fillSlots (wall : WallClock) (taken : List Slot) (pattern : Text) : Text :=
  pattern.zipIdx.flatMap fun indexed => fillAt wall taken indexed.2 indexed.1

namespace Slot

/-- A slot covers a position at least. -/
theorem start_lt_stop (slot : Slot) : slot.start < slot.stop :=
  Nat.lt_add_of_pos_right slot.field.length_word_pos

/-- A word stands within the pattern. -/
theorem StandsIn.start_lt {pattern : Text} {slot : Slot} (stands : slot.StandsIn pattern) :
    slot.start < pattern.length := by
  have fits := stands.length_le
  have positive := slot.field.length_word_pos
  rw [List.length_drop] at fits
  omega

end Slot

/-- A field takes a slot that is free if none further to the left is. -/
theorem slot?_eq_some {pattern : Text} {taken : List Slot} {field : TimeField} {start : Nat}
    (free : Slot.IsFree pattern taken ⟨start, field⟩)
    (leftmost : ∀ place, Slot.IsFree pattern taken ⟨place, field⟩ → start ≤ place) :
    slot? pattern taken field = some ⟨start, field⟩ := by
  have found : (List.range pattern.length).find?
      (fun start => Slot.IsFree pattern taken ⟨start, field⟩) = some start := by
    rw [List.find?_range_eq_some]
    refine ⟨by simpa using free, List.mem_range.2 free.1.start_lt, fun place before => ?_⟩
    have notFree := mt (leftmost place) (Nat.not_le.2 before)
    simpa using notFree
  rw [slot?, found, Option.map_some]

/-- A field takes no slot if none is free. -/
theorem slot?_eq_none {pattern : Text} {taken : List Slot} {field : TimeField}
    (noneFree : ∀ place, ¬Slot.IsFree pattern taken ⟨place, field⟩) :
    slot? pattern taken field = none := by
  simp [slot?, noneFree]

/-- The slot that a field takes is one of its own and free. -/
theorem isFree_of_slot?_eq_some {pattern : Text} {taken : List Slot} {field : TimeField}
    {slot : Slot} (found : slot? pattern taken field = some slot) :
    slot.field = field ∧ slot.IsFree pattern taken := by
  obtain ⟨start, free, rfl⟩ := Option.map_eq_some_iff.1 found
  exact ⟨rfl, by simpa using List.find?_some free⟩

/-- A character outside all slots stays. -/
theorem fillAt_of_not_covers {wall : WallClock} {taken : List Slot} {position : Nat} {c : Char}
    (uncovered : ∀ slot ∈ taken, ¬slot.Covers position) : fillAt wall taken position c = [c] := by
  have absent : (taken.find? fun slot => slot.Covers position) = none :=
    List.find?_eq_none.2 fun slot member => by simpa using uncovered slot member
  rw [fillAt, absent]

/-- A character in a slot gives way to the value if it is the first one, and to nothing
otherwise. -/
theorem fillAt_of_covers {wall : WallClock} {taken : List Slot} {slot : Slot} {position : Nat}
    {c : Char} (member : slot ∈ taken) (covers : slot.Covers position)
    (unique : ∀ other ∈ taken, other.Covers position → other = slot) :
    fillAt wall taken position c =
      if slot.start = position then slot.field.value wall else [] := by
  have found : (taken.find? fun slot => slot.Covers position) = some slot := by
    cases result : taken.find? fun slot => slot.Covers position with
    | none => exact absurd covers (by simpa using List.find?_eq_none.1 result slot member)
    | some other =>
      have otherCovers : other.Covers position := by simpa using List.find?_some result
      rw [unique other (List.mem_of_find?_eq_some result) otherCovers]
  rw [fillAt, found]

/-- Slots whose words stand in the pattern, no two of them overlapping. -/
structure Fits (pattern : Text) (taken : List Slot) : Prop where
  standsIn : ∀ slot ∈ taken, slot.StandsIn pattern
  apart : taken.Pairwise Slot.Apart

/-- A further field keeps the slots apart. -/
theorem Fits.addSlot {pattern : Text} {taken : List Slot} (fits : Fits pattern taken)
    (field : TimeField) : Fits pattern (addSlot pattern taken field) := by
  unfold Pattern.addSlot
  cases found : slot? pattern taken field with
  | none => simpa using fits
  | some slot =>
    obtain ⟨-, standsIn, apart⟩ := isFree_of_slot?_eq_some found
    constructor
    · simpa [or_imp, forall_and] using ⟨fits.standsIn, standsIn⟩
    · refine List.pairwise_append.2 ⟨fits.apart, List.pairwise_singleton _ _, ?_⟩
      intro other member new isSlot
      rw [List.mem_singleton.1 isSlot]
      exact (apart other member).symm

/-- The slots that fields take stand in the pattern and are apart. -/
theorem fits_slots (pattern : Text) (fields : List TimeField) :
    Fits pattern (slots pattern fields) := by
  have run {taken : List Slot} (fits : Fits pattern taken) :
      Fits pattern (fields.foldl (addSlot pattern) taken) := by
    induction fields generalizing taken with
    | nil => exact fits
    | cons field fields ih => exact ih (fits.addSlot field)
  exact run ⟨List.forall_mem_nil _, .nil⟩

/-- Each field takes at most one slot, in the order of the fields. -/
theorem map_field_slots_sublist (pattern : Text) (fields : List TimeField) :
    ((slots pattern fields).map Slot.field).Sublist fields := by
  have run (taken : List Slot) : ((fields.foldl (addSlot pattern) taken).map Slot.field).Sublist
      (taken.map Slot.field ++ fields) := by
    induction fields generalizing taken with
    | nil => exact List.sublist_append_left _ _
    | cons field fields ih =>
      refine (ih (addSlot pattern taken field)).trans ?_
      rw [addSlot, List.map_append, List.append_assoc, List.append_sublist_append_left]
      cases found : slot? pattern taken field with
      | none => exact List.sublist_cons_self _ _
      | some slot =>
        rw [Option.toList_some, List.map_singleton, (isFree_of_slot?_eq_some found).1]
        exact .refl _
  exact run []

end Pattern

end Stencil
