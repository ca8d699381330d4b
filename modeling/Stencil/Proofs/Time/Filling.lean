import Stencil.Proofs.Time.Slots

/-!
# Filling in a pattern

A pattern is filled in one field after another, each in the text that the fields
before it have left. The result is still that of a single replacement in the original
pattern: `WallClock.fill_eq_fillSlots`.

In between, a text is a list of cells, which are characters of the pattern and fields
already filled in. The cells spell both the text and the original pattern. A value
holds no letter of a word, so a word is found in the text exactly where it stands in
the pattern clear of every field filled in before.
-/

namespace Stencil

namespace Pattern

/-! ## Cells -/

/-- A character of the pattern that is still there, or a field filled in for its word. -/
inductive Cell
  | kept (c : Char)
  | filled (field : TimeField)
  deriving DecidableEq, Repr

namespace Cell

/-- The part of the original pattern. -/
def source : Cell → Text
  | .kept c => [c]
  | .filled field => field.word

/-- The part of the text on a wall clock. -/
def text (wall : WallClock) : Cell → Text
  | .kept c => [c]
  | .filled field => field.value wall

/-- The slot that the cell takes if its part of the pattern starts at a position. -/
def slots (start : Nat) : Cell → List Slot
  | .kept _ => []
  | .filled field => [⟨start, field⟩]

/-- The slots that the cells take in a pattern, from a position on. -/
def slotsFrom (start : Nat) : List Cell → List Slot
  | [] => []
  | cell :: rest => cell.slots start ++ slotsFrom (start + cell.source.length) rest

/-- The cells with the first occurrence of the field's word replaced by the field. -/
def fillFirst (field : TimeField) : List Cell → List Cell
  | [] => []
  | cell :: rest =>
    if field.word.map .kept <+: cell :: rest then
      .filled field :: (cell :: rest).drop field.word.length
    else cell :: fillFirst field rest

/-- Characters that are kept are their own part of the pattern. -/
@[simp] theorem source_map_kept (word : Text) : (word.map kept).flatMap source = word := by
  rw [List.flatMap_map]
  exact List.flatMap_singleton' word

/-- Characters that are kept are their own part of the text. -/
@[simp] theorem text_map_kept (wall : WallClock) (word : Text) :
    (word.map kept).flatMap (text wall) = word := by
  rw [List.flatMap_map]
  exact List.flatMap_singleton' word

/-- Characters that are kept take no slots. -/
@[simp] theorem slotsFrom_map_kept (start : Nat) (word : Text) :
    slotsFrom start (word.map kept) = [] := by
  induction word generalizing start with
  | nil => rfl
  | cons c word ih => exact ih _

/-- The slots of further cells start where the pattern has got to. -/
theorem slotsFrom_append (start : Nat) (before after : List Cell) :
    slotsFrom start (before ++ after) =
      slotsFrom start before ++ slotsFrom (start + (before.flatMap source).length) after := by
  induction before generalizing start with
  | nil => rfl
  | cons cell before ih =>
    simp only [List.cons_append, slotsFrom, ih, List.append_assoc, List.flatMap_cons,
      List.length_append, Nat.add_assoc]

/-- The slot of a cell covers its part of the pattern and nothing else. -/
theorem start_stop_of_mem_slots {start : Nat} {cell : Cell} {slot : Slot}
    (member : slot ∈ cell.slots start) :
    slot.start = start ∧ slot.stop = start + cell.source.length := by
  cases cell with
  | kept c => cases member
  | filled field =>
    rw [List.mem_singleton.1 member]
    exact ⟨rfl, rfl⟩

/-- The slots of cells lie within the part of the pattern that the cells stand for. -/
theorem within_of_mem_slotsFrom {start : Nat} {cells : List Cell} {slot : Slot}
    (member : slot ∈ slotsFrom start cells) :
    start ≤ slot.start ∧ slot.stop ≤ start + (cells.flatMap source).length := by
  induction cells generalizing start with
  | nil => cases member
  | cons cell rest ih =>
    rw [List.flatMap_cons, List.length_append]
    rcases List.mem_append.1 member with here | later
    · have := start_stop_of_mem_slots here
      omega
    · have := ih later
      omega

/-! ## One replacement -/

/-- No value holds a letter of a word, so a word at the start of the text is made of
characters of the pattern. -/
theorem prefix_text_iff (wall : WallClock) {word : Text}
    (letters : ∀ c ∈ word, ¬TimeField.IsValueChar c) (cells : List Cell) :
    word <+: cells.flatMap (text wall) ↔ word.map kept <+: cells := by
  induction word generalizing cells with
  | nil => simp
  | cons c word ih =>
    rw [List.forall_mem_cons] at letters
    cases cells with
    | nil => simp
    | cons cell rest =>
      cases cell with
      | kept d => simp [text, List.cons_prefix_cons, ih letters.2]
      | filled field =>
        obtain ⟨d, others, value⟩ := List.exists_cons_of_ne_nil (field.value_ne_nil wall)
        have inValue : d ∈ field.value wall := by
          rw [value]
          exact List.mem_cons_self
        have different : c ≠ d := by
          rintro rfl
          exact letters.1 (TimeField.isValueChar_of_mem_value inValue)
        simp [text, value, List.cons_prefix_cons, different]

/-- No word starts within a value. -/
theorem replaceFirst_value_append (wall : WallClock) (field filled : TimeField) (rest : Text) :
    (filled.value wall ++ rest).replaceFirst field.word (field.value wall) =
      filled.value wall ++ rest.replaceFirst field.word (field.value wall) := by
  obtain ⟨letter, letters, word⟩ := List.exists_cons_of_ne_nil field.word_ne_nil
  have inWord : letter ∈ field.word := by
    rw [word]
    exact List.mem_cons_self
  have absent : letter ∉ filled.value wall := fun inValue =>
    TimeField.not_isValueChar_of_mem_word inWord (TimeField.isValueChar_of_mem_value inValue)
  generalize filled.value wall = value at absent
  induction value with
  | nil => rfl
  | cons c value ih =>
    obtain ⟨different, absent⟩ := not_or.1 (mt List.mem_cons.2 absent)
    have elsewhere : ¬field.word <+: c :: (value ++ rest) := by
      rw [word, List.cons_prefix_cons]
      exact fun stands => different stands.1
    rw [List.cons_append, Text.replaceFirst, if_neg elsewhere, ih absent, List.cons_append]

/-- A word at the start of a text is replaced there. -/
theorem replaceFirst_append (word rest value : Text) :
    (word ++ rest).replaceFirst word value = value ++ rest := by
  have stands : word <+: word ++ rest := List.prefix_append word rest
  have others : (word ++ rest).drop word.length = rest := List.drop_left
  generalize word ++ rest = text at stands others
  cases text with
  | nil => rw [Text.replaceFirst, if_pos (List.prefix_nil.1 stands), ← others, List.drop_nil,
      List.append_nil]
  | cons c text => rw [Text.replaceFirst, if_pos stands, others]

/-- Replacing a word in the text fills in its field in the cells. -/
theorem replaceFirst_text (wall : WallClock) (field : TimeField) (cells : List Cell) :
    Text.replaceFirst (cells.flatMap (text wall)) field.word (field.value wall) =
      (fillFirst field cells).flatMap (text wall) := by
  induction cells with
  | nil => simp [fillFirst, Text.replaceFirst, field.word_ne_nil]
  | cons cell rest ih =>
    by_cases here : field.word.map kept <+: cell :: rest
    · rw [fillFirst, if_pos here]
      obtain ⟨after, split⟩ := here
      rw [← split, List.flatMap_append, text_map_kept, replaceFirst_append, List.flatMap_cons,
        List.drop_left' (List.length_map _), text]
    · rw [fillFirst, if_neg here]
      cases cell with
      | kept c =>
        rw [← prefix_text_iff wall (fun _ => TimeField.not_isValueChar_of_mem_word)] at here
        have absent : ¬field.word <+: c :: rest.flatMap (text wall) := here
        rw [List.flatMap_cons, List.flatMap_cons, text, List.singleton_append,
          Text.replaceFirst, if_neg absent, ih, List.singleton_append]
      | filled filled =>
        rw [List.flatMap_cons, List.flatMap_cons, text, replaceFirst_value_append, ih]

/-- Replacing one word after another in the text fills in one field after another in the cells. -/
theorem foldl_replaceFirst_text (wall : WallClock) (fields : List TimeField) (cells : List Cell) :
    fields.foldl (fun text field => Text.replaceFirst text field.word (field.value wall))
        (cells.flatMap (text wall)) =
      (fields.foldl (fun cells field => fillFirst field cells) cells).flatMap (text wall) := by
  induction fields generalizing cells with
  | nil => rfl
  | cons field fields ih => rw [List.foldl_cons, List.foldl_cons, replaceFirst_text, ih]

/-! ## Where a word can be replaced -/

/-- The place of the pattern is one where the cells still keep the word of the field. -/
def KeepsAt (field : TimeField) (cells : List Cell) (place : Nat) : Prop :=
  ∃ before after, cells = before ++ (field.word.map kept ++ after) ∧
    (before.flatMap source).length = place

/-- Where there are no cells there is no word. -/
theorem not_keepsAt_nil {field : TimeField} {place : Nat} : ¬KeepsAt field [] place := by
  rintro ⟨before, after, split, -⟩
  simp [field.word_ne_nil] at split

/-- A word stands at the first cell or further on. -/
theorem keepsAt_cons_iff {field : TimeField} {cell : Cell} {rest : List Cell} {place : Nat} :
    KeepsAt field (cell :: rest) place ↔
      (field.word.map kept <+: cell :: rest ∧ place = 0) ∨
        ∃ later, KeepsAt field rest later ∧ place = cell.source.length + later := by
  constructor
  · rintro ⟨before, after, split, rfl⟩
    cases before with
    | nil => exact .inl ⟨⟨after, split.symm⟩, rfl⟩
    | cons first before =>
      obtain ⟨rfl, others⟩ := List.cons.inj split
      exact .inr ⟨_, ⟨before, after, others, rfl⟩, by rw [List.flatMap_cons, List.length_append]⟩
  · rintro (⟨⟨after, split⟩, rfl⟩ | ⟨_, ⟨before, after, rfl, rfl⟩, rfl⟩)
    · exact ⟨[], after, split.symm, rfl⟩
    · exact ⟨cell :: before, after, rfl, by rw [List.flatMap_cons, List.length_append]⟩

/-- A field is filled in at the leftmost place where the cells keep its word, if there is one. -/
theorem fillFirst_cases (field : TimeField) (cells : List Cell) :
    (∃ before after, cells = before ++ (field.word.map kept ++ after) ∧
      fillFirst field cells = before ++ filled field :: after ∧
      ∀ place, KeepsAt field cells place → (before.flatMap source).length ≤ place) ∨
    (fillFirst field cells = cells ∧ ∀ place, ¬KeepsAt field cells place) := by
  induction cells with
  | nil => exact .inr ⟨rfl, fun _ => not_keepsAt_nil⟩
  | cons cell rest ih =>
    rw [fillFirst]
    split
    · next here =>
      obtain ⟨after, split⟩ := here
      refine .inl ⟨[], after, split.symm, ?_, fun _ _ => Nat.zero_le _⟩
      rw [← split, List.drop_left' (List.length_map _), List.nil_append]
    · next elsewhere =>
      rcases ih with ⟨before, after, rfl, result, leftmost⟩ | ⟨result, absent⟩
      · refine .inl ⟨cell :: before, after, rfl, by rw [result, List.cons_append], ?_⟩
        intro place keeps
        rcases keepsAt_cons_iff.1 keeps with ⟨here, -⟩ | ⟨later, keepsLater, rfl⟩
        · exact absurd here elsewhere
        · rw [List.flatMap_cons, List.length_append]
          exact Nat.add_le_add_left (leftmost later keepsLater) _
      · refine .inr ⟨by rw [result], ?_⟩
        intro place keeps
        rcases keepsAt_cons_iff.1 keeps with ⟨here, -⟩ | ⟨later, keepsLater, -⟩
        · exact elsewhere here
        · exact absent later keepsLater

/-- A word that stands in the pattern clear of every slot is kept in the cells. -/
theorem prefix_of_clear (start : Nat) {word : Text} {cells : List Cell}
    (stands : word <+: cells.flatMap source)
    (clear : ∀ slot ∈ slotsFrom start cells, start + word.length ≤ slot.start) :
    word.map kept <+: cells := by
  induction word generalizing start cells with
  | nil => exact List.nil_prefix
  | cons c word ih =>
    cases cells with
    | nil => simp at stands
    | cons cell rest =>
      cases cell with
      | kept d =>
        obtain ⟨rfl, others⟩ := List.cons_prefix_cons.1 stands
        refine List.cons_prefix_cons.2 ⟨rfl, ih (start + 1) others fun slot member => ?_⟩
        have := clear slot member
        rw [List.length_cons] at this
        omega
      | filled field =>
        have := clear ⟨start, field⟩ List.mem_cons_self
        rw [List.length_cons] at this
        dsimp only at this
        omega

/-- Where a word stands in the pattern clear of every slot, the cells keep it. -/
theorem keepsAt_of_clear (start : Nat) {field : TimeField} {place : Nat} {cells : List Cell}
    (stands : field.word <+: (cells.flatMap source).drop place)
    (clear : ∀ slot ∈ slotsFrom start cells, Slot.Apart ⟨start + place, field⟩ slot) :
    KeepsAt field cells place := by
  induction cells generalizing start place with
  | nil => simp [field.word_ne_nil] at stands
  | cons cell rest ih =>
    rw [keepsAt_cons_iff]
    rcases Nat.eq_zero_or_pos place with rfl | behind
    · refine .inl ⟨prefix_of_clear start stands fun slot member => ?_, rfl⟩
      have := (within_of_mem_slotsFrom member).1
      have := slot.start_lt_stop
      have := clear slot member
      simp only [Slot.Apart, Slot.stop] at *
      omega
    · rcases Nat.lt_or_ge place cell.source.length with inside | past
      · -- A place inside the first cell is inside a slot, so it is not clear of it.
        cases cell with
        | kept c =>
          simp only [source, List.length_singleton] at inside
          omega
        | filled filled =>
          have := clear ⟨start, filled⟩ List.mem_cons_self
          have := field.length_word_pos
          simp only [Slot.Apart, Slot.stop, source] at *
          omega
      · obtain ⟨later, rfl⟩ := Nat.exists_eq_add_of_le past
        refine .inr ⟨later, ?_, rfl⟩
        refine ih (start + cell.source.length) ?_ fun slot member => ?_
        · rwa [List.flatMap_cons, List.drop_length_add_append] at stands
        · rw [Nat.add_assoc]
          exact clear slot (List.mem_append_right _ member)

/-- Where the cells keep a word, it stands in the pattern clear of every slot. -/
theorem KeepsAt.clear (start : Nat) {field : TimeField} {place : Nat} {cells : List Cell}
    (keeps : KeepsAt field cells place) :
    field.word <+: (cells.flatMap source).drop place ∧
      ∀ slot ∈ slotsFrom start cells, Slot.Apart ⟨start + place, field⟩ slot := by
  obtain ⟨before, after, rfl, rfl⟩ := keeps
  constructor
  · rw [List.flatMap_append, List.drop_left, List.flatMap_append, source_map_kept]
    exact List.prefix_append _ _
  · intro slot member
    rw [slotsFrom_append, slotsFrom_append, slotsFrom_map_kept, List.nil_append,
      source_map_kept] at member
    rcases List.mem_append.1 member with earlier | later
    · exact .inr (within_of_mem_slotsFrom earlier).2
    · exact .inl (within_of_mem_slotsFrom later).1

/-- The cells divide the pattern, and the slots of the fields filled in are those taken. -/
structure Divides (pattern : Text) (taken : List Slot) (cells : List Cell) : Prop where
  source : cells.flatMap Cell.source = pattern
  slots (slot : Slot) : slot ∈ slotsFrom 0 cells ↔ slot ∈ taken

namespace Divides

variable {pattern : Text} {taken : List Slot} {cells : List Cell}

/-- At first all of the pattern is kept and no slot is taken. -/
theorem start (pattern : Text) : Divides pattern [] (pattern.map kept) where
  source := source_map_kept pattern
  slots slot := by rw [slotsFrom_map_kept]

/-- A slot is free exactly where the cells keep the word. -/
theorem isFree_iff (divides : Divides pattern taken cells) {field : TimeField} {place : Nat} :
    Slot.IsFree pattern taken ⟨place, field⟩ ↔ KeepsAt field cells place := by
  have start : 0 + place = place := Nat.zero_add place
  constructor
  · rintro ⟨stands, apart⟩
    refine keepsAt_of_clear 0 (by rwa [divides.source]) fun slot member => ?_
    rw [start]
    exact apart slot ((divides.slots slot).1 member)
  · intro keeps
    obtain ⟨stands, apart⟩ := keeps.clear 0
    rw [divides.source] at stands
    rw [start] at apart
    exact ⟨stands, fun slot member => apart slot ((divides.slots slot).2 member)⟩

/-- Filling in a field in the cells takes its leftmost free slot in the pattern. -/
theorem fillFirst (divides : Divides pattern taken cells) (field : TimeField) :
    Divides pattern (addSlot pattern taken field) (fillFirst field cells) := by
  rcases fillFirst_cases field cells with ⟨before, after, split, result, leftmost⟩ |
    ⟨result, absent⟩
  · have found : slot? pattern taken field = some ⟨(before.flatMap Cell.source).length, field⟩ :=
      slot?_eq_some (divides.isFree_iff.2 ⟨before, after, split, rfl⟩) fun place free =>
        leftmost place (divides.isFree_iff.1 free)
    rw [addSlot, found, result, Option.toList_some]
    constructor
    · rw [← divides.source, split]
      simp [Cell.source]
    · intro slot
      rw [List.mem_append, ← divides.slots, split]
      simp only [slotsFrom_append, slotsFrom, slotsFrom_map_kept, source_map_kept, Cell.slots,
        Cell.source, Nat.zero_add, List.mem_append, List.nil_append, or_assoc]
      exact or_congr_right or_comm
  · rw [addSlot, slot?_eq_none fun place free => absent place (divides.isFree_iff.1 free), result,
      Option.toList_none, List.append_nil]
    exact divides

/-- Filling in fields one after another fills in the slots that they take. -/
theorem fillFields (divides : Divides pattern taken cells) (wall : WallClock)
    (fields : List TimeField) :
    ∃ filled, Divides pattern (fields.foldl (addSlot pattern) taken) filled ∧
      fields.foldl (fun text field => Text.replaceFirst text field.word (field.value wall))
        (cells.flatMap (text wall)) = filled.flatMap (text wall) := by
  induction fields generalizing taken cells with
  | nil => exact ⟨cells, divides, rfl⟩
  | cons field fields ih =>
    rw [List.foldl_cons, List.foldl_cons, replaceFirst_text]
    exact ih (divides.fillFirst field)

end Divides

/-- What the positions of one cell become, if no slot taken but its own covers them. -/
theorem flatMap_fillAt_source (wall : WallClock) {taken : List Slot} {start : Nat} {cell : Cell}
    (own : ∀ slot ∈ cell.slots start, slot ∈ taken)
    (alone : ∀ slot ∈ taken, slot ∈ cell.slots start ∨ slot.stop ≤ start ∨
      start + cell.source.length ≤ slot.start) :
    ((cell.source.zipIdx start).flatMap fun indexed => fillAt wall taken indexed.2 indexed.1) =
      cell.text wall := by
  cases cell with
  | kept c =>
    have uncovered : ∀ slot ∈ taken, ¬slot.Covers start := by
      rintro slot member ⟨before, behind⟩
      rcases alone slot member with here | earlier | later
      · cases here
      · omega
      · simp only [source, List.length_singleton] at later
        omega
    simp [source, text, fillAt_of_not_covers uncovered]
  | filled field =>
    have covered {position : Nat} (low : start ≤ position)
        (high : position < start + field.word.length) (c : Char) :
        fillAt wall taken position c = if start = position then field.value wall else [] := by
      refine fillAt_of_covers (own ⟨start, field⟩ (List.mem_singleton_self _)) ⟨low, high⟩ ?_
      rintro other member ⟨before, behind⟩
      rcases alone other member with here | earlier | later
      · exact List.mem_singleton.1 here
      · omega
      · simp only [source] at later
        omega
    obtain ⟨letter, letters, word⟩ := List.exists_cons_of_ne_nil field.word_ne_nil
    rw [word, List.length_cons] at covered
    -- The first position carries the whole value, and the others nothing.
    have others : ((letters.zipIdx (start + 1)).flatMap fun indexed =>
        fillAt wall taken indexed.2 indexed.1) = [] := by
      rw [List.flatMap_eq_nil_iff]
      rintro ⟨c, position⟩ member
      obtain ⟨low, high, -⟩ := List.mem_zipIdx member
      rw [covered (by omega) (by omega), if_neg (by dsimp only; omega)]
    rw [source, word, List.zipIdx_cons, List.flatMap_cons, others,
      covered (Nat.le_refl start) (by omega), if_pos rfl, List.append_nil, text]

/-- Replacing the slots of the cells in the pattern gives the text of the cells. -/
theorem flatMap_fillAt_eq (wall : WallClock) (start : Nat) {taken : List Slot}
    {cells : List Cell} (own : ∀ slot ∈ slotsFrom start cells, slot ∈ taken)
    (others : ∀ slot ∈ taken, slot.stop ≤ start ∨ slot ∈ slotsFrom start cells) :
    (((cells.flatMap source).zipIdx start).flatMap fun indexed =>
      fillAt wall taken indexed.2 indexed.1) = cells.flatMap (text wall) := by
  induction cells generalizing start with
  | nil => rfl
  | cons cell rest ih =>
    rw [slotsFrom, List.forall_mem_append] at own
    simp only [slotsFrom, List.mem_append] at others
    have here := flatMap_fillAt_source wall own.1 fun slot member => by
      rcases others slot member with before | same | later
      · exact .inr (.inl before)
      · exact .inl same
      · exact .inr (.inr (within_of_mem_slotsFrom later).1)
    have behind := ih (start + cell.source.length) own.2 fun slot member => by
      rcases others slot member with before | same | later
      · exact .inl (Nat.le_trans before (Nat.le_add_right _ _))
      · exact .inl (Nat.le_of_eq (start_stop_of_mem_slots same).2)
      · exact .inr later
    rw [List.flatMap_cons, List.flatMap_cons, List.zipIdx_append, List.flatMap_append, here, behind]

/-- Filling the slots that are taken gives the text of the cells. -/
theorem Divides.fillSlots_eq {pattern : Text} {taken : List Slot} {cells : List Cell}
    (divides : Divides pattern taken cells) (wall : WallClock) :
    fillSlots wall taken pattern = cells.flatMap (text wall) := by
  rw [fillSlots, ← divides.source]
  exact flatMap_fillAt_eq wall 0 (fun slot => (divides.slots slot).1)
    fun slot member => .inr ((divides.slots slot).2 member)

end Cell

/-- After any fields, the text is the pattern with the slots of these fields replaced. -/
theorem foldl_replaceFirst_eq (wall : WallClock) (pattern : Text) (fields : List TimeField) :
    fields.foldl (fun text field => Text.replaceFirst text field.word (field.value wall)) pattern =
      fillSlots wall (slots pattern fields) pattern := by
  obtain ⟨filled, divides, result⟩ := (Cell.Divides.start pattern).fillFields wall fields
  rw [Cell.text_map_kept] at result
  rw [result, slots, divides.fillSlots_eq]

end Pattern

open Pattern

/-- Filling in a pattern is one simultaneous replacement. The fields take their slots one after
another, in the order in which their words are listed, each the leftmost one in the original
pattern that is free, and each at most one. The value of a field then stands in place of the
word of its slot, and every character outside the slots stays. The same holds of the text
between two fields, so no field changes the value of one before it. -/
theorem WallClock.fill_eq_fillSlots (wall : WallClock) (pattern : Text) :
    TimeField.all.map (fun field => (field, field.word)) =
      [(.fullYear, "YYYY".toList), (.shortYear, "YY".toList), (.paddedMonth, "MM".toList),
        (.month, "M".toList), (.paddedDay, "DD".toList), (.day, "D".toList),
        (.paddedHour, "HH".toList), (.hour, "H".toList), (.minute, "mm".toList),
        (.second, "ss".toList), (.millis, "SSS".toList)] ∧
    wall.fill pattern = fillSlots wall (slots pattern TimeField.all) pattern ∧
      (∀ count, (TimeField.all.take count).foldl
          (fun text field => text.replaceFirst field.word (field.value wall)) pattern =
        fillSlots wall (slots pattern (TimeField.all.take count)) pattern) ∧
      Fits pattern (slots pattern TimeField.all) ∧
      ((slots pattern TimeField.all).map Slot.field).Sublist TimeField.all ∧
      ((slots pattern TimeField.all).map Slot.field).Nodup := by
  have inOrder := map_field_slots_sublist pattern TimeField.all
  have distinct : TimeField.all.Nodup := by decide
  exact ⟨rfl, foldl_replaceFirst_eq wall pattern _, fun _ => foldl_replaceFirst_eq wall pattern _,
    fits_slots pattern _, inOrder, distinct.sublist inOrder⟩

/-- Longer words go first, and a short word finds its slot in what they leave. A word that
stands twice is replaced once. -/
example : WallClock.fill ⟨1709245800, 0⟩ "DDD-MMM-ss-ss".toList = "2929-022-00-ss".toList := by
  decide

end Stencil
