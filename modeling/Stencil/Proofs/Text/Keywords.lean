import Mathlib
import Stencil.Text

/-!
# Keywords

A keyword is recognized in every spelling, its letters small or capitals in any mixture
(`isKeyword_iff_spells`), and so are the words of a table of keywords
(`IsKeywordTable.named?_eq_some_iff`). Spellings of a word differ in the ASCII case of
letters only.
-/

namespace Stencil.Text

/-- A keyword is recognized in small letters once capitals are made small. -/
theorem isKeyword_iff {text : Text} {keyword : String} :
    text.isKeyword keyword = true ↔ text.map Char.toLower = keyword.toList := by
  simp [isKeyword, foldCase]

/-- The letters are the capitals and the small letters of ASCII. -/
theorem isAlpha_iff {c : Char} :
    c.isAlpha = true ↔ 'A' ≤ c ∧ c ≤ 'Z' ∨ 'a' ≤ c ∧ c ≤ 'z' := by
  simp [Char.isAlpha, Char.isUpper, Char.isLower, Char.le_def]

variable {text : Text} {keyword : String}

/-- A keyword of letters is written in letters. -/
theorem isAlpha_of_isKeyword (isWord : text.isKeyword keyword = true)
    (letters : keyword.toList.all Char.isAlpha = true) {c : Char} (member : c ∈ text) :
    c.isAlpha = true := by
  rw [← Char.isAlpha_toLower_eq_isAlpha]
  apply List.all_eq_true.1 letters
  rw [← isKeyword_iff.1 isWord]
  exact List.mem_map_of_mem member

/-- Only the empty keyword is recognized in the empty text. -/
theorem ne_nil_of_isKeyword (isWord : text.isKeyword keyword = true)
    (notEmpty : keyword.toList ≠ []) : text ≠ [] := by
  rintro rfl
  exact notEmpty (isKeyword_iff.1 isWord).symm

/-- The text is the word with each of its letters small or as a capital. -/
def Spells (text : Text) (word : String) : Prop :=
  List.Forall₂ (fun c letter => c = letter ∨ c = letter.toUpper) text word.toList

/-- The small letter and its capital are the only characters that become the letter. -/
theorem toLower_eq_iff {c letter : Char} (small : letter.isLower = true) :
    c.toLower = letter ↔ c = letter ∨ c = letter.toUpper := by
  constructor
  · rintro rfl
    by_cases capital : c.isUpper = true
    · right
      rw [Char.toUpper_toLower_eq_toUpper,
        Char.toUpper_eq_of_not_isLower (Char.not_isLower_of_isUpper capital)]
    · exact .inl (Char.toLower_eq_of_not_isUpper capital).symm
  · have smallStays : letter.toLower = letter :=
      Char.toLower_eq_of_not_isUpper (Char.not_isUpper_of_isLower small)
    rintro (rfl | rfl)
    · exact smallStays
    · rw [Char.toLower_toUpper_eq_toLower, smallStays]

/-- A text becomes small letters exactly if each character is the small letter or its capital. -/
theorem map_toLower_eq_iff {text : Text} {letters : List Char}
    (small : ∀ letter ∈ letters, letter.isLower = true) :
    text.map Char.toLower = letters ↔
      List.Forall₂ (fun c letter => c = letter ∨ c = letter.toUpper) text letters := by
  induction letters generalizing text with
  | nil => simp
  | cons letter letters ih =>
    rw [List.forall_mem_cons] at small
    cases text with
    | nil => simp
    | cons c rest =>
      rw [List.map_cons, List.cons.injEq, List.forall₂_cons, toLower_eq_iff small.1, ih small.2]

/-- A keyword is recognized in all its spellings and in nothing else. -/
theorem isKeyword_iff_spells {text : Text} {word : String}
    (small : word.toList.all Char.isLower = true) :
    text.isKeyword word = true ↔ text.Spells word :=
  isKeyword_iff.trans (map_toLower_eq_iff (List.all_eq_true.1 small))

/-- A spelling of a word consists of letters. -/
theorem Spells.isAlpha {text : Text} {word : String} (small : word.toList.all Char.isLower = true)
    (spelled : text.Spells word) {c : Char} (member : c ∈ text) : c.isAlpha = true := by
  refine isAlpha_of_isKeyword ((isKeyword_iff_spells small).2 spelled) ?_ member
  rw [List.all_eq_true] at small ⊢
  intro letter inWord
  rw [Char.isAlpha, small letter inWord, Bool.or_true]

/-- A spelling of a word is not empty. -/
theorem Spells.ne_nil {text : Text} {word : String} (notEmpty : word.toList ≠ [])
    (spelled : text.Spells word) : text ≠ [] := by
  rintro rfl
  exact notEmpty (List.forall₂_nil_left_iff.1 spelled)

/-- A text is a spelling of one word at most. -/
theorem Spells.unique {text : Text} {word other : String}
    (small : word.toList.all Char.isLower = true)
    (otherSmall : other.toList.all Char.isLower = true)
    (spelled : text.Spells word) (alsoSpelled : text.Spells other) : word = other := by
  apply String.toList_inj.1
  rw [← isKeyword_iff.1 ((isKeyword_iff_spells small).2 spelled),
    ← isKeyword_iff.1 ((isKeyword_iff_spells otherSmall).2 alsoSpelled)]

/-- Whether a text is a keyword does not depend on the ASCII case of its letters. -/
theorem isKeyword_congr {text other : Text} (same : other.foldCase = text.foldCase)
    (word : String) : other.isKeyword word = text.isKeyword word := by
  rw [isKeyword, isKeyword, same]

/-- A text that differs in the case of letters only spells the same word. -/
theorem Spells.congr {text other : Text} {word : String}
    (small : word.toList.all Char.isLower = true) (spelled : text.Spells word)
    (same : other.foldCase = text.foldCase) : other.Spells word := by
  rw [← isKeyword_iff_spells small] at spelled ⊢
  rwa [isKeyword_congr same]

/-- Only a letter differs from another character in nothing but its case. -/
theorem eq_of_toLower_eq {c d : Char} (same : c.toLower = d.toLower)
    (notLetter : d.isAlpha = false) : c = d := by
  have stays {c : Char} (notLetter : c.isAlpha = false) : c.toLower = c := by
    apply Char.toLower_eq_of_not_isUpper
    simp only [Char.isAlpha, Bool.or_eq_false_iff] at notLetter
    simp [notLetter.1]
  have alsoNotLetter : c.isAlpha = false := by
    rw [← Char.isAlpha_toLower_eq_isAlpha, same, Char.isAlpha_toLower_eq_isAlpha, notLetter]
  rw [← stays alsoNotLetter, same, stays notLetter]

/-- A text without letters has one case only. -/
theorem eq_of_foldCase_eq {text other : Text} (same : other.foldCase = text.foldCase)
    (noLetter : ∀ c ∈ text, c.isAlpha = false) : other = text := by
  induction text generalizing other with
  | nil => exact List.map_eq_nil_iff.1 same
  | cons d text ih =>
    obtain ⟨c, rest, rfl, sameFirst, sameRest⟩ := List.map_eq_cons_iff.1 same
    rw [List.forall_mem_cons] at noLetter
    rw [eq_of_toLower_eq sameFirst noLetter.1, ih sameRest noLetter.2]

/-! ## Tables of keywords -/

/-- What stands beside the first word of a table that the text is a spelling of. -/
def named? {α : Type} (table : List (String × α)) (text : Text) : Option α :=
  (table.find? fun entry => text.isKeyword entry.1).map Prod.snd

/-- The words are in small letters, and no word stands in the table twice. -/
structure IsKeywordTable {α : Type} (table : List (String × α)) : Prop where
  small : ∀ entry ∈ table, entry.1.toList.all Char.isLower = true
  unique : table.Pairwise fun entry other => entry.1 ≠ other.1

/-- All words of a table are found in it. -/
theorem IsKeywordTable.named?_eq_some_iff {α : Type} {table : List (String × α)}
    (isTable : IsKeywordTable table) {text : Text} {value : α} :
    text.named? table = some value ↔ ∃ word, (word, value) ∈ table ∧ text.Spells word := by
  obtain ⟨small, unique⟩ := isTable
  rw [named?, Option.map_eq_some_iff]
  constructor
  · rintro ⟨⟨word, other⟩, found, rfl⟩
    have member := List.mem_of_find?_eq_some found
    have isWord := (List.find?_eq_some_iff_append.1 found).1
    exact ⟨word, member, (isKeyword_iff_spells (small _ member)).1 isWord⟩
  · rintro ⟨word, member, spelled⟩
    refine ⟨(word, value), ?_, rfl⟩
    induction table with
    | nil => cases member
    | cons entry rest ih =>
      obtain ⟨different, restUnique⟩ := List.pairwise_cons.1 unique
      obtain ⟨entrySmall, restSmall⟩ := List.forall_mem_cons.1 small
      rcases List.mem_cons.1 member with rfl | later
      · exact List.find?_cons_of_pos ((isKeyword_iff_spells entrySmall).2 spelled)
      · rw [List.find?_cons_of_neg, ih restSmall restUnique later]
        intro isWord
        refine different _ later (Spells.unique entrySmall (restSmall _ later) ?_ spelled)
        exact (isKeyword_iff_spells entrySmall).1 isWord

end Stencil.Text
