/-!
# Text

Texts are lists of Unicode characters. This module holds the operations that
templates, tokens and assignments are taken apart with: keywords compared
without regard to ASCII case, splitting at a separator, and replacing the first
occurrence of a word.
-/

namespace Stencil

/-- A text is the list of its characters. -/
abbrev Text := List Char

namespace Text

/-- The text with its ASCII capitals made small. Other characters stay. -/
def foldCase (text : Text) : Text :=
  text.map Char.toLower

/-- Whether the text is the keyword when ASCII case is disregarded. The keyword
is given in small letters. -/
def isKeyword (text : Text) (keyword : String) : Bool :=
  text.foldCase == keyword.toList

/-- The number of octets of the text in UTF-8. -/
def utf8Length : Text → Nat
  | [] => 0
  | c :: rest => c.utf8Size + utf8Length rest

/-- The parts before and after the first separator, or nothing when there is no
separator. -/
def splitFirst? (separator : Char) : Text → Option (Text × Text)
  | [] => none
  | c :: rest =>
    if c = separator then some ([], rest)
    else (splitFirst? separator rest).map fun (before, after) => (c :: before, after)

/-- A part without the separator ends at the first separator behind it. -/
theorem splitFirst?_append {separator : Char} {before : Text} (absent : separator ∉ before)
    (after : Text) :
    splitFirst? separator (before ++ separator :: after) = some (before, after) := by
  induction before with
  | nil => simp [splitFirst?]
  | cons c rest ih =>
    simp only [List.mem_cons, not_or] at absent
    simp [splitFirst?, Ne.symm absent.1, ih absent.2]

/-- The parts are those around the first separator. -/
theorem splitFirst?_eq_some_iff {separator : Char} {text before after : Text} :
    splitFirst? separator text = some (before, after) ↔
      text = before ++ separator :: after ∧ separator ∉ before := by
  constructor
  · intro found
    induction text generalizing before with
    | nil => cases found
    | cons c rest ih =>
      rw [splitFirst?] at found
      split at found
      · next same =>
        cases found
        subst same
        exact ⟨rfl, List.not_mem_nil⟩
      · next different =>
        obtain ⟨⟨first, second⟩, split, joined⟩ := Option.map_eq_some_iff.1 found
        cases joined
        obtain ⟨rfl, absent⟩ := ih split
        refine ⟨rfl, ?_⟩
        rw [List.mem_cons, not_or]
        exact ⟨Ne.symm different, absent⟩
  · rintro ⟨rfl, absent⟩
    exact splitFirst?_append absent after

/-- The first separator ends the first part, and what is behind it is the second part. -/
theorem splitFirst?_eq (separator : Char) (text : Text) :
    splitFirst? separator text =
      if separator ∈ text then
        some (text.takeWhile (· ≠ separator), (text.dropWhile (· ≠ separator)).tail)
      else none := by
  induction text with
  | nil => rfl
  | cons c rest ih =>
    by_cases same : c = separator
    · simp [splitFirst?, same]
    · by_cases member : separator ∈ rest <;> simp [splitFirst?, same, Ne.symm same, ih, member]

/-- The part before the first separator, and the parts that follow one separator
each. -/
def segments (separator : Char) : Text → Text × List Text
  | [] => ([], [])
  | c :: rest =>
    let (first, others) := segments separator rest
    if c = separator then ([], first :: others) else (c :: first, others)

/-- The parts, each behind a separator of its own. -/
def prefixed (separator : Char) (parts : List Text) : Text :=
  parts.flatMap (separator :: ·)

/-- Joining the segments gives back the text. -/
theorem segments_join (separator : Char) (text : Text) :
    (segments separator text).1 ++ prefixed separator (segments separator text).2 = text := by
  induction text with
  | nil => rfl
  | cons c rest ih =>
    by_cases h : c = separator
    · subst h
      simpa [segments, prefixed] using ih
    · simpa [segments, h] using ih

/-- No segment holds the separator. -/
theorem separator_not_mem_segments (separator : Char) (text : Text) :
    separator ∉ (segments separator text).1 ∧
      ∀ part ∈ (segments separator text).2, separator ∉ part := by
  induction text with
  | nil => simp [segments]
  | cons c rest ih =>
    by_cases h : c = separator
    · simp only [segments, h, if_true]
      exact ⟨by simp, by
        intro part member
        rcases List.mem_cons.1 member with rfl | later
        · exact ih.1
        · exact ih.2 part later⟩
    · simp only [segments, h, if_false]
      exact ⟨by simpa [Ne.symm h] using ih.1, ih.2⟩

/-- The text with the first occurrence of a word replaced by a value. A text
without the word stays as it is; the empty word is found at the start. -/
def replaceFirst (text word value : Text) : Text :=
  match text with
  | [] => if word = [] then value else []
  | c :: rest =>
    if word <+: c :: rest then value ++ (c :: rest).drop word.length
    else c :: replaceFirst rest word value

end Text
end Stencil
