import Stencil.Proofs.Modifier.NumberTokens
import Stencil.Proofs.Text.Keywords

/-!
# The classes of modifier tokens

`Denotes` describes the tokens of each class by themselves, in no order among the classes.
No token is in two classes, so a token may be tried against them in any order, and what
is in no class is unrecognized. The ASCII case of letters makes a difference only where
the letter of a unit does. Main statement: `ofToken_exact`.
-/

namespace Stencil

/-- The words that select a zone. -/
def Zone.words : List (String × Zone) :=
  [("utc", .utc), ("local", .host)]

/-- The words that select a named format. -/
def Preset.words : List (String × Preset) :=
  [("iso", .iso), ("unix", .unix), ("unixms", .unixMillis), ("date", .date), ("time", .time),
    ("datetime", .dateTime)]

namespace Modifier

/-- The kinds of modifiers. -/
inductive Kind
  | pattern
  | zone
  | preset
  | offset
  | range
  deriving DecidableEq, Repr

/-- The kind of a modifier. An unrecognized token is of no kind. -/
def kind? : Modifier → Option Kind
  | .pattern _ => some .pattern
  | .zone _ => some .zone
  | .preset _ => some .preset
  | .offset _ => some .offset
  | .range _ => some .range
  | .unrecognized _ => none

/-- The token is in a class and stands for the modifier. -/
inductive Denotes : Text → Modifier → Prop
  | pattern {keyword pattern : Text} (spelled : keyword.Spells "fmt") (notEmpty : pattern ≠ []) :
      Denotes (keyword ++ ':' :: pattern) (.pattern pattern)
  | zone {token : Text} {word : String} {zone : Zone} (named : (word, zone) ∈ Zone.words)
      (spelled : token.Spells word) : Denotes token (.zone zone)
  | preset {token : Text} {word : String} {preset : Preset} (named : (word, preset) ∈ Preset.words)
      (spelled : token.Spells word) : Denotes token (.preset preset)
  | offset {token : Text} {offset : Offset} (accepted : Offset.parse token = .ok offset) :
      Denotes token (.offset offset)
  | range {token : Text} {range : Range} (accepted : Range.parse token = .ok range) :
      Denotes token (.range range)

/-- The modifier that a token stands for, or the token as unrecognized if it is in no class. -/
def Classifies (token : Text) (modifier : Modifier) : Prop :=
  Denotes token modifier ∨
    modifier = .unrecognized token ∧ ∀ other, ¬ Denotes token other

/-- What a token is tried against. -/
def recognizers : List (Text → Option Modifier) :=
  [fun token => (pattern? token).map .pattern,
    fun token => (Zone.ofKeyword? token).map .zone,
    fun token => (Preset.ofKeyword? token).map .preset,
    fun token => (Offset.ofToken? token).map .offset,
    fun token => (Range.ofToken? token).map .range]

/-- The class of a token that is tried against recognizers one after the other. -/
def tryInOrder (order : List (Text → Option Modifier)) (token : Text) : Modifier :=
  (order.findSome? fun recognize => recognize token).getD (.unrecognized token)

/-- A token is tried against the recognizers in the order of the list. -/
theorem ofToken_eq_tryInOrder (token : Text) : ofToken token = tryInOrder recognizers token := by
  simp only [ofToken, tryInOrder, recognizers, List.findSome?]
  cases pattern? token <;> cases Zone.ofKeyword? token <;> cases Preset.ofKeyword? token <;>
    cases Offset.ofToken? token <;> cases Range.ofToken? token <;> rfl

/-! ## Each class by itself -/

/-- The keyword of a pattern is `fmt` in any spelling. -/
theorem isKeyword_formatKeyword_iff {keyword : Text} :
    keyword.isKeyword formatKeyword = true ↔ keyword.Spells "fmt" :=
  Text.isKeyword_iff_spells (by decide)

/-- A pattern is what stands behind `fmt` and the first colon, if there is anything. -/
theorem pattern?_eq_some_iff {token pattern : Text} :
    pattern? token = some pattern ↔
      ∃ keyword : Text, keyword.Spells "fmt" ∧ pattern ≠ [] ∧
        token = keyword ++ ':' :: pattern := by
  constructor
  · intro found
    unfold pattern? at found
    split at found
    · next keyword rest parts =>
      obtain ⟨⟨spelled, notEmpty⟩, same⟩ := Option.ite_none_right_eq_some.1 found
      cases same
      exact ⟨keyword, isKeyword_formatKeyword_iff.1 spelled, notEmpty,
        (Text.splitFirst?_eq_some_iff.1 parts).1⟩
    · cases found
  · rintro ⟨keyword, spelled, notEmpty, rfl⟩
    have noColon : ':' ∉ keyword := fun member =>
      absurd (spelled.isAlpha (by decide) member) (by decide)
    rw [pattern?, Text.splitFirst?_append noColon]
    exact if_pos ⟨isKeyword_formatKeyword_iff.2 spelled, notEmpty⟩

end Modifier

/-- No word for a zone is written in capitals, and none stands for two zones. -/
theorem Zone.isKeywordTable_words : Text.IsKeywordTable words :=
  ⟨by decide, by decide⟩

/-- Zones are recognized by their words and by nothing else. -/
theorem Zone.ofKeyword?_eq_named? (token : Text) : ofKeyword? token = token.named? words := by
  by_cases isUtc : token.isKeyword "utc" = true
  · simp [ofKeyword?, Text.named?, words, isUtc]
  · by_cases isLocal : token.isKeyword "local" = true <;>
      simp [ofKeyword?, Text.named?, words, isUtc, isLocal]

/-- No word for a preset is written in capitals, and none stands for two presets. -/
theorem Preset.isKeywordTable_words : Text.IsKeywordTable words :=
  ⟨by decide, by decide⟩

/-- Presets are recognized by their words and by nothing else. -/
theorem Preset.ofKeyword?_eq_named? (token : Text) : ofKeyword? token = token.named? words := by
  have entries : words = all.map fun preset => (preset.keyword, preset) := rfl
  rw [ofKeyword?, Text.named?, entries, List.find?_map, Option.map_map]
  exact (congrFun Option.map_id _).symm

/-- An offset starts with its sign. -/
theorem Offset.exists_sign {token : Text} {offset : Offset} (read : ofToken? token = some offset) :
    ∃ sign rest, token = sign :: rest ∧ (sign = '+' ∨ sign = '-') := by
  cases ofToken?_eq_some_iff.1 read with
  | ahead => exact ⟨_, _, rfl, .inl rfl⟩
  | back => exact ⟨_, _, rfl, .inr rfl⟩

/-- A digit is no letter. -/
theorem Decimal.not_isAlpha_of_isDigit {c : Char} (digit : c.isDigit = true) :
    c.isAlpha = false := by
  grind [Char.isDigit, Char.isAlpha, Char.isUpper, Char.isLower]

/-- A range consists of digits before and behind a minus sign. -/
theorem Range.exists_digits {token : Text} {range : Range} (read : ofToken? token = some range) :
    ∃ first second : Text, token = first ++ '-' :: second ∧ first ≠ [] ∧
      (∀ c ∈ first, c.isDigit = true) ∧ ∀ c ∈ second, c.isDigit = true := by
  obtain ⟨isMin, -, isMax, -⟩ := ofToken?_eq_some_iff.1 read
  exact ⟨_, _, rfl, isMin.ne_nil, isMin.isDigit_of_mem, isMax.isDigit_of_mem⟩

namespace Modifier

/-- The recognizers together recognize what is in some class. -/
theorem exists_recognizer_iff {token : Text} {modifier : Modifier} :
    (∃ recognize ∈ recognizers, recognize token = some modifier) ↔ Denotes token modifier := by
  simp only [recognizers, List.exists_mem_cons_iff, List.not_mem_nil, false_and, exists_false,
    or_false, Option.map_eq_some_iff, Zone.ofKeyword?_eq_named?, Preset.ofKeyword?_eq_named?]
  constructor
  · rintro (⟨pattern, read, rfl⟩ | ⟨zone, read, rfl⟩ | ⟨preset, read, rfl⟩ | ⟨offset, read, rfl⟩ |
      ⟨range, read, rfl⟩)
    · obtain ⟨keyword, spelled, notEmpty, rfl⟩ := pattern?_eq_some_iff.1 read
      exact .pattern spelled notEmpty
    · obtain ⟨word, named, spelled⟩ := Zone.isKeywordTable_words.named?_eq_some_iff.1 read
      exact .zone named spelled
    · obtain ⟨word, named, spelled⟩ := Preset.isKeywordTable_words.named?_eq_some_iff.1 read
      exact .preset named spelled
    · exact .offset (Offset.parse_eq_ok_iff.2 read)
    · exact .range (Range.parse_eq_ok_iff.2 read)
  · rintro (⟨spelled, notEmpty⟩ | ⟨named, spelled⟩ | ⟨named, spelled⟩ | accepted | accepted)
    · exact .inl ⟨_, pattern?_eq_some_iff.2 ⟨_, spelled, notEmpty, rfl⟩, rfl⟩
    · exact .inr (.inl ⟨_, Zone.isKeywordTable_words.named?_eq_some_iff.2 ⟨_, named, spelled⟩, rfl⟩)
    · exact .inr (.inr (.inl
        ⟨_, Preset.isKeywordTable_words.named?_eq_some_iff.2 ⟨_, named, spelled⟩, rfl⟩))
    · exact .inr (.inr (.inr (.inl ⟨_, Offset.parse_eq_ok_iff.1 accepted, rfl⟩)))
    · exact .inr (.inr (.inr (.inr ⟨_, Range.parse_eq_ok_iff.1 accepted, rfl⟩)))

/-! ## No token in two classes -/

/-- What starts with no letter is no word of a table. -/
theorem named?_eq_none_of_not_isAlpha {α : Type} {table : List (String × α)}
    (isTable : Text.IsKeywordTable table) {c : Char} (notLetter : c.isAlpha = false) (rest : Text) :
    Text.named? table (c :: rest) = none := by
  rw [Option.eq_none_iff_forall_ne_some]
  intro value found
  obtain ⟨word, named, spelled⟩ := isTable.named?_eq_some_iff.1 found
  have letter := spelled.isAlpha (isTable.small _ named) List.mem_cons_self
  exact Bool.false_ne_true (notLetter.symm.trans letter)

/-- No pattern is announced by a token that starts with something other than a letter. -/
theorem pattern?_eq_none_of_not_isAlpha {c : Char} (notLetter : c.isAlpha = false) (rest : Text) :
    pattern? (c :: rest) = none := by
  rw [Option.eq_none_iff_forall_ne_some]
  intro pattern found
  obtain ⟨keyword, spelled, -, parts⟩ := pattern?_eq_some_iff.1 found
  obtain ⟨first, letters, rfl⟩ := List.exists_cons_of_ne_nil (spelled.ne_nil (by decide))
  obtain ⟨rfl, -⟩ := List.cons.inj parts
  have letter := spelled.isAlpha (by decide) List.mem_cons_self
  exact Bool.false_ne_true (notLetter.symm.trans letter)

/-- A word holds no colon. -/
theorem pattern?_eq_none_of_spells {token : Text} {word : String}
    (small : word.toList.all Char.isLower = true) (spelled : token.Spells word) :
    pattern? token = none := by
  rw [Option.eq_none_iff_forall_ne_some]
  intro pattern found
  obtain ⟨keyword, -, -, rfl⟩ := pattern?_eq_some_iff.1 found
  have colon : ':' ∈ keyword ++ ':' :: pattern := List.mem_append_right _ List.mem_cons_self
  exact absurd (spelled.isAlpha small colon) (by decide)

/-- No word selects both a zone and a format. -/
theorem named?_zone_eq_none {token : Text} {word : String} {preset : Preset}
    (named : (word, preset) ∈ Preset.words) (spelled : token.Spells word) :
    token.named? Zone.words = none := by
  have different : ∀ entry ∈ Zone.words, ∀ other ∈ Preset.words, entry.1 ≠ other.1 := by decide
  rw [Option.eq_none_iff_forall_ne_some]
  intro zone found
  obtain ⟨other, otherNamed, alsoSpelled⟩ := Zone.isKeywordTable_words.named?_eq_some_iff.1 found
  have otherSmall := Zone.isKeywordTable_words.small _ otherNamed
  have small := Preset.isKeywordTable_words.small _ named
  exact different _ otherNamed _ named (Text.Spells.unique otherSmall small alsoSpelled spelled)

/-- What a token stands for is found, whatever is tried before. -/
theorem Denotes.ofToken_eq {token : Text} {modifier : Modifier} (denotes : Denotes token modifier) :
    ofToken token = modifier := by
  rw [ofToken, Zone.ofKeyword?_eq_named?, Preset.ofKeyword?_eq_named?]
  cases denotes with
  | pattern spelled notEmpty =>
    rw [pattern?_eq_some_iff.2 ⟨_, spelled, notEmpty, rfl⟩]
    rfl
  | zone named spelled =>
    rw [pattern?_eq_none_of_spells (Zone.isKeywordTable_words.small _ named) spelled,
      Zone.isKeywordTable_words.named?_eq_some_iff.2 ⟨_, named, spelled⟩]
    rfl
  | preset named spelled =>
    rw [pattern?_eq_none_of_spells (Preset.isKeywordTable_words.small _ named) spelled,
      named?_zone_eq_none named spelled,
      Preset.isKeywordTable_words.named?_eq_some_iff.2 ⟨_, named, spelled⟩]
    rfl
  | offset accepted =>
    have read := Offset.parse_eq_ok_iff.1 accepted
    obtain ⟨sign, rest, rfl, isSign⟩ := Offset.exists_sign read
    -- A word and `fmt` start with a letter, an offset with its sign.
    have notLetter : sign.isAlpha = false := by rcases isSign with rfl | rfl <;> rfl
    rw [pattern?_eq_none_of_not_isAlpha notLetter,
      named?_eq_none_of_not_isAlpha Zone.isKeywordTable_words notLetter,
      named?_eq_none_of_not_isAlpha Preset.isKeywordTable_words notLetter, read]
    rfl
  | range accepted =>
    have read := Range.parse_eq_ok_iff.1 accepted
    obtain ⟨first, second, rfl, notEmpty, digits, -⟩ := Range.exists_digits read
    obtain ⟨digit, others, rfl⟩ := List.exists_cons_of_ne_nil notEmpty
    have isDigit := digits digit List.mem_cons_self
    have notLetter := Decimal.not_isAlpha_of_isDigit isDigit
    -- A range starts with a digit, which is neither a letter nor a sign.
    have noOffset : Offset.ofToken? (digit :: others ++ '-' :: second) = none := by
      rw [Option.eq_none_iff_forall_ne_some]
      intro offset found
      obtain ⟨sign, rest, starts, isSign⟩ := Offset.exists_sign found
      obtain ⟨rfl, -⟩ := List.cons.inj starts
      rcases isSign with rfl | rfl <;> exact absurd isDigit (by decide)
    rw [List.cons_append] at read noOffset ⊢
    rw [pattern?_eq_none_of_not_isAlpha notLetter,
      named?_eq_none_of_not_isAlpha Zone.isKeywordTable_words notLetter,
      named?_eq_none_of_not_isAlpha Preset.isKeywordTable_words notLetter, noOffset, read]
    rfl

/-- No token stands for two modifiers. -/
theorem Denotes.unique {token : Text} {first second : Modifier} (denotes : Denotes token first)
    (alsoDenotes : Denotes token second) : first = second :=
  denotes.ofToken_eq.symm.trans alsoDenotes.ofToken_eq

/-- In any order the recognizers find the class of a token. -/
theorem tryInOrder_eq_of_classifies {order : List (Text → Option Modifier)}
    (perm : order.Perm recognizers) {token : Text} {modifier : Modifier}
    (classifies : Classifies token modifier) : tryInOrder order token = modifier := by
  unfold tryInOrder
  cases found : order.findSome? fun recognize => recognize token with
  | none =>
    rcases classifies with denotes | ⟨rfl, -⟩
    · obtain ⟨recognize, member, recognized⟩ := exists_recognizer_iff.2 denotes
      have missed := List.findSome?_eq_none_iff.1 found recognize (perm.mem_iff.2 member)
      rw [recognized] at missed
      cases missed
    · rfl
  | some other =>
    obtain ⟨recognize, member, recognized⟩ := List.exists_of_findSome?_eq_some found
    have otherDenotes := exists_recognizer_iff.1 ⟨recognize, perm.mem_iff.1 member, recognized⟩
    rcases classifies with denotes | ⟨-, none⟩
    · exact otherDenotes.unique denotes
    · exact absurd otherDenotes (none other)

/-- The modifier that a token is taken for is the one that it stands for. -/
theorem classifies_ofToken (token : Text) : Classifies token (ofToken token) := by
  by_cases known : ∃ modifier, Denotes token modifier
  · obtain ⟨modifier, denotes⟩ := known
    rw [denotes.ofToken_eq]
    exact .inl denotes
  · have unknown : Classifies token (.unrecognized token) := .inr ⟨rfl, not_exists.1 known⟩
    rw [ofToken_eq_tryInOrder, tryInOrder_eq_of_classifies (.refl _) unknown]
    exact unknown

/-! ## Other spellings -/

/-- A token that differs in the case of its letters only is in the same class, unless the
letter is that of a unit. -/
theorem Denotes.exists_of_foldCase_eq {token other : Text} {modifier : Modifier}
    (denotes : Denotes token modifier) (same : other.foldCase = token.foldCase)
    (notOffset : modifier.kind? ≠ some .offset) :
    ∃ also, Denotes other also ∧ also.kind? = modifier.kind? := by
  cases denotes with
  | @pattern keyword pattern spelled notEmpty =>
    obtain ⟨otherKeyword, behind, rfl, sameKeyword, sameBehind⟩ :=
      List.map_eq_append_iff.1 (same.trans List.map_append)
    obtain ⟨colon, otherPattern, rfl, sameColon, samePattern⟩ := List.map_eq_cons_iff.1 sameBehind
    rw [Text.eq_of_toLower_eq sameColon (by decide)]
    refine ⟨.pattern otherPattern, .pattern (spelled.congr (by decide) sameKeyword) ?_, rfl⟩
    rintro rfl
    exact notEmpty (List.map_eq_nil_iff.1 samePattern.symm)
  | zone named spelled =>
    exact ⟨_, .zone named (spelled.congr (Zone.isKeywordTable_words.small _ named) same), rfl⟩
  | preset named spelled =>
    exact ⟨_, .preset named (spelled.congr (Preset.isKeywordTable_words.small _ named) same), rfl⟩
  | offset accepted => exact absurd rfl notOffset
  | range accepted =>
    obtain ⟨first, second, parts, -, digits, alsoDigits⟩ :=
      Range.exists_digits (Range.parse_eq_ok_iff.1 accepted)
    have unchanged : other = token := by
      refine Text.eq_of_foldCase_eq same fun c member => ?_
      rw [parts, List.mem_append, List.mem_cons] at member
      rcases member with inFirst | rfl | inSecond
      · exact Decimal.not_isAlpha_of_isDigit (digits c inFirst)
      · rfl
      · exact Decimal.not_isAlpha_of_isDigit (alsoDigits c inSecond)
    rw [unchanged]
    exact ⟨_, .range accepted, rfl⟩

/-- What a token has in common with its other spellings: the kind, if it is of one and is no
offset. -/
theorem kind?_ofToken_eq_of_foldCase_eq {token other : Text}
    (same : other.foldCase = token.foldCase) (known : (ofToken token).kind? ≠ none)
    (notOffset : (ofToken token).kind? ≠ some .offset) :
    (ofToken other).kind? = (ofToken token).kind? := by
  rcases classifies_ofToken token with denotes | ⟨unrecognized, -⟩
  · obtain ⟨also, alsoDenotes, sameKind⟩ := denotes.exists_of_foldCase_eq same notOffset
    rw [alsoDenotes.ofToken_eq, sameKind]
  · rw [unrecognized] at known
    exact absurd rfl known

/-- A token has one class, which is the one that it is given. No token is in two of the classes
that there are beside the unrecognized tokens, so it may be tried against them in any order.
Another spelling, different in the ASCII case of letters only, is in the same class, except that
one of the two may be an offset and the other one unrecognized. -/
theorem ofToken_exact (token : Text) :
    (∀ modifier, ofToken token = modifier ↔ Classifies token modifier) ∧
      (∀ first second, Denotes token first → Denotes token second → first = second) ∧
      (∀ order : List (Text → Option Modifier), order.Perm recognizers →
        tryInOrder order token = ofToken token) ∧
      ∀ other : Text, other.foldCase = token.foldCase →
        (ofToken other).kind? = (ofToken token).kind? ∨
          (ofToken token).kind? = some .offset ∧ (ofToken other).kind? = none ∨
          (ofToken token).kind? = none ∧ (ofToken other).kind? = some .offset := by
  refine ⟨fun modifier => ?_, fun _ _ => Denotes.unique,
    fun order perm => tryInOrder_eq_of_classifies perm (classifies_ofToken token), ?_⟩
  · constructor
    · rintro rfl
      exact classifies_ofToken token
    · intro classifies
      rw [ofToken_eq_tryInOrder, tryInOrder_eq_of_classifies (.refl _) classifies]
  · intro other same
    by_cases settled : (ofToken token).kind? ≠ none ∧ (ofToken token).kind? ≠ some .offset
    · exact .inl (kind?_ofToken_eq_of_foldCase_eq same settled.1 settled.2)
    by_cases otherSettled : (ofToken other).kind? ≠ none ∧ (ofToken other).kind? ≠ some .offset
    · exact .inl (kind?_ofToken_eq_of_foldCase_eq same.symm otherSettled.1 otherSettled.2).symm
    grind

/-- A small `d` counts days, and a capital one counts nothing. -/
theorem ofToken_exact_days :
    let days : Text := "+7d".toList
    let capital : Text := "+7D".toList
    Denotes days (.offset ⟨7, .days⟩) ∧ ¬ Denotes days (.unrecognized days) ∧
      recognizers.reverse.Perm recognizers ∧
      tryInOrder recognizers.reverse days = .offset ⟨7, .days⟩ ∧
      capital.foldCase = days.foldCase ∧
      (ofToken days).kind? = some .offset ∧ (ofToken capital).kind? = none := by
  intro days capital
  obtain ⟨isClass, unique, anyOrder, spellings⟩ := ofToken_exact days
  have denotes : Denotes days (.offset ⟨7, .days⟩) := .offset rfl
  have given : ofToken days = .offset ⟨7, .days⟩ := (isClass _).2 (.inl denotes)
  have isOffset : (ofToken days).kind? = some .offset := by rw [given]; rfl
  have reversed := List.reverse_perm recognizers
  have same : capital.foldCase = days.foldCase := by decide
  have notOffset : (ofToken capital).kind? ≠ some .offset := by decide
  refine ⟨denotes, fun also => ?_, reversed, (anyOrder _ reversed).trans given, same, isOffset, ?_⟩
  · cases unique _ _ denotes also
  · rcases spellings capital same with unchanged | ⟨-, unrecognized⟩ | ⟨unrecognized, -⟩
    · exact absurd (unchanged.trans isOffset) notOffset
    · exact unrecognized
    · cases isOffset.symm.trans unrecognized

end Modifier
end Stencil
