import Mathlib.Data.List.TakeWhile
import Stencil.Json.Record
import Stencil.Proofs.Json.Strings
import Stencil.Proofs.Text.Numerals

/-!
# Written documents are read back

The document of a record is read as one object that has the fields of the record as its
members, in order: first its tokens, then the value that they form. A record whose fields
have different names is found again in that object. Main statements:
`ofOctets?_encode_record` and `record?_value`.
-/

namespace Stencil.Json

/-- The token that a written value is read as. -/
def Scalar.token : Scalar → Token
  | .null => .null
  | .bool value => .bool value
  | .number value => .number (Decimal.write value)
  | .text content => .string (content.flatMap Part.written)

/-- The value that a written value is read as. -/
def Scalar.value : Scalar → Value
  | .null => .null
  | .bool value => .bool value
  | .number value => .number (Decimal.write value)
  | .text content => .string (content.flatMap Part.written)

namespace Document

/-- The tokens of a member. -/
def memberTokens (field : Text × Scalar) : List Token :=
  [.string (field.1.flatMap Part.written), .colon, field.2.token]

/-- The tokens of members, with a comma between each and the next. -/
def membersTokens : List (Text × Scalar) → List Token
  | [] => []
  | [last] => memberTokens last
  | first :: rest => memberTokens first ++ .comma :: membersTokens rest

/-- The member of an object that a written member is read as. -/
def memberValue (field : Text × Scalar) : List Part × Value :=
  (field.1.flatMap Part.written, field.2.value)

/-- The field that a written member gives. -/
def fieldValue (field : Text × Scalar) : Text × Value :=
  (field.1, field.2.value)

/-- The object that the document of a record is read as. -/
def value (fields : List (Text × Scalar)) : Value :=
  .object (fields.map memberValue)

end Document

/-- The numeral of a number is a number of JSON: it has no leading zeros. -/
theorem Number.isLiteral_write (n : Nat) : isLiteral (Decimal.write n) = true := by
  have digits : ∀ c ∈ Decimal.write n, c.isDigit = true := fun _ => Decimal.isDigit_of_mem_write
  have whole : (Decimal.write n).takeWhile Char.isDigit = Decimal.write n :=
    List.takeWhile_eq_self_iff.2 digits
  have nothing : (Decimal.write n).dropWhile Char.isDigit = [] :=
    List.dropWhile_eq_nil_iff.2 digits
  have leading : Decimal.write n = ['0'] ∨ (Decimal.write n).head? ≠ some '0' :=
    (Classical.em _).symm.imp_left fun zero =>
      (Decimal.isNumeral_write n).noLeadingZero (not_not.1 zero)
  unfold isLiteral
  split
  · next rest same => exact absurd (digits '-' (by simp [same])) (by decide)
  · simpa [isUnsigned, whole, nothing, isFraction, isExponent, Decimal.write_ne_nil] using leading

namespace Token

/-- The numeral of a number is a number token. -/
theorem ofBare?_write (n : Nat) : ofBare? (Decimal.write n) = some (.number (Decimal.write n)) := by
  have noWord (word : Text) (c : Char) (member : c ∈ word) (noDigit : c.isDigit = false) :
      Decimal.write n ≠ word := fun same =>
    Bool.false_ne_true (noDigit.symm.trans (Decimal.isDigit_of_mem_write (same ▸ member)))
  rw [ofBare?, if_neg (noWord _ 'n' (by decide) (by decide)),
    if_neg (noWord _ 't' (by decide) (by decide)), if_neg (noWord _ 'f' (by decide) (by decide)),
    if_pos (Number.isLiteral_write n)]

/-- A digit is an ASCII character. -/
theorem ascii_of_isDigit {c : Char} (digit : c.isDigit = true) : c.toNat < 0x80 := by
  simp only [Char.isDigit, Bool.and_eq_true, decide_eq_true_eq] at digit
  exact Nat.lt_of_le_of_lt (UInt32.le_iff_toNat_le.1 digit.2) (by decide)

namespace Reader

variable {tokens : List Token}

/-- An ASCII character is taken for itself. -/
theorem ofNat_toNat_of_ascii {c : Char} (ascii : c.toNat < 0x80) :
    Char.ofNat (UInt8.ofNat c.toNat).toNat = c := by
  have same : (UInt8.ofNat c.toNat).toNat = c.toNat := by
    rw [UInt8.toNat_ofNat']
    omega
  rw [same, Char.ofNat_toNat]

/-- Between tokens an ASCII character is read as what it means there. -/
theorem Reads.between {c : Char} {after : Reader} (ascii : c.toNat < 0x80)
    (fed : feedBetween tokens c = some after) : Reads { tokens } [c] after := by
  apply Reads.ascii ascii
  rw [feed, ofNat_toNat_of_ascii ascii]
  exact fed

/-- An ASCII character that a word can hold goes on with the word. -/
theorem Reads.bare {word : Text} {c : Char} (ascii : c.toNat < 0x80) (isWord : isBare c = true) :
    Reads { mode := .bare word, tokens } [c] { mode := .bare (c :: word), tokens } := by
  apply Reads.ascii ascii
  rw [feed, ofNat_toNat_of_ascii ascii]
  exact if_pos isWord

/-- A character that a word can hold starts one. -/
theorem feedBetween_of_isBare {c : Char} (isWord : isBare c = true) :
    feedBetween tokens c = some { mode := .bare [c], tokens } := by
  have other (mark : Char) (noWord : isBare mark = false) : c ≠ mark := by
    rintro rfl
    exact Bool.false_ne_true (noWord.symm.trans isWord)
  have notBlank : isBlank c = false := by
    simp [isBlank, other ' ' (by decide), other '\n' (by decide), other '\t' (by decide),
      other '\r' (by decide)]
  rw [feedBetween, if_neg (by simp [notBlank]), if_neg (other '"' (by decide)), if_pos isWord]

/-- Behind a word comes a character that no word can hold. -/
theorem Reads.endBare {word : Text} {token : Token} {c : Char} {after : Reader}
    (formed : ofBare? word.reverse = some token) (ascii : c.toNat < 0x80)
    (ends : isBare c = false) (fed : feedBetween (token :: tokens) c = some after) :
    Reads { mode := .bare word, tokens } [c] after := by
  apply Reads.ascii ascii
  rw [feed, ofNat_toNat_of_ascii ascii]
  simp only [ends, Bool.false_eq_true, if_false, formed, Option.bind_some, fed]

/-- A word is read character by character. -/
theorem Reads.word {word : Text} (notEmpty : word ≠ [])
    (isWord : ∀ c ∈ word, isBare c = true ∧ c.toNat < 0x80) :
    Reads { tokens } word { mode := .bare word.reverse, tokens } := by
  have onward (before : Text) {rest : Text}
      (restIsWord : ∀ c ∈ rest, isBare c = true ∧ c.toNat < 0x80) :
      Reads { mode := .bare before, tokens } rest
        { mode := .bare (rest.reverse ++ before), tokens } := by
    induction rest generalizing before with
    | nil => exact Reads.nil _
    | cons first rest ih =>
      obtain ⟨⟨firstBare, firstAscii⟩, others⟩ := List.forall_mem_cons.1 restIsWord
      rw [List.reverse_cons, List.append_assoc]
      exact (Reads.bare firstAscii firstBare).append (ih (first :: before) others)
  cases word with
  | nil => exact absurd rfl notEmpty
  | cons first rest =>
    obtain ⟨⟨firstBare, firstAscii⟩, others⟩ := List.forall_mem_cons.1 isWord
    have started : Reads { tokens } [first] { mode := .bare [first], tokens } :=
      Reads.between firstAscii (feedBetween_of_isBare firstBare)
    rw [List.reverse_cons]
    exact started.append (onward [first] others)

/-- A written value is read as its token when a character follows that no word can hold. -/
theorem Reads.scalar (value : Scalar) {c : Char} {after : Reader} (ascii : c.toNat < 0x80)
    (ends : isBare c = false) (fed : feedBetween (value.token :: tokens) c = some after) :
    Reads { tokens } (Document.scalar value ++ [c]) after := by
  have asWord {word : Text} (notEmpty : word ≠ [])
      (isWord : ∀ c ∈ word, isBare c = true ∧ c.toNat < 0x80)
      (formed : ofBare? word = some value.token) : Reads { tokens } (word ++ [c]) after := by
    refine (Reads.word notEmpty isWord).append (Reads.endBare ?_ ascii ends fed)
    rw [List.reverse_reverse, formed]
  have letters {word : Text} (all : word.all fun c => isBare c && decide (c.toNat < 0x80)) :
      ∀ c ∈ word, isBare c = true ∧ c.toNat < 0x80 := by
    simpa using all
  cases value with
  | null => exact asWord (by decide) (letters rfl) rfl
  | bool value => cases value <;> exact asWord (by decide) (letters rfl) rfl
  | number value =>
    refine asWord (Decimal.write_ne_nil value) (fun c member => ?_) (ofBare?_write value)
    have digit := Decimal.isDigit_of_mem_write member
    exact ⟨by simp [isBare, Char.isAlphanum, digit], ascii_of_isDigit digit⟩
  | text content => exact (Reads.quote content).append (Reads.between ascii fed)

/-- A written member is read as its key, a colon and its value. -/
theorem Reads.member (field : Text × Scalar) {c : Char} {after : Reader} (ascii : c.toNat < 0x80)
    (ends : isBare c = false)
    (fed : feedBetween ((Document.memberTokens field).reverse ++ tokens) c = some after) :
    Reads { tokens } (Document.member field ++ [c]) after := by
  have indent : Reads { tokens } [' ', ' '] { tokens } := rfl
  have colon (tokens : List Token) : Reads { tokens } [':', ' '] { tokens := .colon :: tokens } :=
    rfl
  have parts : Document.member field ++ [c] =
      [' ', ' '] ++ Document.quote field.1 ++ [':', ' '] ++ (Document.scalar field.2 ++ [c]) := by
    simp [Document.member]
  rw [parts]
  exact ((indent.append (Reads.quote field.1)).append (colon _)).append
    (Reads.scalar field.2 ascii ends fed)

/-- Written members are read as their tokens. -/
theorem Reads.members (fields : List (Text × Scalar)) :
    Reads { tokens } (Document.members fields)
      { tokens := (Document.membersTokens fields).reverse ++ tokens } := by
  fun_induction Document.members fields generalizing tokens with
  | case1 => exact Reads.nil _
  | case2 last => exact Reads.member last (by decide) (by decide) rfl
  | case3 first rest notLast ih =>
    have comma : Reads { tokens } (Document.member first ++ [','])
        { tokens := .comma :: ((Document.memberTokens first).reverse ++ tokens) } :=
      Reads.member first (by decide) (by decide) rfl
    have newline (tokens : List Token) : Reads { tokens } ['\n'] { tokens } := rfl
    have text : Document.member first ++ ',' :: '\n' :: Document.members rest =
        (Document.member first ++ [',']) ++ ['\n'] ++ Document.members rest := by simp
    have read := (comma.append (newline _)).append ih
    rw [text]
    cases rest with
    | nil => exact absurd rfl notLast
    | cons second rest => simpa [Document.membersTokens] using read

/-- The document of a record is read as the tokens of its members in braces. -/
theorem Reads.record (fields : List (Text × Scalar)) :
    Reads {} (Document.record fields)
      { tokens := .closeObject :: ((Document.membersTokens fields).reverse ++ [.openObject]) } := by
  have opened : Reads {} ['{', '\n'] { tokens := [.openObject] } := rfl
  have closed (tokens : List Token) :
      Reads { tokens } ['}', '\n'] { tokens := .closeObject :: tokens } := rfl
  exact (opened.append (Reads.members fields)).append (closed _)

end Reader

/-- The tokens of a written record are those of its members between braces. -/
theorem ofOctets?_encode_record_eq (fields : List (Text × Scalar)) :
    ofOctets? (Utf8.encode (Document.record fields)) =
      some (.openObject :: Document.membersTokens fields ++ [.closeObject]) := by
  have read : (Utf8.encode (Document.record fields)).foldlM Reader.feed {} = _ :=
    Reader.Reads.record fields
  rw [ofOctets?, read]
  simp [Reader.finish]

end Token

namespace Value

open Document

namespace Reader

variable {stack : List Frame}

/-- The token of a written value stands for the value. -/
theorem start_token (stack : List Frame) (scalar : Scalar) :
    start stack scalar.token = some (place scalar.value stack) := by
  cases scalar <;> rfl

/-- The tokens of a member are read as the member. -/
theorem foldlM_feed_memberTokens (field : Text × Scalar) (before : List (List Part × Value)) :
    (memberTokens field).foldlM feed { stack, phase := .key before } =
      some { stack, phase := .afterMember (memberValue field :: before) } := by
  have key : feed { stack, phase := .key before } (.string (field.1.flatMap Part.written)) =
      some { stack, phase := .colon before (field.1.flatMap Part.written) } := by
    cases before <;> rfl
  have value := start_token (.object before (field.1.flatMap Part.written) :: stack) field.2
  simp only [memberTokens, List.foldlM_cons, key, List.foldlM_nil]
  exact congrArg (· >>= pure) value

/-- The tokens of members are read as the members. -/
theorem foldlM_feed_membersTokens {fields : List (Text × Scalar)} (notEmpty : fields ≠ [])
    (before : List (List Part × Value)) :
    (membersTokens fields).foldlM feed { stack, phase := .key before } =
      some { stack, phase := .afterMember ((fields.map memberValue).reverse ++ before) } := by
  fun_induction membersTokens fields generalizing before with
  | case1 => exact absurd rfl notEmpty
  | case2 last => exact foldlM_feed_memberTokens last before
  | case3 first rest notLast ih =>
    have onward := ih (by simpa using notLast) (memberValue first :: before)
    rw [List.foldlM_append, foldlM_feed_memberTokens]
    simpa [feed] using onward

end Reader

/-- The document of a record is read as one object with its fields. -/
theorem ofOctets?_encode_record (fields : List (Text × Scalar)) :
    ofOctets? (Utf8.encode (Document.record fields)) = some (Document.value fields) := by
  rw [ofOctets?, Token.ofOctets?_encode_record_eq, Option.bind_some, ofTokens?]
  cases fields with
  | nil => rfl
  | cons first rest =>
    have opened : Reader.feed {} .openObject = some { phase := .key [] } := rfl
    have read : (membersTokens (first :: rest)).foldlM Reader.feed { phase := .key [] } = _ :=
      Reader.foldlM_feed_membersTokens (List.cons_ne_nil first rest) []
    rw [List.cons_append, List.foldlM_cons, opened, Option.bind_eq_bind, Option.bind_some,
      List.foldlM_append, read]
    simp [Reader.feed, Reader.place, Reader.finish, Document.value]

/-- The keys of a written object are the names of its fields. -/
theorem named?_map_memberValue (fields : List (Text × Scalar)) :
    named? (fields.map memberValue) = some (fields.map fieldValue) := by
  induction fields with
  | nil => rfl
  | cons first rest ih =>
    rw [named?] at ih
    rw [named?, List.map_cons, List.mapM_cons, ih]
    simp [memberValue, fieldValue]

/-- The fields of a written record are found again if their names are different. -/
theorem record?_value {names : List Text} {fields : List (Text × Scalar)}
    (named : fields.map Prod.fst = names) (distinct : names.Nodup) :
    (Document.value fields).record? names = some (fields.map fieldValue) := by
  have sameNames : (fields.map fieldValue).map Prod.fst = names := by
    rw [← named, List.map_map]
    rfl
  have all : (fields.map fieldValue).filter (fun member => member.1 ∈ names) =
      fields.map fieldValue := by
    rw [List.filter_eq_self]
    intro member isField
    exact decide_eq_true (sameNames ▸ List.mem_map_of_mem isField)
  rw [Document.value, record?, named?_map_memberValue, Option.bind_eq_bind, Option.bind_some, all]
  exact if_pos (sameNames.symm ▸ distinct)

end Value

namespace Record

open Document

variable {fields : List (Text × Scalar)} {name : Text} {scalar : Scalar}

/-- A field of a written record is looked up by its name if the names are different. -/
theorem lookup_map_fieldValue (distinct : (fields.map Prod.fst).Nodup)
    (member : (name, scalar) ∈ fields) :
    (fields.map fieldValue).lookup name = some scalar.value := by
  induction fields with
  | nil => simp at member
  | cons first rest ih =>
    rw [List.map_cons, List.nodup_cons] at distinct
    rcases List.mem_cons.1 member with rfl | later
    · simp [fieldValue]
    · have different : name ≠ first.1 := fun same =>
        distinct.1 (same ▸ List.mem_map_of_mem later)
      have onward := ih distinct.2 later
      simp [fieldValue, List.lookup_cons, beq_false_of_ne different, onward]

variable {α : Type}

/-- A field that must be there is found in a written record. -/
theorem required?_map_fieldValue (distinct : (fields.map Prod.fst).Nodup)
    (member : (name, scalar) ∈ fields) (decode : Value → Option α) :
    required? (fields.map fieldValue) name decode = decode scalar.value := by
  rw [required?, lookup_map_fieldValue distinct member, Option.bind_some]

/-- A field with a default is found there, too, and its default does not count. -/
theorem optional?_map_fieldValue (distinct : (fields.map Prod.fst).Nodup)
    (member : (name, scalar) ∈ fields) (decode : Value → Option α) (default : α) :
    optional? (fields.map fieldValue) name decode default = decode scalar.value := by
  rw [optional?, lookup_map_fieldValue distinct member]

end Record
end Stencil.Json
