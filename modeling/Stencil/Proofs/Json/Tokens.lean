import Stencil.Proofs.Json.Documents
import Stencil.Proofs.Json.Numbers
import Stencil.Proofs.Text.Keywords

/-!
# Texts of tokens

`AreWritten` describes the octets that tokens can be written with, without reference to how they
are read: any blanks between them, any spelling of a string, numbers of any size. Strings are
octets; nothing is said about which of them form characters. Main statement: the reader finds
tokens in octets exactly if they are written with them (`ofOctets?_eq_some_iff`).
-/

namespace Stencil.Json

namespace Part

/-- The characters that can stand behind a backslash, with the octets that they stand for. -/
def escapes : List (Char × UInt8) :=
  [('"', 0x22), ('\\', 0x5c), ('/', 0x2f), ('b', 0x08), ('f', 0x0c), ('n', 0x0a), ('r', 0x0d),
    ('t', 0x09)]

/-- The hexadecimal digits in either case, with their values. -/
def hexDigits : List (Char × Nat) :=
  "0123456789abcdef".toList.zipIdx ++ "ABCDEF".toList.zipIdx 10

/-- The number that hexadecimal digits give when they follow those of another number. -/
def hexValue (unit : Nat) (digits : List (Char × Nat)) : Nat :=
  digits.foldl (fun unit digit => unit * 16 + digit.2) unit

/-- The octets that the parts of a string can be written with: an octet that has no meaning of
its own as itself, others behind a backslash, and code units as four hexadecimal digits. -/
inductive AreWritten : List Part → List UInt8 → Prop
  | nil : AreWritten [] []
  | plain {octet parts octets} (isPlain : Token.Reader.IsPlain octet)
      (others : AreWritten parts octets) : AreWritten (.octet octet :: parts) (octet :: octets)
  | escaped {c octet parts octets} (stands : (c, octet) ∈ escapes)
      (others : AreWritten parts octets) :
      AreWritten (.octet octet :: parts) (0x5c :: .ofNat c.toNat :: octets)
  | numbered {digits parts octets} (four : digits.length = 4)
      (areDigits : ∀ digit ∈ digits, digit ∈ hexDigits) (others : AreWritten parts octets) :
      AreWritten (.unit (hexValue 0 digits) :: parts)
        (0x5c :: 0x75 :: digits.map (fun digit => .ofNat digit.1.toNat) ++ octets)

end Part

namespace Token

/-- The characters that are tokens by themselves. -/
def punctuation : List (Char × Token) :=
  [('{', .openObject), ('}', .closeObject), ('[', .openArray), (']', .closeArray), (':', .colon),
    (',', .comma)]

/-- The word that a token is written with, if it is one. -/
inductive IsWord : Token → Text → Prop
  | null : IsWord .null "null".toList
  | yes : IsWord (.bool true) "true".toList
  | no : IsWord (.bool false) "false".toList
  | number {literal} (isNumber : Number.IsNumber literal) : IsWord (.number literal) literal

/-- Whether the octets start with a character that a word can go on with. -/
def startWithWord : List UInt8 → Bool
  | [] => false
  | octet :: _ => isBare (Char.ofNat octet.toNat)

/-- The octets that tokens can be written with. Blanks stand between them as one likes; behind a
word something has to come that ends it. -/
inductive AreWritten : List Token → List UInt8 → Prop
  | nil : AreWritten [] []
  | blank {octet tokens octets} (isBlank : octet ∈ [0x20, 0x0a, 0x0d, 0x09])
      (others : AreWritten tokens octets) : AreWritten tokens (octet :: octets)
  | mark {c token tokens octets} (stands : (c, token) ∈ punctuation)
      (others : AreWritten tokens octets) :
      AreWritten (token :: tokens) (.ofNat c.toNat :: octets)
  | word {token word tokens octets} (isWord : token.IsWord word)
      (ends : startWithWord octets = false) (others : AreWritten tokens octets) :
      AreWritten (token :: tokens) (Utf8.encode word ++ octets)
  | string {parts written tokens octets} (areWritten : Part.AreWritten parts written)
      (others : AreWritten tokens octets) :
      AreWritten (.string parts :: tokens) (0x22 :: (written ++ 0x22 :: octets))

/-- The words that are read as tokens are those that tokens are written with. -/
theorem ofBare?_eq_some_iff {word : Text} {token : Token} :
    ofBare? word = some token ↔ token.IsWord word := by
  constructor
  · intro formed
    unfold ofBare? at formed
    split at formed
    · next same => cases formed; exact same ▸ .null
    · split at formed
      · next same => cases formed; exact same ▸ .yes
      · split at formed
        · next same => cases formed; exact same ▸ .no
        · split at formed
          · next literal => cases formed; exact .number (Number.isLiteral_iff.1 literal)
          · cases formed
  · intro isWord
    cases isWord with
    | null | yes | no => rfl
    | number isNumber =>
      have literal := Number.isLiteral_iff.2 isNumber
      have other (keyword : Text) (noLiteral : Number.isLiteral keyword = false) :
          word ≠ keyword := by
        rintro rfl
        exact Bool.false_ne_true (noLiteral.symm.trans literal)
      rw [ofBare?, if_neg (other _ (by decide)), if_neg (other _ (by decide)),
        if_neg (other _ (by decide)), if_pos literal]

/-- What a word can hold is ASCII. -/
theorem ascii_of_isBare {c : Char} (bare : isBare c = true) : c.toNat < 0x80 := by
  have low {greatest : Char} (below : c ≤ greatest) (ascii : greatest.toNat < 0x80) :
      c.toNat < 0x80 :=
    Nat.lt_of_le_of_lt (UInt32.le_iff_toNat_le.1 (Char.le_def.1 below)) ascii
  simp only [isBare, Char.isAlphanum, Bool.or_eq_true, beq_iff_eq] at bare
  rcases bare with (((letter | digit) | rfl) | rfl) | rfl
  · rcases Text.isAlpha_iff.1 letter with ⟨-, capital⟩ | ⟨-, small⟩
    · exact low capital (by decide)
    · exact low small (by decide)
  · exact ascii_of_isDigit digit
  all_goals decide

/-- Words consist of characters that a word can hold. -/
theorem IsWord.isBare_of_mem {token : Token} {word : Text} (isWord : token.IsWord word) :
    ∀ c ∈ word, isBare c = true := by
  have ofDigits {digits : Text} (areDigits : Number.IsDigits digits) :
      ∀ c ∈ digits, isBare c = true := fun c member => by
    simp [isBare, Char.isAlphanum, areDigits.2 c member]
  cases isWord with
  | null | yes | no => exact List.all_eq_true.1 rfl
  | number isNumber =>
    obtain ⟨sign, whole, fraction, exponent, signed, isWhole, isFraction, isExponent, rfl⟩ :=
      isNumber
    simp only [List.forall_mem_append]
    refine ⟨?_, ?_, ?_, ?_⟩
    · rcases signed with rfl | rfl <;> exact List.all_eq_true.1 rfl
    · rcases isWhole with rfl | ⟨areDigits, -⟩
      · exact List.forall_mem_singleton.2 rfl
      · exact ofDigits areDigits
    · rcases isFraction with rfl | ⟨digits, areDigits, rfl⟩
      · exact List.forall_mem_nil _
      · exact List.forall_mem_cons.2 ⟨rfl, ofDigits areDigits⟩
    · rcases isExponent with rfl | ⟨mark, mantissa, digits, marked, signed, areDigits, rfl⟩
      · exact List.forall_mem_nil _
      · refine List.forall_mem_cons.2 ⟨?_, List.forall_mem_append.2 ⟨?_, ofDigits areDigits⟩⟩
        · rcases marked with rfl | rfl <;> rfl
        · rcases signed with rfl | rfl | rfl <;> exact List.all_eq_true.1 rfl

/-- No token is an empty word. -/
theorem IsWord.ne_nil {token : Token} {word : Text} (isWord : token.IsWord word) : word ≠ [] := by
  cases isWord with
  | null | yes | no => decide
  | number isNumber =>
    rintro rfl
    exact absurd (Number.isLiteral_iff.2 isNumber) (by decide)

namespace Reader

variable {tokens : List Token}

/-- The tokens that reading octets from a state leads to. -/
def run (reader : Reader) (octets : List UInt8) : Option (List Token) :=
  (octets.foldlM feed reader).bind finish

/-- A run reads the first octet and goes on from there. -/
theorem run_cons (reader : Reader) (octet : UInt8) (octets : List UInt8) :
    run reader (octet :: octets) = (feed reader octet).bind (run · octets) := by
  rw [run, List.foldlM_cons]
  cases feed reader octet <;> rfl

/-- A run reads octets in two parts. -/
theorem run_append (reader : Reader) (first second : List UInt8) :
    run reader (first ++ second) = (first.foldlM feed reader).bind (run · second) := by
  rw [run, List.foldlM_append]
  cases first.foldlM feed reader <;> rfl

/-! ## Written tokens are read -/

/-- Behind a word, octets that cannot go on with it are read as if it had been complete. -/
theorem run_bare {word : Text} {token : Token} {octets : List UInt8}
    (isWord : token.IsWord word.reverse) (ends : startWithWord octets = false) :
    run { mode := .bare word, tokens } octets = run { tokens := token :: tokens } octets := by
  have formed := ofBare?_eq_some_iff.2 isWord
  cases octets with
  | nil => simp [run, finish, formed]
  | cons octet octets =>
    have step : feed { mode := .bare word, tokens } octet =
        feed { tokens := token :: tokens } octet := by
      simp only [startWithWord] at ends
      simp [feed, ends, formed]
    rw [run_cons, run_cons, step]

/-- The reader takes an octet for the character with its number. -/
theorem ofNat_eq_of_ofNat_eq {octet : UInt8} {c : Char} (taken : Char.ofNat octet.toNat = c) :
    octet = UInt8.ofNat c.toNat := by
  rw [← taken, toNat_ofNat_octet, UInt8.ofNat_toNat]

/-- Each hexadecimal digit is read as its value. -/
theorem hexDigit?_of_mem {digit : Char × Nat} (member : digit ∈ Part.hexDigits) :
    hexDigit? (Char.ofNat (UInt8.ofNat digit.1.toNat).toNat) = some digit.2 := by
  have all : ∀ digit ∈ Part.hexDigits,
      hexDigit? (Char.ofNat (UInt8.ofNat digit.1.toNat).toNat) = some digit.2 := by decide
  exact all digit member

/-- No other octet is read as a hexadecimal digit. -/
theorem mem_of_hexDigit? {octet : UInt8} {value : Nat}
    (isDigit : hexDigit? (Char.ofNat octet.toNat) = some value) :
    (Char.ofNat octet.toNat, value) ∈ Part.hexDigits := by
  have all : ∀ number < 256, ∀ value ∈ hexDigit? (Char.ofNat number),
      (Char.ofNat number, value) ∈ Part.hexDigits := by decide +kernel
  exact all octet.toNat octet.toNat_lt value isDigit

/-- The short escapes are those of the table. -/
theorem shortEscape?_eq_some_iff {c : Char} {octet : UInt8} :
    shortEscape? c = some octet ↔ (c, octet) ∈ Part.escapes := by
  unfold shortEscape?
  split <;> simp_all [Part.escapes, eq_comm]

/-- The characters that are tokens by themselves are those of the table. -/
theorem ofPunctuation?_eq_some_iff {c : Char} {token : Token} :
    ofPunctuation? c = some token ↔ (c, token) ∈ punctuation := by
  unfold ofPunctuation?
  split <;> simp_all [punctuation, eq_comm]

/-- Hexadecimal digits are read up to the fourth. -/
theorem foldlM_feed_hex {parts : List Part} {digits : List (Char × Nat)} {count : Nat}
    (four : digits.length + count = 4) (isOpen : count < 4)
    (areDigits : ∀ digit ∈ digits, digit ∈ Part.hexDigits) (unit : Nat) :
    (digits.map fun digit => UInt8.ofNat digit.1.toNat).foldlM feed
        { mode := .hex parts count unit, tokens } =
      some { mode := .quoted (.unit (Part.hexValue unit digits) :: parts), tokens } := by
  induction digits generalizing count unit with
  | nil =>
    rw [List.length_nil] at four
    omega
  | cons digit digits ih =>
    obtain ⟨isDigit, others⟩ := List.forall_mem_cons.1 areDigits
    have fed : feed { mode := .hex parts count unit, tokens } (.ofNat digit.1.toNat) =
        some (if count = 3 then
            { mode := .quoted (.unit (unit * 16 + digit.2) :: parts), tokens }
          else { mode := .hex parts (count + 1) (unit * 16 + digit.2), tokens }) := by
      simp only [feed, hexDigit?_of_mem isDigit, Option.map_some]
    rw [List.length_cons] at four
    rw [List.map_cons, List.foldlM_cons, fed, Option.bind_eq_bind, Option.bind_some]
    split
    · obtain rfl : digits = [] := List.eq_nil_of_length_eq_zero (by omega)
      rfl
    · exact ih (by omega) (by omega) others _

/-- The parts of a string are read from what they are written with. -/
theorem foldlM_feed_of_areWritten {parts : List Part} {octets : List UInt8}
    (written : Part.AreWritten parts octets) (before : List Part) :
    octets.foldlM feed { mode := .quoted before, tokens } =
      some { mode := .quoted (parts.reverse ++ before), tokens } := by
  induction written generalizing before with
  | nil => rfl
  | @plain octet parts octets isPlain _ ih =>
    have fed : [octet].foldlM feed { mode := .quoted before, tokens } =
        some { mode := .quoted (.octet octet :: before), tokens } :=
      foldlM_feed_quoted (List.forall_mem_singleton.2 isPlain)
    rw [← List.singleton_append, List.foldlM_append, fed, Option.bind_eq_bind, Option.bind_some,
      ih]
    simp
  | @escaped c octet parts octets stands _ ih =>
    have fed : [0x5c, .ofNat c.toNat].foldlM feed { mode := .quoted before, tokens } =
        some { mode := .quoted (.octet octet :: before), tokens } := by
      simp only [Part.escapes, List.mem_cons, Prod.mk.injEq, List.not_mem_nil, or_false] at stands
      rcases stands with h | h | h | h | h | h | h | h <;> obtain ⟨rfl, rfl⟩ := h <;> rfl
    have parted : 0x5c :: UInt8.ofNat c.toNat :: octets = [0x5c, .ofNat c.toNat] ++ octets := rfl
    rw [parted, List.foldlM_append, fed, Option.bind_eq_bind, Option.bind_some, ih]
    simp
  | @numbered digits parts octets four areDigits _ ih =>
    have opened : [0x5c, 0x75].foldlM feed { mode := .quoted before, tokens } =
        some { mode := .hex before 0 0, tokens } := rfl
    have digitsRead : (digits.map fun digit => UInt8.ofNat digit.1.toNat).foldlM feed
        { mode := .hex before 0 0, tokens } =
          some { mode := .quoted (.unit (Part.hexValue 0 digits) :: before), tokens } :=
      foldlM_feed_hex four (by decide) areDigits 0
    have parted : 0x5c :: 0x75 :: digits.map (fun digit => UInt8.ofNat digit.1.toNat) ++ octets =
        [0x5c, 0x75] ++ (digits.map (fun digit => UInt8.ofNat digit.1.toNat) ++ octets) := rfl
    rw [parted, List.foldlM_append, opened, Option.bind_eq_bind, Option.bind_some,
      List.foldlM_append, digitsRead, Option.bind_eq_bind, Option.bind_some, ih]
    simp

/-- Tokens are read from what they are written with. -/
theorem run_of_areWritten {written : List Token} {octets : List UInt8}
    (areWritten : AreWritten written octets) (tokens : List Token) :
    run { tokens } octets = some (tokens.reverse ++ written) := by
  induction areWritten generalizing tokens with
  | nil => simp [run, finish]
  | @blank octet _ _ isBlank _ ih =>
    have fed : feed { tokens } octet = some { tokens } := by
      simp only [List.mem_cons, List.not_mem_nil, or_false] at isBlank
      rcases isBlank with rfl | rfl | rfl | rfl <;> rfl
    rw [run_cons, fed, Option.bind_some, ih]
  | @mark c token _ _ stands _ ih =>
    have fed : feed { tokens } (.ofNat c.toNat) = some { tokens := token :: tokens } := by
      simp only [punctuation, List.mem_cons, Prod.mk.injEq, List.not_mem_nil, or_false] at stands
      rcases stands with h | h | h | h | h | h <;> obtain ⟨rfl, rfl⟩ := h <;> rfl
    rw [run_cons, fed, Option.bind_some, ih, List.reverse_cons, List.append_assoc,
      List.singleton_append]
  | @word token word _ _ isWord ends _ ih =>
    have read : (Utf8.encode word).foldlM feed { tokens } =
        some { mode := .bare word.reverse, tokens } :=
      Reads.word isWord.ne_nil fun c member =>
        ⟨isWord.isBare_of_mem c member, ascii_of_isBare (isWord.isBare_of_mem c member)⟩
    rw [run_append, read, Option.bind_some, run_bare (by rwa [List.reverse_reverse]) ends, ih,
      List.reverse_cons, List.append_assoc, List.singleton_append]
  | @string parts written _ _ partsWritten _ ih =>
    have opened : feed { tokens } 0x22 = some { mode := .quoted [], tokens } := rfl
    have closed : feed { mode := .quoted parts.reverse, tokens } 0x22 =
        some { tokens := .string parts :: tokens } := by
      simp [feed]
    rw [run_cons, opened, Option.bind_some, run_append, foldlM_feed_of_areWritten partsWritten,
      Option.bind_some, List.append_nil, run_cons, closed, Option.bind_some, ih,
      List.reverse_cons, List.append_assoc, List.singleton_append]

/-! ## Only written tokens are read -/

/-- What must follow for a string to end when the given parts of it have been read: what the
string can still go on with, the closing quote, and other tokens. -/
def EndsString (goesOn : List Part → List UInt8 → Prop) (parts : List Part) (tokens : List Token)
    (octets : List UInt8) : Prop :=
  ∃ more written later rest, goesOn more written ∧ AreWritten later rest ∧
    tokens = .string (parts.reverse ++ more) :: later ∧ octets = written ++ 0x22 :: rest

/-- What must follow behind some of the four digits of a code unit: the other digits, and what
the string can go on with. -/
def EndsUnit (count unit : Nat) (parts : List Part) (octets : List UInt8) : Prop :=
  ∃ digits others rest, digits.length + count = 4 ∧ (∀ digit ∈ digits, digit ∈ Part.hexDigits) ∧
    Part.AreWritten others rest ∧ parts = .unit (Part.hexValue unit digits) :: others ∧
      octets = digits.map (fun digit => .ofNat digit.1.toNat) ++ rest

/-- What must follow for the reader to find the tokens in the octets: the rest of the token that
it is in, and then octets that the other tokens are written with. -/
def Completes : Mode → List Token → List UInt8 → Prop
  | .between, tokens, octets => AreWritten tokens octets
  | .bare word, tokens, octets => ∃ token more later rest, token.IsWord (word.reverse ++ more) ∧
      startWithWord rest = false ∧ AreWritten later rest ∧ tokens = token :: later ∧
        octets = Utf8.encode more ++ rest
  | .quoted parts, tokens, octets => EndsString Part.AreWritten parts tokens octets
  | .escape parts, tokens, octets =>
      EndsString (fun more written => Part.AreWritten more (0x5c :: written)) parts tokens octets
  | .hex parts count unit, tokens, octets =>
      EndsString (EndsUnit count unit) parts tokens octets

/-- An octet that belongs to a string, with the parts that it completes. -/
theorem EndsString.octet {goesOn goesOn' : List Part → List UInt8 → Prop}
    {parts : List Part} {octets : List UInt8} {octet : UInt8} (added : List Part)
    (ends : EndsString goesOn' (added.reverse ++ parts) tokens octets)
    (onward : ∀ more written, goesOn' more written → goesOn (added ++ more) (octet :: written)) :
    EndsString goesOn parts tokens (octet :: octets) := by
  obtain ⟨more, written, later, rest, going, areWritten, rfl, rfl⟩ := ends
  exact ⟨added ++ more, octet :: written, later, rest, onward _ _ going, areWritten, by simp, rfl⟩

variable {reader : Reader} {octet : UInt8} {octets : List UInt8} {later : List Token}

/-- The character with the number of an octet leads back to the octet. -/
theorem ofNat_toNat_octet (octet : UInt8) : UInt8.ofNat (Char.ofNat octet.toNat).toNat = octet :=
  (ofNat_eq_of_ofNat_eq rfl).symm

/-- A character that a word can hold is written as one octet. -/
theorem encode_cons_of_isBare (bare : isBare (Char.ofNat octet.toNat) = true) (word : Text) :
    Utf8.encode (Char.ofNat octet.toNat :: word) = octet :: Utf8.encode word := by
  rw [Utf8.encode, List.flatMap_cons, Utf8.utf8EncodeChar_of_ascii (ascii_of_isBare bare),
    ofNat_toNat_octet]
  rfl

/-- One octet back from what must follow, between tokens. -/
theorem areWritten_of_feedBetween
    (fed : feedBetween tokens (Char.ofNat octet.toNat) = some reader)
    (completes : Completes reader.mode later octets) :
    ∃ more, reader.tokens.reverse ++ later = tokens.reverse ++ more ∧
      AreWritten more (octet :: octets) := by
  unfold feedBetween at fed
  split at fed
  · next blank =>
    cases fed
    have isBlank : octet ∈ [0x20, 0x0a, 0x0d, 0x09] := by
      simp only [isBlank, Bool.or_eq_true, beq_iff_eq] at blank
      rcases blank with ((space | newline) | tab) | carriage
      · rw [ofNat_eq_of_ofNat_eq space]; decide
      · rw [ofNat_eq_of_ofNat_eq newline]; decide
      · rw [ofNat_eq_of_ofNat_eq tab]; decide
      · rw [ofNat_eq_of_ofNat_eq carriage]; decide
    exact ⟨later, rfl, .blank isBlank completes⟩
  · split at fed
    · next quote =>
      cases fed
      obtain ⟨more, written, others, rest, partsWritten, areWritten, rfl, rfl⟩ := completes
      rw [ofNat_eq_of_ofNat_eq quote]
      exact ⟨_, rfl, .string partsWritten areWritten⟩
    · split at fed
      · next bare =>
        cases fed
        obtain ⟨token, more, others, rest, isWord, ends, areWritten, rfl, rfl⟩ := completes
        refine ⟨_, rfl, ?_⟩
        rw [← List.cons_append, ← encode_cons_of_isBare bare]
        exact .word isWord ends areWritten
      · obtain ⟨token, formed, rfl⟩ := Option.map_eq_some_iff.1 fed
        rw [← ofNat_toNat_octet octet]
        exact ⟨token :: later, by simp, .mark (ofPunctuation?_eq_some_iff.1 formed) completes⟩

/-- One octet back from what must follow. -/
theorem completes_of_feed {reader after : Reader} (fed : feed reader octet = some after)
    (completes : Completes after.mode later octets) :
    ∃ more, after.tokens.reverse ++ later = reader.tokens.reverse ++ more ∧
      Completes reader.mode more (octet :: octets) := by
  obtain ⟨mode, tokens⟩ := reader
  cases mode with
  | between => exact areWritten_of_feedBetween fed completes
  | bare word =>
    simp only [feed] at fed
    -- The octet goes on with the word, or it ends the word and is read behind it.
    split at fed
    · next bare =>
      cases fed
      obtain ⟨token, more, others, rest, isWord, ends, areWritten, rfl, rfl⟩ := completes
      refine ⟨_, rfl, token, Char.ofNat octet.toNat :: more, others, rest, ?_, ends, areWritten,
        rfl, ?_⟩
      · simpa using isWord
      · rw [encode_cons_of_isBare bare, List.cons_append]
    · next noWord =>
      obtain ⟨token, formed, started⟩ := Option.bind_eq_some_iff.1 fed
      obtain ⟨more, same, areWritten⟩ := areWritten_of_feedBetween started completes
      refine ⟨token :: more, by simpa using same, token, [], more, octet :: octets, ?_, ?_,
        areWritten, rfl, rfl⟩
      · simpa using ofBare?_eq_some_iff.1 formed
      · simpa [startWithWord] using noWord
  | quoted parts =>
    simp only [feed] at fed
    split at fed
    · next quote =>
      cases fed
      rw [ofNat_eq_of_ofNat_eq quote]
      exact ⟨.string parts.reverse :: later, by simp, [], [], later, octets, .nil, completes,
        by simp, rfl⟩
    · next noQuote =>
      split at fed
      · next escape =>
        cases fed
        rw [ofNat_eq_of_ofNat_eq escape]
        exact ⟨later, rfl, EndsString.octet [] completes fun _ _ written => written⟩
      · next noEscape =>
        split at fed
        · cases fed
        · next noControl =>
          cases fed
          -- What is neither quote nor backslash nor control character stands for itself.
          have isPlain : IsPlain octet := by
            refine ⟨Nat.not_lt.1 fun control => noControl (UInt8.lt_iff_toNat_lt.2 control),
              fun same => noQuote (by rw [same]), fun same => noEscape (by rw [same])⟩
          exact ⟨later, rfl, EndsString.octet [.octet octet] completes
            fun _ _ written => .plain isPlain written⟩
  | escape parts =>
    simp only [feed] at fed
    split at fed
    · next numbered =>
      cases fed
      rw [ofNat_eq_of_ofNat_eq numbered]
      refine ⟨later, rfl, EndsString.octet [] completes ?_⟩
      rintro _ _ ⟨digits, others, rest, four, areDigits, written, rfl, rfl⟩
      exact .numbered four areDigits written
    · obtain ⟨escaped, stands, rfl⟩ := Option.map_eq_some_iff.1 fed
      refine ⟨later, rfl, EndsString.octet [.octet escaped] completes ?_⟩
      intro more rest written
      rw [← ofNat_toNat_octet octet]
      exact .escaped (shortEscape?_eq_some_iff.1 stands) written
  | hex parts count unit =>
    simp only [feed] at fed
    obtain ⟨digit, isDigit, rfl⟩ := Option.map_eq_some_iff.1 fed
    have member := mem_of_hexDigit? isDigit
    -- The fourth digit completes the unit; any other leaves digits to come.
    split at completes
    · next three =>
      refine ⟨later, by simp [three], EndsString.octet [.unit (unit * 16 + digit)]
        completes fun more rest written => ?_⟩
      refine ⟨[(Char.ofNat octet.toNat, digit)], more, rest, by simp [three], by simpa using member,
        written, rfl, ?_⟩
      rw [List.map_singleton, ← ofNat_eq_of_ofNat_eq rfl, List.singleton_append]
    · next isOpen =>
      refine ⟨later, by simp [isOpen], EndsString.octet [] completes ?_⟩
      rintro _ _ ⟨digits, others, rest, four, areDigits, written, rfl, rfl⟩
      refine ⟨(Char.ofNat octet.toNat, digit) :: digits, others, rest, ?_, ?_, written, rfl, ?_⟩
      · rw [List.length_cons]; omega
      · exact List.forall_mem_cons.2 ⟨member, areDigits⟩
      · rw [List.map_cons, ← ofNat_eq_of_ofNat_eq rfl, List.cons_append]

/-- What the reader finds are tokens that the octets are written for. The induction runs on the
octets, from their end. -/
theorem completes_of_run {reader : Reader} {tokens : List Token}
    (read : run reader octets = some tokens) :
    ∃ more, tokens = reader.tokens.reverse ++ more ∧ Completes reader.mode more octets := by
  induction octets generalizing reader with
  | nil =>
    obtain ⟨mode, before⟩ := reader
    cases mode with
    | between =>
      cases read
      exact ⟨[], by simp, .nil⟩
    | bare word =>
      obtain ⟨token, formed, rfl⟩ := Option.map_eq_some_iff.1 read
      exact ⟨[token], by simp, token, [], [], [],
        by simpa using ofBare?_eq_some_iff.1 formed, rfl, .nil, rfl, rfl⟩
    | quoted | escape | hex => cases read
  | cons octet octets ih =>
    rw [run_cons] at read
    obtain ⟨after, fed, onward⟩ := Option.bind_eq_some_iff.1 read
    obtain ⟨later, rfl, completes⟩ := ih onward
    exact completes_of_feed fed completes

end Reader

/-- The tokens found in octets are those that the octets are written for. -/
theorem ofOctets?_eq_some_iff {octets : List UInt8} {tokens : List Token} :
    ofOctets? octets = some tokens ↔ AreWritten tokens octets := by
  constructor
  · intro read
    obtain ⟨more, rfl, areWritten⟩ := Reader.completes_of_run read
    exact areWritten
  · intro areWritten
    exact Reader.run_of_areWritten areWritten []

end Token
end Stencil.Json
