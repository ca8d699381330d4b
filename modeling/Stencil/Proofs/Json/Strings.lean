import Stencil.Json.Document
import Stencil.Proofs.Text.Octets

/-!
# Written strings are read back

`Reads` says that the reader of tokens goes from one state to another over the octets of a
text, so that what it makes of a text is put together from what it makes of the parts. A
written character is read as the parts `Part.written`, and the parts of a text stand for the
text again. Main statements: `Reads.quote` and `text?_flatMap_written`.
-/

namespace Stencil.Json

namespace Token.Reader

/-- Reading the octets of the text takes the reader from the first state to the second. -/
def Reads (before : Reader) (text : Text) (after : Reader) : Prop :=
  (Utf8.encode text).foldlM feed before = some after

/-- Nothing read leaves the state as it is. -/
theorem Reads.nil (reader : Reader) : Reads reader [] reader :=
  rfl

/-- A text is read part by part. -/
theorem Reads.append {before between after : Reader} {first second : Text}
    (one : Reads before first between) (two : Reads between second after) :
    Reads before (first ++ second) after := by
  rw [Reads, Utf8.encode_append, List.foldlM_append, one]
  exact two

/-- An ASCII character is read as one octet. -/
theorem Reads.ascii {before after : Reader} {c : Char} (ascii : c.toNat < 0x80)
    (fed : feed before (.ofNat c.toNat) = some after) : Reads before [c] after := by
  have single : Utf8.encode [c] = [UInt8.ofNat c.toNat] := by
    rw [Utf8.encode, List.flatMap_singleton, Utf8.utf8EncodeChar_of_ascii ascii]
  rw [Reads, single, List.foldlM_cons, fed]
  rfl

/-- A text that starts with an ASCII character is read octet by octet there. -/
theorem Reads.cons {before between after : Reader} {c : Char} {text : Text}
    (ascii : c.toNat < 0x80) (fed : feed before (.ofNat c.toNat) = some between)
    (onward : Reads between text after) : Reads before (c :: text) after :=
  (Reads.ascii ascii fed).append onward

end Token.Reader

namespace Part

/-- Whether the character is written by its number within a string literal: a control
character that has no short escape. -/
def isNumbered (c : Char) : Bool :=
  c.toNat < 0x20 && ! ['\x08', '\x0c', '\n', '\r', '\t'].contains c

/-- The parts that a written character is read as. -/
def written (c : Char) : List Part :=
  if isNumbered c then [.unit c.toNat] else (String.utf8EncodeChar c).map .octet

/-- Plain octets stand for themselves in front of anything. -/
theorem octets?_map_octet_append (octets : List UInt8) (rest : List Part) :
    octets? (octets.map .octet ++ rest) = (octets? rest).map (octets ++ ·) := by
  induction octets with
  | nil => simp
  | cons octet octets ih =>
    rw [List.map_cons, List.cons_append, octets?, ih, Option.map_map]
    rfl

/-- A code unit below the surrogates stands for the character with its number. -/
theorem octets?_unit_cons {unit : Nat} (below : unit < 0xd800) (rest : List Part) :
    octets? (.unit unit :: rest) = (octets? rest).map (characterOctets unit ++ ·) := by
  have notHigh : isHigh unit = false := by
    simp only [isHigh, Bool.and_eq_false_iff, decide_eq_false_iff_not]
    omega
  have notLow : isLow unit = false := by
    simp only [isLow, Bool.and_eq_false_iff, decide_eq_false_iff_not]
    omega
  cases rest with
  | nil => simp [octets?, notHigh, notLow]
  | cons part rest => cases part <;> simp [octets?, notHigh, notLow]

/-- A written character stands for its own octets in front of anything. -/
theorem octets?_written_append (c : Char) (rest : List Part) :
    octets? (written c ++ rest) = (octets? rest).map (String.utf8EncodeChar c ++ ·) := by
  unfold written
  split
  · next numbered =>
    have control : c.toNat < 0x20 := by
      simp only [isNumbered, Bool.and_eq_true, decide_eq_true_eq] at numbered
      exact numbered.1
    have same : characterOctets c.toNat = String.utf8EncodeChar c := by
      rw [characterOctets, Char.ofNat_toNat]
    exact (octets?_unit_cons (by omega) rest).trans (by rw [same])
  · exact octets?_map_octet_append _ rest

/-- The parts that a text is written with stand for the octets of the text. -/
theorem octets?_flatMap_written (text : Text) :
    octets? (text.flatMap written) = some (Utf8.encode text) := by
  induction text with
  | nil => rfl
  | cons c rest ih =>
    rw [List.flatMap_cons, octets?_written_append, ih]
    rfl

/-- The parts that a written text is read as stand for the text. -/
@[simp] theorem text?_flatMap_written (text : Text) : text? (text.flatMap written) = some text := by
  rw [text?, octets?_flatMap_written, Option.bind_some, Utf8.decode?_encode]

end Part

namespace Token.Reader

variable {parts : List Part} {tokens : List Token}

/-- An octet that has no meaning of its own within a string literal: it is no control
character, quote or backslash. -/
def IsPlain (octet : UInt8) : Prop :=
  0x20 ≤ octet.toNat ∧ octet.toNat ≠ 0x22 ∧ octet.toNat ≠ 0x5c

/-- The character that an octet is taken for has the number of the octet. -/
theorem toNat_ofNat_octet (octet : UInt8) : (Char.ofNat octet.toNat).toNat = octet.toNat := by
  have valid : octet.toNat.isValidChar := .inl (by have := octet.toNat_lt; omega)
  rw [Char.ofNat, dif_pos valid]
  rfl

/-- The characters that the reader sees in plain octets neither end a string nor escape
what follows. -/
theorem IsPlain.ofNat_ne {octet : UInt8} (plain : IsPlain octet) :
    Char.ofNat octet.toNat ≠ '"' ∧ Char.ofNat octet.toNat ≠ '\\' := by
  obtain ⟨-, notQuote, notEscape⟩ := plain
  rw [← toNat_ofNat_octet octet] at notQuote notEscape
  exact ⟨fun same => notQuote (congrArg Char.toNat same),
    fun same => notEscape (congrArg Char.toNat same)⟩

/-- Plain octets within a string are read as they are. -/
theorem foldlM_feed_quoted {octets : List UInt8} (plain : ∀ octet ∈ octets, IsPlain octet) :
    octets.foldlM feed { mode := .quoted parts, tokens } =
      some { mode := .quoted ((octets.map Part.octet).reverse ++ parts), tokens } := by
  induction octets generalizing parts with
  | nil => rfl
  | cons octet octets ih =>
    rw [List.forall_mem_cons] at plain
    obtain ⟨noQuote, noEscape⟩ := plain.1.ofNat_ne
    have noControl : ¬ octet < 0x20 := by
      rw [UInt8.lt_iff_toNat_lt]
      exact Nat.not_lt.2 plain.1.1
    have fed : feed { mode := .quoted parts, tokens } octet =
        some { mode := .quoted (.octet octet :: parts), tokens } := by
      simp [feed, noQuote, noEscape, noControl]
    rw [List.foldlM_cons, fed, Option.bind_eq_bind, Option.bind_some, ih plain.2]
    simp

/-- The octets of a character that is no control character, quote or backslash are plain. -/
theorem isPlain_of_mem_utf8EncodeChar {c : Char} (notControl : 0x20 ≤ c.toNat)
    (notQuote : c ≠ '"') (notEscape : c ≠ '\\') {octet : UInt8}
    (member : octet ∈ String.utf8EncodeChar c) : IsPlain octet := by
  by_cases ascii : c.toNat < 0x80
  · rw [Utf8.utf8EncodeChar_of_ascii ascii, List.mem_singleton] at member
    have same : octet.toNat = c.toNat := by
      rw [member, UInt8.toNat_ofNat']
      omega
    rw [IsPlain, same]
    exact ⟨notControl, fun quote => notQuote (Char.toNat_inj.1 quote),
      fun escape => notEscape (Char.toNat_inj.1 escape)⟩
  · have high := Utf8.le_of_mem_utf8EncodeChar (Nat.not_lt.1 ascii) member
    rw [IsPlain]
    omega

/-- Hexadecimal digits are read as the numbers that they are written for. -/
theorem hexDigit?_digitChar {n : Nat} (small : n < 16) :
    hexDigit? (Char.ofNat (UInt8.ofNat (Nat.digitChar n).toNat).toNat) = some n := by
  have all : ∀ n < 16,
      hexDigit? (Char.ofNat (UInt8.ofNat (Nat.digitChar n).toNat).toNat) = some n := by
    decide
  exact all n small

/-- A hexadecimal digit adds to the number of a code unit, and the fourth completes it. -/
theorem Reads.hexDigit (parts : List Part) (tokens : List Token) {n : Nat} (small : n < 16)
    (digits unit : Nat) :
    Reads { mode := .hex parts digits unit, tokens } [Nat.digitChar n]
      (if digits = 3 then { mode := .quoted (.unit (unit * 16 + n) :: parts), tokens }
        else { mode := .hex parts (digits + 1) (unit * 16 + n), tokens }) := by
  have ascii : ∀ n < 16, (Nat.digitChar n).toNat < 0x80 := by decide
  apply Reads.ascii (ascii n small)
  simp only [feed, hexDigit?_digitChar small, Option.map_some]

/-- A character within a string literal is read as the parts that it is written with. -/
theorem Reads.escape (c : Char) :
    Reads { mode := .quoted parts, tokens } (Document.escape c)
      { mode := .quoted ((Part.written c).reverse ++ parts), tokens } := by
  unfold Document.escape
  split
  iterate 7 rfl
  -- The short escapes are closed terms. Behind them are numbers and plain octets.
  next _ notQuote notEscape notBackspace notFeed notNewline notReturn notTab =>
  have numbered : Part.isNumbered c = decide (c.toNat < 0x20) := by
    have noShort : ['\x08', '\x0c', '\n', '\r', '\t'].contains c = false := by
      simp only [List.contains_eq_mem, decide_eq_false_iff_not, List.mem_cons, List.not_mem_nil,
        or_false, not_or]
      exact ⟨notBackspace, notFeed, notNewline, notReturn, notTab⟩
    rw [Part.isNumbered, noShort, Bool.not_false, Bool.and_true]
  split
  · next control =>
    have one : Part.written c = [.unit c.toNat] := by
      simp [Part.written, numbered, control]
    have number : (0 * 16 + c.toNat / 16) * 16 + c.toNat % 16 = c.toNat := by omega
    have digits : Reads { mode := .hex parts 2 0, tokens }
        [Nat.digitChar (c.toNat / 16), Nat.digitChar (c.toNat % 16)]
        { mode := .quoted (.unit c.toNat :: parts), tokens } := by
      have first := Reads.hexDigit parts tokens (show c.toNat / 16 < 16 by omega) 2 0
      have second := Reads.hexDigit parts tokens (show c.toNat % 16 < 16 by omega) 3
        (0 * 16 + c.toNat / 16)
      rw [if_pos rfl, number] at second
      exact first.append second
    rw [one]
    have opened : Reads { mode := .quoted parts, tokens } "\\u00".toList
        { mode := .hex parts 2 0, tokens } := rfl
    exact opened.append digits
  · next notControl =>
    have asWritten : Part.written c = (String.utf8EncodeChar c).map .octet := by
      simp [Part.written, numbered, notControl]
    have single : Utf8.encode [c] = String.utf8EncodeChar c := List.flatMap_singleton _ _
    rw [Reads, single, asWritten]
    exact foldlM_feed_quoted fun octet member =>
      isPlain_of_mem_utf8EncodeChar (Nat.not_lt.1 notControl) notQuote notEscape member

/-- A string literal is read as the parts that its characters are written with. -/
theorem Reads.quote (text : Text) :
    Reads { tokens } (Document.quote text)
      { tokens := .string (text.flatMap Part.written) :: tokens } := by
  have characters (parts : List Part) :
      Reads { mode := .quoted parts, tokens } (text.flatMap Document.escape)
        { mode := .quoted ((text.flatMap Part.written).reverse ++ parts), tokens } := by
    induction text generalizing parts with
    | nil => exact Reads.nil _
    | cons c rest ih =>
      simp only [List.flatMap_cons, List.reverse_append, List.append_assoc]
      exact (Reads.escape c).append (ih _)
  have opened : Reads { tokens } ['"'] { mode := .quoted [], tokens } := rfl
  refine (opened.append (characters [])).append (Reads.ascii (by decide) ?_)
  simp [feed]

end Token.Reader
end Stencil.Json
