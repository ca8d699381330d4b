import Stencil.Text.Utf8

/-!
# Octet positions in a text

An octet below 0x80 starts a character wherever it stands in a text. So octets
that are found inside a text and start with such an octet are those of a part of
the text: `exists_parts_of_encode_eq` recovers the characters before, within and
behind them.
-/

namespace Stencil.Utf8

/-- Two texts are encoded one after the other. -/
@[simp] theorem encode_append (first second : Text) :
    encode (first ++ second) = encode first ++ encode second :=
  List.flatMap_append

/-- The length of a text in octets is the number of its octets. -/
@[simp] theorem length_encode (text : Text) : (encode text).length = text.utf8Length := by
  induction text with
  | nil => rfl
  | cons c rest ih =>
    simp only [encode, List.flatMap_cons, List.length_append, Text.utf8Length] at ih ⊢
    rw [String.length_utf8EncodeChar, ih]

/-- No octet of a character beyond ASCII is below 0x80. -/
theorem le_of_mem_utf8EncodeChar {c : Char} (notAscii : 0x80 ≤ c.toNat) {octet : UInt8}
    (member : octet ∈ String.utf8EncodeChar c) : 0x80 ≤ octet.toNat := by
  have beyond : ¬ c.val.toNat ≤ 0x7f := Nat.not_le.2 notAscii
  have high (n modulus base : Nat) (positive : 0 < modulus) (least : 0x80 ≤ base)
      (fits : modulus + base ≤ 256) : 0x80 ≤ (UInt8.ofNat (n % modulus + base)).toNat := by
    have below := Nat.mod_lt n positive
    rw [UInt8.toNat_ofNat']
    omega
  unfold String.utf8EncodeChar at member
  simp only [if_neg beyond] at member
  split at member
  · simp only [List.mem_cons, List.not_mem_nil, or_false] at member
    rcases member with rfl | rfl <;> exact high _ _ _ (by decide) (by decide) (by decide)
  · split at member
    · simp only [List.mem_cons, List.not_mem_nil, or_false] at member
      rcases member with rfl | rfl | rfl <;> exact high _ _ _ (by decide) (by decide) (by decide)
    · simp only [List.mem_cons, List.not_mem_nil, or_false] at member
      rcases member with rfl | rfl | rfl | rfl <;>
        exact high _ _ _ (by decide) (by decide) (by decide)

/-- An ASCII character is one octet. -/
theorem utf8EncodeChar_of_ascii {c : Char} (ascii : c.toNat < 0x80) :
    String.utf8EncodeChar c = [UInt8.ofNat c.toNat] := by
  have small : c.toNat ≤ 0x7f := Nat.le_of_lt_succ ascii
  simp [String.utf8EncodeChar, small]

/-- No octet of a character but the first is below 0x80. -/
theorem le_of_mem_tail_utf8EncodeChar {c : Char} {octet : UInt8}
    (member : octet ∈ (String.utf8EncodeChar c).tail) : 0x80 ≤ octet.toNat := by
  by_cases ascii : c.toNat < 0x80
  · rw [utf8EncodeChar_of_ascii ascii] at member
    simp at member
  · exact le_of_mem_utf8EncodeChar (Nat.not_lt.1 ascii) (List.mem_of_mem_tail member)

/-- The octets before an octet below 0x80 are those of the characters before it. -/
theorem exists_parts_of_ascii {text : Text} {before after : List UInt8} {octet : UInt8}
    (octets : encode text = before ++ octet :: after) (ascii : octet.toNat < 0x80) :
    ∃ front rest, text = front ++ rest ∧ encode front = before ∧
      encode rest = octet :: after := by
  induction text generalizing before with
  | nil => simp [encode] at octets
  | cons c text ih =>
    have split : String.utf8EncodeChar c ++ encode text = before ++ octet :: after := octets
    rcases List.append_eq_append_iff.1 split with ⟨beyond, atEnd, later⟩ | ⟨within, head, here⟩
    · -- The octet lies behind this character.
      obtain ⟨front, rest, parts, frontOctets, restOctets⟩ := ih later
      refine ⟨c :: front, rest, by rw [parts]; rfl, ?_, restOctets⟩
      rw [atEnd, ← frontOctets]
      rfl
    · cases before with
      | nil => exact ⟨[], c :: text, rfl, rfl, octets⟩
      | cons first before =>
        cases within with
        | nil =>
          have atStart : encode text = [] ++ octet :: after := by simpa using here.symm
          obtain ⟨front, rest, parts, frontOctets, restOctets⟩ := ih atStart
          refine ⟨c :: front, rest, by rw [parts]; rfl, ?_, restOctets⟩
          have whole : String.utf8EncodeChar c = first :: before := by simpa using head
          have none : encode front = [] := frontOctets
          rw [← whole]
          simpa [encode] using none
        | cons inner within =>
          -- The octet would continue this character.
          obtain ⟨same, -⟩ := List.cons.inj here
          have tail : octet ∈ (String.utf8EncodeChar c).tail := by
            rw [head, same]
            simp
          exact absurd (le_of_mem_tail_utf8EncodeChar tail) (by omega)

/-- Octets of a text that start a longer row of octets are read first. -/
theorem decodeFrom_encode_append (text : Text) (octets : List UInt8) :
    decodeFrom none (encode text ++ octets) = text ++ decodeFrom none octets := by
  induction text with
  | nil => rfl
  | cons c rest ih =>
    have split : encode (c :: rest) = String.utf8EncodeChar c ++ encode rest := rfl
    rw [split, List.append_assoc, decodeFrom_utf8EncodeChar, ih]
    rfl

/-- A text whose octets start with those of another starts with the other. -/
theorem exists_rest_of_encode_eq {text found : Text} {octets : List UInt8}
    (same : encode text = encode found ++ octets) :
    ∃ rest, text = found ++ rest ∧ encode rest = octets := by
  refine ⟨decodeFrom none octets, ?_, ?_⟩
  · rw [← decodeFrom_encode_append, ← same]
    exact (decodeLossy_encode text).symm
  · have read : text = found ++ decodeFrom none octets := by
      rw [← decodeFrom_encode_append, ← same]
      exact (decodeLossy_encode text).symm
    rw [read, encode_append] at same
    exact List.append_cancel_left same

/-- Octets inside a text that are those of a text starting with a character below
0x80 are those of a part of it. -/
theorem exists_parts_of_encode_eq {text found : Text} {before after : List UInt8} {c : Char}
    (octets : encode text = before ++ encode (c :: found) ++ after) (ascii : c.toNat < 0x80) :
    ∃ front rest, text = front ++ (c :: found) ++ rest ∧ encode front = before ∧
      encode rest = after := by
  have single : String.utf8EncodeChar c = [UInt8.ofNat c.toNat] := utf8EncodeChar_of_ascii ascii
  have shape : encode text = before ++ UInt8.ofNat c.toNat :: (encode found ++ after) := by
    rw [octets]
    simp [encode, single]
  obtain ⟨front, tail, parts, frontOctets, tailOctets⟩ :=
    exists_parts_of_ascii shape (by rw [UInt8.toNat_ofNat']; omega)
  have tailShape : encode tail = encode (c :: found) ++ after := by
    rw [tailOctets]
    simp [encode, single]
  obtain ⟨rest, tailParts, restOctets⟩ := exists_rest_of_encode_eq tailShape
  exact ⟨front, rest, by rw [parts, tailParts, List.append_assoc], frontOctets, restOctets⟩

end Stencil.Utf8
