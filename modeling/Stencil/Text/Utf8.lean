import Stencil.Text

/-!
# UTF-8

The octets of a text and the text of octets, read strictly or with a mark in the
place of what is malformed. Main statement: a text can be read back from its
octets in both ways.
-/

namespace Stencil.Utf8

/-- The octets of a text. -/
def encode (text : Text) : List UInt8 :=
  text.flatMap String.utf8EncodeChar

/-- The text that the octets encode. Overlong forms, surrogates, stray and
missing octets are refused. -/
def decode? (octets : List UInt8) : Option Text :=
  octets.toByteArray.utf8Decode?.map Array.toList

/-- A text can be read back from its octets. -/
@[simp] theorem decode?_encode (text : Text) : decode? (encode text) = some text := by
  have octets : (encode text).toByteArray = text.utf8Encode := rfl
  simp [decode?, octets]

/-- The character that stands in the place of malformed octets. -/
def replacement : Char := '\ufffd'

/-- A character of which the first octets were read. -/
structure Partial where
  /-- The number that these octets give. -/
  number : Nat
  /-- How many octets are to come. -/
  missing : Nat
  /-- The least octet that can come next. -/
  least : Nat := 0x80
  /-- The greatest octet that can come next. -/
  greatest : Nat := 0xbf
  deriving DecidableEq, Repr

/-- Reads the first octet of a character. What is written out comes with the
character that is begun, if one is. The bounds on the second octet keep out
overlong forms, surrogates and numbers beyond the last character. -/
def first (octet : UInt8) : Text × Option Partial :=
  let n := octet.toNat
  if n < 0x80 then ([Char.ofNat n], none)
  else if n < 0xc2 then ([replacement], none)
  else if n < 0xe0 then ([], some { number := n - 0xc0, missing := 1 })
  else if n = 0xe0 then ([], some { number := 0, missing := 2, least := 0xa0 })
  else if n = 0xed then ([], some { number := 0xd, missing := 2, greatest := 0x9f })
  else if n < 0xf0 then ([], some { number := n - 0xe0, missing := 2 })
  else if n = 0xf0 then ([], some { number := 0, missing := 3, least := 0x90 })
  else if n < 0xf4 then ([], some { number := n - 0xf0, missing := 3 })
  else if n = 0xf4 then ([], some { number := 4, missing := 3, greatest := 0x8f })
  else ([replacement], none)

/-- Reads one more octet. If it cannot go on with the character that was begun,
that one is given up and the octet is taken for the first of another. -/
def next : Option Partial → UInt8 → Text × Option Partial
  | none, octet => first octet
  | some begun, octet =>
    if begun.least ≤ octet.toNat ∧ octet.toNat ≤ begun.greatest then
      let number := begun.number * 64 + (octet.toNat - 0x80)
      if begun.missing ≤ 1 then ([Char.ofNat number], none)
      else ([], some { number, missing := begun.missing - 1 })
    else
      let (text, begun) := first octet
      (replacement :: text, begun)

/-- The text of the octets that follow those of a character that was begun. -/
def decodeFrom : Option Partial → List UInt8 → Text
  | none, [] => []
  | some _, [] => [replacement]
  | begun, octet :: rest =>
    let (text, begun) := next begun octet
    text ++ decodeFrom begun rest

/-- The text that the octets encode. One mark stands in the place of every run of
octets that starts a character but does not complete it, and of every other octet
that belongs to no character. -/
def decodeLossy (octets : List UInt8) : Text :=
  decodeFrom none octets

/-- The last octet of a character completes it. -/
theorem decodeFrom_last {begun : Partial} {n : Nat} (rest : List UInt8) (last : begun.missing = 1)
    (small : n < 256) (least : begun.least ≤ n) (greatest : n ≤ begun.greatest) :
    decodeFrom (some begun) (.ofNat n :: rest) =
      Char.ofNat (begun.number * 64 + (n - 0x80)) :: decodeFrom none rest := by
  have same : (UInt8.ofNat n).toNat = n := by simpa using small
  simp [decodeFrom, next, same, least, greatest, last]

/-- Any other octet behind the first of a character goes on with it. -/
theorem decodeFrom_inner {begun : Partial} {n : Nat} (rest : List UInt8)
    (inner : 1 < begun.missing) (small : n < 256) (least : begun.least ≤ n)
    (greatest : n ≤ begun.greatest) :
    decodeFrom (some begun) (.ofNat n :: rest) =
      decodeFrom (some { number := begun.number * 64 + (n - 0x80),
                         missing := begun.missing - 1 }) rest := by
  have same : (UInt8.ofNat n).toNat = n := by simpa using small
  simp [decodeFrom, next, same, least, greatest, Nat.not_le.2 inner]

/-- The first octet of a character of two. -/
theorem first_of_two {n : Nat} (low : 0xc2 ≤ n) (high : n < 0xe0) :
    first (.ofNat n) = ([], some { number := n - 0xc0, missing := 1 }) := by
  have same : (UInt8.ofNat n).toNat = n := by simp; omega
  simp only [first, same]
  rw [if_neg (by omega), if_neg (by omega), if_pos (by omega)]

/-- The first octet of a character of three. -/
theorem first_of_three {n : Nat} (low : 0xe0 ≤ n) (high : n < 0xf0) :
    first (.ofNat n) = ([], some {
      number := n - 0xe0
      missing := 2
      least := if n = 0xe0 then 0xa0 else 0x80
      greatest := if n = 0xed then 0x9f else 0xbf }) := by
  have same : (UInt8.ofNat n).toNat = n := by simp; omega
  simp only [first, same]
  rw [if_neg (by omega), if_neg (by omega), if_neg (by omega)]
  by_cases least : n = 0xe0
  · simp [least]
  · by_cases surrogates : n = 0xed
    · simp [surrogates]
    · simp [least, surrogates, high]

/-- The first octet of a character of four. -/
theorem first_of_four {n : Nat} (low : 0xf0 ≤ n) (high : n ≤ 0xf4) :
    first (.ofNat n) = ([], some {
      number := n - 0xf0
      missing := 3
      least := if n = 0xf0 then 0x90 else 0x80
      greatest := if n = 0xf4 then 0x8f else 0xbf }) := by
  have same : (UInt8.ofNat n).toNat = n := by simp; omega
  simp only [first, same]
  rw [if_neg (by omega), if_neg (by omega), if_neg (by omega), if_neg (by omega),
    if_neg (by omega), if_neg (by omega)]
  by_cases least : n = 0xf0
  · simp [least]
  · by_cases greatest : n = 0xf4
    · simp [greatest]
    · simp [least, greatest, show n < 0xf4 by omega]

/-- The octets of a character are read as that character. -/
theorem decodeFrom_utf8EncodeChar (c : Char) (rest : List UInt8) :
    decodeFrom none (String.utf8EncodeChar c ++ rest) = c :: decodeFrom none rest := by
  have valid : c.val.toNat < 0xd800 ∨ 0xdfff < c.val.toNat ∧ c.val.toNat < 0x110000 := c.valid
  have back : Char.ofNat c.val.toNat = c := Char.ofNat_toNat c
  simp only [String.utf8EncodeChar]
  generalize c.val.toNat = v at valid back ⊢
  subst back
  have begin (octet : UInt8) (begun : Partial) (rest : List UInt8)
      (h : first octet = ([], some begun)) :
      decodeFrom none (octet :: rest) = decodeFrom (some begun) rest := by
    simp [decodeFrom, next, h]
  split
  · have same : (UInt8.ofNat v).toNat = v := by simp; omega
    simp [decodeFrom, next, first, same, show v < 0x80 by omega]
  · simp only [apply_ite (· ++ rest), List.cons_append, List.nil_append]
    split
    · rw [begin _ _ _ (first_of_two (n := v / 64 % 32 + 192) (by omega) (by omega))]
      rw [decodeFrom_last rest rfl (by omega) (by simp) (by simp; omega)]
      exact congrArg (Char.ofNat · :: decodeFrom none rest) (by simp; omega)
    · split
      · rw [begin _ _ _ (first_of_three (n := v / 4096 % 16 + 224) (by omega) (by omega))]
        rw [decodeFrom_inner _ (by simp) (by omega) (by simp; split <;> omega)
            (by simp; split <;> omega)]
        rw [decodeFrom_last rest rfl (by omega) (by simp) (by simp; omega)]
        exact congrArg (Char.ofNat · :: decodeFrom none rest) (by simp; omega)
      · rw [begin _ _ _ (first_of_four (n := v / 262144 % 8 + 240) (by omega) (by omega))]
        rw [decodeFrom_inner _ (by simp) (by omega) (by simp; split <;> omega)
            (by simp; split <;> omega)]
        rw [decodeFrom_inner _ (by simp) (by omega) (by simp) (by simp; omega)]
        rw [decodeFrom_last rest rfl (by omega) (by simp) (by simp; omega)]
        exact congrArg (Char.ofNat · :: decodeFrom none rest) (by simp; omega)

/-- The octets of a text are read as that text. -/
@[simp] theorem decodeLossy_encode (text : Text) : decodeLossy (encode text) = text := by
  unfold decodeLossy
  induction text with
  | nil => rfl
  | cons c rest ih =>
    simp only [encode, List.flatMap_cons] at ih ⊢
    rw [decodeFrom_utf8EncodeChar, ih]

end Stencil.Utf8
