import Mathlib
import Stencil.Builtin.Uuid

/-!
# The bits of a random identifier

The text of a random identifier is its bytes in hexadecimal, so it reads back as the bytes that
it was made from, but for the version and the variant that are stamped on them. Six bits are
lost to these; all others stay in their places, from the draws on. Main statement: `text_exact`.
-/

namespace Stencil.Uuid

/-- The character is a decimal digit or one of the first six small letters. -/
def IsHexDigit (c : Char) : Prop :=
  '0' ≤ c ∧ c ≤ '9' ∨ 'a' ≤ c ∧ c ≤ 'f'

instance (c : Char) : Decidable (IsHexDigit c) :=
  inferInstanceAs (Decidable (_ ∨ _))

/-- Groups of 8, 4, 4, 4 and 12 hexadecimal digits make up the text, with dashes between them. -/
def HasLayout (text : Text) : Prop :=
  ∃ groups : List Text, text = ['-'].intercalate groups ∧
    groups.map List.length = [8, 4, 4, 4, 12] ∧ ∀ group ∈ groups, ∀ c ∈ group, IsHexDigit c

/-- The text without its dashes. -/
def digits (text : Text) : Text :=
  text.filter (· ≠ '-')

/-- The value of a hexadecimal digit. -/
def digit? (c : Char) : Option Nat :=
  "0123456789abcdef".toList.idxOf? c

/-- The bytes that hexadecimal digits stand for, two each with the higher one first. -/
def bytes? : Text → Option (List UInt8)
  | [] => some []
  | high :: low :: rest => do
    let byte := 16 * (← digit? high) + (← digit? low)
    return .ofNat byte :: (← bytes? rest)
  | [_] => none

/-- The bits of sixteen bytes, counted from the low end of the first one. -/
def bit (bytes : Vector UInt8 16) (n : Fin 128) : Bool :=
  bytes[n.val / 8].toNat.testBit (n.val % 8)

/-- The bits that the version and the variant take: the higher half of byte 6 and the two
highest bits of byte 8. -/
def stampedBits : Finset (Fin 128) :=
  {52, 53, 54, 55, 70, 71}

/-- The bits of the two draws that follow on requests, counted from the low end of the first
one. -/
def drawBit (stream : Nat → UInt64) (before : List Request) (n : Fin 128) : Bool :=
  (stream (RandomSource.drawsTaken before + n.val / 64)).toNat.testBit (n.val % 64)

/-! ## Hexadecimal digits -/

/-- The digit of a number below sixteen is a hexadecimal one. -/
theorem isHexDigit_digitChar {n : Nat} (small : n < 16) : IsHexDigit (Nat.digitChar n) := by
  have all : ∀ n < 16, IsHexDigit (Nat.digitChar n) := by decide
  exact all n small

/-- The digit of a number below sixteen is read back as that number. -/
theorem digit?_digitChar {n : Nat} (small : n < 16) : digit? (Nat.digitChar n) = some n := by
  have all : ∀ n < 16, digit? (Nat.digitChar n) = some n := by decide
  exact all n small

/-- A byte is written in hexadecimal digits. -/
theorem isHexDigit_of_mem_hex {byte : UInt8} {c : Char} (member : c ∈ hex byte) :
    IsHexDigit c := by
  have small := byte.toNat_lt
  rw [hex, List.mem_pair] at member
  rcases member with rfl | rfl
  · exact isHexDigit_digitChar (by omega)
  · exact isHexDigit_digitChar (by omega)

/-- Bytes in hexadecimal read back. -/
theorem bytes?_flatMap_hex (bytes : List UInt8) : bytes? (bytes.flatMap hex) = some bytes := by
  induction bytes with
  | nil => rfl
  | cons byte rest ih =>
    have small := byte.toNat_lt
    have halves : 16 * (byte.toNat / 16) + byte.toNat % 16 = byte.toNat := Nat.div_add_mod _ _
    rw [List.flatMap_cons, hex, List.cons_append, List.singleton_append, bytes?, ih,
      digit?_digitChar (by omega), digit?_digitChar (by omega)]
    simp only [Option.bind_eq_bind, Option.bind_some, Option.pure_def, halves, UInt8.ofNat_toNat]

/-- The digits of a byte stand at twice its position. -/
theorem getElem?_flatMap_hex (bytes : List UInt8) (i : Nat) :
    (bytes.flatMap hex)[2 * i]? = bytes[i]?.map fun byte => Nat.digitChar (byte.toNat / 16) := by
  induction bytes generalizing i with
  | nil => rfl
  | cons byte rest ih =>
    cases i with
    | zero => rfl
    | succ i => exact ih i

/-- Each byte is written in two digits. -/
theorem length_flatMap_hex (bytes : List UInt8) :
    (bytes.flatMap hex).length = 2 * bytes.length := by
  induction bytes with
  | nil => rfl
  | cons byte rest ih =>
    rw [List.flatMap_cons, List.length_append, ih, List.length_cons, hex, List.length_cons,
      List.length_singleton]
    omega

/-- A text of digits alone is not changed by leaving out all that is no digit. -/
theorem digits_of_forall_isHexDigit {text : Text} (areDigits : ∀ c ∈ text, IsHexDigit c) :
    digits text = text := by
  refine List.filter_eq_self.2 fun c member => ?_
  rw [decide_eq_true_eq]
  rintro rfl
  exact absurd (areDigits _ member) (by decide)

/-! ## Groups of digits -/

section Groups

variable (bytes : Vector UInt8 16) {first middle last : Nat}

/-- A group consists of hexadecimal digits. -/
theorem isHexDigit_of_mem_group {c : Char} (member : c ∈ group bytes first last) :
    IsHexDigit c := by
  obtain ⟨byte, -, inHex⟩ := List.mem_flatMap.1 member
  exact isHexDigit_of_mem_hex inHex

/-- A group has two digits for each of its bytes. -/
theorem length_group (within : last ≤ 16) :
    (group bytes first last).length = 2 * (last - first) := by
  rw [group, length_flatMap_hex, List.length_drop, List.length_take, Vector.length_toList]
  omega

/-- Neighbouring groups make up one group. -/
theorem group_append (ascending : first ≤ middle) (alsoAscending : middle ≤ last)
    (within : last ≤ 16) :
    group bytes first middle ++ group bytes middle last = group bytes first last := by
  have shorter : bytes.toList.take middle = (bytes.toList.take last).take middle := by
    rw [List.take_take, Nat.min_eq_left alsoAscending]
  have reaches : first ≤ ((bytes.toList.take last).take middle).length := by
    rw [List.length_take, List.length_take, Vector.length_toList]
    omega
  rw [group, group, group, ← List.flatMap_append, shorter,
    ← List.drop_append_of_le_length reaches, List.take_append_drop]

end Groups

/-! ## The text of an identifier -/

/-- Every identifier has the layout, whatever its bytes are. -/
theorem hasLayout_text (bytes : Vector UInt8 16) : HasLayout (text bytes) := by
  refine ⟨[group (stamp bytes) 0 4, group (stamp bytes) 4 6, group (stamp bytes) 6 8,
    group (stamp bytes) 8 10, group (stamp bytes) 10 16], ?_, ?_, ?_⟩
  · simp [text, List.intercalate_cons_cons]
  · simp [length_group]
  · simp only [List.forall_mem_cons]
    exact ⟨fun c => isHexDigit_of_mem_group _, fun c => isHexDigit_of_mem_group _,
      fun c => isHexDigit_of_mem_group _, fun c => isHexDigit_of_mem_group _,
      fun c => isHexDigit_of_mem_group _, List.forall_mem_nil _⟩

/-- An identifier has thirty-six characters. -/
theorem length_text (bytes : Vector UInt8 16) : (text bytes).length = 36 := by
  simp [text, length_group]

/-- The digits of an identifier are its stamped bytes in hexadecimal. -/
theorem digits_text (bytes : Vector UInt8 16) :
    digits (text bytes) = (stamp bytes).toList.flatMap hex := by
  have whole : group (stamp bytes) 0 16 = (stamp bytes).toList.flatMap hex := by
    rw [group, List.drop_zero, List.take_of_length_le (by simp)]
  have kept (first last : Nat) :
      (group (stamp bytes) first last).filter (· ≠ '-') = group (stamp bytes) first last :=
    digits_of_forall_isHexDigit fun c => isHexDigit_of_mem_group _
  have noDash (rest : Text) : ('-' :: rest).filter (· ≠ '-') = rest.filter (· ≠ '-') := rfl
  rw [digits, text]
  simp only [List.filter_append, noDash, kept]
  -- Without the dashes the groups are neighbours.
  rw [group_append, group_append, group_append, group_append, whole] <;> omega

/-- The digits of an identifier are read back as its bytes with both stamps on them. -/
theorem bytes?_digits_text (bytes : Vector UInt8 16) :
    bytes? (digits (text bytes)) = some (stamp bytes).toList := by
  rw [digits_text, bytes?_flatMap_hex]

/-- Identifiers are the same if the stamped bytes are. -/
theorem text_eq_text_iff {first second : Vector UInt8 16} :
    text first = text second ↔ stamp first = stamp second := by
  constructor
  · intro same
    have read := congrArg (fun text => bytes? (digits text)) same
    simp only [bytes?_digits_text, Option.some.injEq] at read
    exact Vector.toList_inj.1 read
  · intro same
    rw [text, text, same]

/-! ## Bits -/

/-- Bytes are the same if their bits are. -/
theorem eq_iff_forall_bit_eq {first second : Vector UInt8 16} :
    first = second ↔ ∀ n, bit first n = bit second n := by
  constructor
  · rintro rfl n
    rfl
  · intro same
    refine Vector.ext fun i within => UInt8.toNat_inj.1 (Nat.eq_of_testBit_eq fun k => ?_)
    by_cases inByte : k < 8
    · have atPlace := same ⟨8 * i + k, by omega⟩
      have byteIndex : (8 * i + k) / 8 = i := by omega
      have bitIndex : (8 * i + k) % 8 = k := by omega
      simpa [bit, byteIndex, bitIndex] using atPlace
    · -- A byte has no bits from the eighth on.
      have high : 2 ^ 8 ≤ 2 ^ k := Nat.pow_le_pow_right (by decide) (by omega)
      rw [Nat.testBit_lt_two_pow (first[i].toNat_lt.trans_le high),
        Nat.testBit_lt_two_pow (second[i].toNat_lt.trans_le high)]

/-- The stamped bits are the upper four of byte 6 and the upper two of byte 8. -/
theorem mem_stampedBits_iff {n : Fin 128} :
    n ∈ stampedBits ↔ n.val / 8 = 6 ∧ 4 ≤ n.val % 8 ∨ n.val / 8 = 8 ∧ 6 ≤ n.val % 8 := by
  simp only [stampedBits, Finset.mem_insert, Finset.mem_singleton, Fin.ext_iff]
  omega

/-- The stamp of the version replaces the upper half of byte 6. -/
theorem get_stamp_version (bytes : Vector UInt8 16) :
    (stamp bytes).get 6 = (bytes.get 6 &&& 0x0f) ||| 0x40 := by
  simp [stamp, Vector.get_eq_getElem]

/-- The stamp of the variant replaces the upper two bits of byte 8. -/
theorem get_stamp_variant (bytes : Vector UInt8 16) :
    (stamp bytes).get 8 = (bytes.get 8 &&& 0x3f) ||| 0x80 := by
  simp [stamp, Vector.get_eq_getElem]

/-- No other byte is changed. -/
theorem get_stamp_of_ne (bytes : Vector UInt8 16) {i : Fin 16} (notVersion : i ≠ 6)
    (notVariant : i ≠ 8) : (stamp bytes).get i = bytes.get i := by
  have elsewhere : 6 ≠ i.val := fun same => notVersion (Fin.ext same.symm)
  have alsoElsewhere : 8 ≠ i.val := fun same => notVariant (Fin.ext same.symm)
  rw [Vector.get_eq_getElem, Vector.get_eq_getElem, stamp, Vector.getElem_set_ne _ _ alsoElsewhere,
    Vector.getElem_set_ne _ _ elsewhere]

section Overwritten

variable {byte mask value : UInt8} {width high : Nat} (isMask : mask.toNat = 2 ^ width - 1)
  (isHigh : value.toNat = 2 ^ width * high)
include isMask isHigh

/-- The low bits that a mask leaves of a byte, and a value above them. -/
theorem toNat_overwritten :
    ((byte &&& mask) ||| value).toNat = 2 ^ width * high + byte.toNat % 2 ^ width := by
  rw [UInt8.toNat_or, UInt8.toNat_and, isMask, isHigh, Nat.and_two_pow_sub_one_eq_mod,
    Nat.or_comm, Nat.two_pow_add_eq_or_of_lt (Nat.mod_lt _ (Nat.two_pow_pos _))]

/-- Masking the upper bits of a byte and putting others in their place keeps the lower bits. -/
theorem testBit_overwritten (k : Nat) :
    ((byte &&& mask) ||| value).toNat.testBit k =
      if k < width then byte.toNat.testBit k else high.testBit (k - width) := by
  rw [toNat_overwritten isMask isHigh,
    Nat.testBit_two_pow_mul_add _ (Nat.mod_lt _ (Nat.two_pow_pos _)), Nat.testBit_mod_two_pow]
  split <;> simp [*]

end Overwritten

/-- A bit of the bytes is a bit of one of them. -/
theorem bit_eq (bytes : Vector UInt8 16) {n : Fin 128} (i : Fin 16) (inByte : n.val / 8 = i) :
    bit bytes n = (bytes.get i).toNat.testBit (n.val % 8) := by
  obtain ⟨i, within⟩ := i
  subst inByte
  rfl

/-- The bits of the byte that holds the version: its own below, and those of 4 above. -/
theorem testBit_version (byte : UInt8) (k : Nat) :
    ((byte &&& 0x0f) ||| 0x40).toNat.testBit k =
      if k < 4 then byte.toNat.testBit k else Nat.testBit 4 (k - 4) :=
  testBit_overwritten rfl rfl k

/-- The bits of the byte that holds the variant: its own below, and those of 2 above. -/
theorem testBit_variant (byte : UInt8) (k : Nat) :
    ((byte &&& 0x3f) ||| 0x80).toNat.testBit k =
      if k < 6 then byte.toNat.testBit k else Nat.testBit 2 (k - 6) :=
  testBit_overwritten rfl rfl k

/-- Nothing is left of the bits that are stamped. -/
theorem bit_stamp_of_mem {n : Fin 128} (stamped : n ∈ stampedBits)
    (first second : Vector UInt8 16) : bit (stamp first) n = bit (stamp second) n := by
  rcases mem_stampedBits_iff.1 stamped with ⟨inByte, high⟩ | ⟨inByte, high⟩
  · rw [bit_eq _ 6 inByte, bit_eq _ 6 inByte, get_stamp_version, get_stamp_version,
      testBit_version, testBit_version, if_neg (by omega), if_neg (by omega)]
  · rw [bit_eq _ 8 inByte, bit_eq _ 8 inByte, get_stamp_variant, get_stamp_variant,
      testBit_variant, testBit_variant, if_neg (by omega), if_neg (by omega)]

/-- All other bits stay as they are. -/
theorem bit_stamp_of_not_mem {n : Fin 128} (unstamped : n ∉ stampedBits)
    (bytes : Vector UInt8 16) : bit (stamp bytes) n = bit bytes n := by
  have places := mt mem_stampedBits_iff.2 unstamped
  let i : Fin 16 := ⟨n.val / 8, by omega⟩
  by_cases inVersion : i = 6
  · have inByte : n.val / 8 = 6 := congrArg Fin.val inVersion
    rw [bit_eq _ 6 inByte, bit_eq _ 6 inByte, get_stamp_version, testBit_version,
      if_pos (by omega)]
  by_cases inVariant : i = 8
  · have inByte : n.val / 8 = 8 := congrArg Fin.val inVariant
    rw [bit_eq _ 8 inByte, bit_eq _ 8 inByte, get_stamp_variant, testBit_variant,
      if_pos (by omega)]
  · rw [bit_eq _ i rfl, bit_eq _ i rfl, get_stamp_of_ne bytes inVersion inVariant]

/-- The bytes that a stream gives hold the bits of its draws in order. -/
theorem bit_ofStream (stream : Nat → UInt64) (before : List Request) (n : Fin 128) :
    bit ((RandomSource.ofStream stream).bytes before 16) n = drawBit stream before n := by
  have drawIndex : n.val / 8 / 8 = n.val / 64 := by omega
  have bitIndex : 8 * (n.val / 8 % 8) + n.val % 8 = n.val % 64 := by omega
  have inByte : n.val % 8 < 8 := by omega
  rw [bit, drawBit, RandomSource.ofStream, Vector.getElem_ofFn, UInt8.toNat_ofNat',
    Nat.testBit_mod_two_pow, Nat.testBit_shiftRight]
  simp [drawIndex, bitIndex, inByte]

/-- Identifiers are the same if the bytes agree in all bits that are not stamped. -/
theorem text_eq_text_iff_forall_bit_eq {first second : Vector UInt8 16} :
    text first = text second ↔ ∀ n ∉ stampedBits, bit first n = bit second n := by
  rw [text_eq_text_iff, eq_iff_forall_bit_eq]
  constructor
  · intro same n unstamped
    have atBit := same n
    rwa [bit_stamp_of_not_mem unstamped, bit_stamp_of_not_mem unstamped] at atBit
  · intro same n
    by_cases stamped : n ∈ stampedBits
    · exact bit_stamp_of_mem stamped first second
    · rw [bit_stamp_of_not_mem stamped, bit_stamp_of_not_mem stamped, same n stamped]

/-- The higher digit of a byte is the one in its place. -/
theorem getElem?_digits_text (bytes : Vector UInt8 16) {i : Nat} (within : i < 16) :
    (digits (text bytes))[2 * i]? = some (Nat.digitChar ((stamp bytes)[i].toNat / 16)) := by
  rw [digits_text, getElem?_flatMap_hex]
  simp [within]

/-- The first digit of the third group is the version. -/
theorem getElem?_digits_text_version (bytes : Vector UInt8 16) :
    (digits (text bytes))[12]? = some '4' := by
  have stamped : (stamp bytes)[6] = (bytes.get 6 &&& 0x0f) ||| 0x40 := get_stamp_version bytes
  have value : ((bytes.get 6 &&& 0x0f) ||| 0x40).toNat = 2 ^ 4 * 4 + (bytes.get 6).toNat % 2 ^ 4 :=
    toNat_overwritten rfl rfl
  have high : ((bytes.get 6 &&& 0x0f) ||| 0x40).toNat / 16 = 4 := by omega
  rw [getElem?_digits_text bytes (i := 6) (by decide), stamped, high]
  rfl

/-- The first digit of the fourth group tells the variant: its upper two bits are fixed, and two
are left to chance. -/
theorem getElem?_digits_text_variant (bytes : Vector UInt8 16) :
    ∃ c ∈ "89ab".toList, (digits (text bytes))[16]? = some c := by
  have stamped : (stamp bytes)[8] = (bytes.get 8 &&& 0x3f) ||| 0x80 := get_stamp_variant bytes
  have value : ((bytes.get 8 &&& 0x3f) ||| 0x80).toNat = 2 ^ 6 * 2 + (bytes.get 8).toNat % 2 ^ 6 :=
    toNat_overwritten rfl rfl
  have high : ((bytes.get 8 &&& 0x3f) ||| 0x80).toNat / 16 =
      8 + (bytes.get 8).toNat % 2 ^ 6 / 16 := by omega
  have variants : ∀ low < 4, Nat.digitChar (8 + low) ∈ "89ab".toList := by decide
  refine ⟨_, variants ((bytes.get 8).toNat % 2 ^ 6 / 16) (by omega), ?_⟩
  rw [getElem?_digits_text bytes (i := 8) (by decide), stamped, high]

/-- The value of an identifier expression is the text of sixteen bytes that the random source
gives. It has 36 characters, in groups of 8, 4, 4, 4 and 12 hexadecimal digits, with a 4 as the
13th and one of 8, 9, a and b as the 17th digit. The digits read back as the bytes, in order,
with six bits of bytes 6 and 8 set to the version and the variant. Two identifiers are the same
exactly if the bytes agree in the other 122 bits. Of bytes taken from draws, each of these bits
is the bit of a draw in the same place, so nothing else of a draw is lost, repeated or moved. -/
theorem text_exact :
    (∀ (sources : Sources) usage, sources.uuid.outcome usage =
      (.ok (text (sources.random.bytes usage.requests 16)),
        { usage with requests := usage.requests ++ [.bytes 16] })) ∧
    (∀ bytes, (text bytes).length = 36 ∧ HasLayout (text bytes) ∧
      (digits (text bytes))[12]? = some '4' ∧
      (∃ c ∈ "89ab".toList, (digits (text bytes))[16]? = some c) ∧
      ∃ read : Vector UInt8 16, bytes? (digits (text bytes)) = some read.toList ∧
        read.get 6 = (bytes.get 6 &&& 0x0f) ||| 0x40 ∧
        read.get 8 = (bytes.get 8 &&& 0x3f) ||| 0x80 ∧
        ∀ i, i ≠ 6 → i ≠ 8 → read.get i = bytes.get i) ∧
    stampedBitsᶜ.card = 122 ∧
    (∀ first second, text first = text second ↔
      ∀ n ∉ stampedBits, bit first n = bit second n) ∧
    (∀ stream before, ∃ read : Vector UInt8 16,
      bytes? (digits (text ((RandomSource.ofStream stream).bytes before 16))) =
          some read.toList ∧
        ∀ n ∉ stampedBits, bit read n = drawBit stream before n) ∧
    ∀ stream other before,
      text ((RandomSource.ofStream stream).bytes before 16) =
          text ((RandomSource.ofStream other).bytes before 16) ↔
        ∀ n ∉ stampedBits, drawBit stream before n = drawBit other before n := by
  refine ⟨fun sources usage => rfl, fun bytes => ?_, ?_,
    fun first second => text_eq_text_iff_forall_bit_eq, fun stream before => ?_,
    fun stream other before => ?_⟩
  · exact ⟨length_text bytes, hasLayout_text bytes, getElem?_digits_text_version bytes,
      getElem?_digits_text_variant bytes, stamp bytes, bytes?_digits_text bytes,
      get_stamp_version bytes, get_stamp_variant bytes, fun i => get_stamp_of_ne bytes⟩
  · rw [Finset.card_compl, Fintype.card_fin]
    rfl
  · refine ⟨_, bytes?_digits_text _, fun n unstamped => ?_⟩
    rw [bit_stamp_of_not_mem unstamped, bit_ofStream]
  · rw [text_eq_text_iff_forall_bit_eq]
    simp only [bit_ofStream]

/-- Bytes of ones make the same identifier as bytes that lack the highest bit of byte 6 and the
second one of byte 8, and no other bit. -/
theorem text_exact_ones :
    let ones : Vector UInt8 16 := .replicate 16 0xff
    let fewer : Vector UInt8 16 :=
      .ofFn fun i => if i = 6 then 0x7f else if i = 8 then 0xbf else 0xff
    (∀ n ∉ stampedBits, bit ones n = bit fewer n) ∧ text ones = text fewer ∧
      text ones = "ffffffff-ffff-4fff-bfff-ffffffffffff".toList := by
  intro ones fewer
  have agree : ∀ n ∉ stampedBits, bit ones n = bit fewer n := by decide +kernel
  obtain ⟨-, -, -, same, -⟩ := text_exact
  exact ⟨agree, (same ones fewer).2 agree, by decide⟩

end Stencil.Uuid
