import Stencil.Decimal

/-!
# JSON tokens

Octets are read into tokens one after the other. A string is kept as the parts
that it was written with, so that strings which nobody asks for need not be
valid UTF-8 and may hold half a surrogate pair. A number is kept as it was
written.
-/

namespace Stencil.Json

/-- What one part of a string literal stands for: an octet, written as itself or
as a short escape, or a UTF-16 code unit written in hexadecimal. -/
inductive Part
  | octet (octet : UInt8)
  | unit (unit : Nat)
  deriving DecidableEq, Repr

/-- The smallest pieces of a JSON text. -/
inductive Token
  | openObject
  | closeObject
  | openArray
  | closeArray
  | colon
  | comma
  | null
  | bool (value : Bool)
  | number (literal : Text)
  | string (parts : List Part)
  deriving DecidableEq, Repr

namespace Number

/-- Whether the text ends a number: nothing, or an exponent with an optional sign
and digits. -/
def isExponent : Text → Bool
  | [] => true
  | 'e' :: '+' :: digits | 'e' :: '-' :: digits | 'e' :: digits
  | 'E' :: '+' :: digits | 'E' :: '-' :: digits | 'E' :: digits =>
    !digits.isEmpty && digits.all Char.isDigit
  | _ => false

/-- Whether the text can follow the whole part of a number: a fraction or nothing,
then perhaps an exponent. -/
def isFraction : Text → Bool
  | '.' :: rest =>
    !(rest.takeWhile Char.isDigit).isEmpty && isExponent (rest.dropWhile Char.isDigit)
  | rest => isExponent rest

/-- Whether the text is a number without a sign. The whole part has no leading
zeros. -/
def isUnsigned (literal : Text) : Bool :=
  let whole := literal.takeWhile Char.isDigit
  (whole == ['0'] || (!whole.isEmpty && whole.head? != some '0')) &&
    isFraction (literal.dropWhile Char.isDigit)

/-- Whether the text is a number. -/
def isLiteral : Text → Bool
  | '-' :: rest => isUnsigned rest
  | literal => isUnsigned literal

end Number

namespace Token

/-- Whether a word or a number can hold the character. -/
def isBare (c : Char) : Bool :=
  c.isAlphanum || c == '+' || c == '-' || c == '.'

/-- The token that a run of bare characters forms. -/
def ofBare? (word : Text) : Option Token :=
  if word = "null".toList then some .null
  else if word = "true".toList then some (.bool true)
  else if word = "false".toList then some (.bool false)
  else if Number.isLiteral word then some (.number word)
  else none

/-- The token that a single character forms. -/
def ofPunctuation? : Char → Option Token
  | '{' => some .openObject
  | '}' => some .closeObject
  | '[' => some .openArray
  | ']' => some .closeArray
  | ':' => some .colon
  | ',' => some .comma
  | _ => none

/-- Whether the character may stand between tokens. -/
def isBlank (c : Char) : Bool :=
  c == ' ' || c == '\n' || c == '\t' || c == '\r'

/-- What the character stands for behind a backslash, hexadecimal escapes apart. -/
def shortEscape? : Char → Option UInt8
  | '"' => some 0x22
  | '\\' => some 0x5c
  | '/' => some 0x2f
  | 'b' => some 0x08
  | 'f' => some 0x0c
  | 'n' => some 0x0a
  | 'r' => some 0x0d
  | 't' => some 0x09
  | _ => none

/-- The value of a hexadecimal digit in either case. -/
def hexDigit? (c : Char) : Option Nat :=
  if c.isDigit then some (c.toNat - '0'.toNat)
  else if 'a' ≤ c ∧ c ≤ 'f' then some (c.toNat - 'a'.toNat + 10)
  else if 'A' ≤ c ∧ c ≤ 'F' then some (c.toNat - 'A'.toNat + 10)
  else none

/-- Where the reader is. What was read of the current token is held in reverse. -/
inductive Mode
  | between
  | bare (word : Text)
  | quoted (parts : List Part)
  | escape (parts : List Part)
  | hex (parts : List Part) (digits : Nat) (unit : Nat)
  deriving DecidableEq, Repr

/-- The reader: where it is, and the finished tokens in reverse. -/
structure Reader where
  mode : Mode := .between
  tokens : List Token := []

namespace Reader

/-- Reads an octet that starts a token, is one, or stands between tokens. -/
def feedBetween (tokens : List Token) (c : Char) : Option Reader :=
  if isBlank c then some { tokens }
  else if c = '"' then some { mode := .quoted [], tokens }
  else if isBare c then some { mode := .bare [c], tokens }
  else (ofPunctuation? c).map fun token => { tokens := token :: tokens }

/-- Reads one octet. -/
def feed (reader : Reader) (octet : UInt8) : Option Reader :=
  let c := Char.ofNat octet.toNat
  match reader.mode with
  | .between => feedBetween reader.tokens c
  | .bare word =>
    if isBare c then some { reader with mode := .bare (c :: word) }
    else (ofBare? word.reverse).bind fun token => feedBetween (token :: reader.tokens) c
  | .quoted parts =>
    if c = '"' then some { tokens := .string parts.reverse :: reader.tokens }
    else if c = '\\' then some { reader with mode := .escape parts }
    else if octet < 0x20 then none
    else some { reader with mode := .quoted (.octet octet :: parts) }
  | .escape parts =>
    if c = 'u' then some { reader with mode := .hex parts 0 0 }
    else (shortEscape? c).map fun escaped =>
      { reader with mode := .quoted (.octet escaped :: parts) }
  | .hex parts digits unit =>
    (hexDigit? c).map fun digit =>
      let unit := unit * 16 + digit
      if digits = 3 then { reader with mode := .quoted (.unit unit :: parts) }
      else { reader with mode := .hex parts (digits + 1) unit }

/-- The tokens read, provided that the last one is complete. -/
def finish (reader : Reader) : Option (List Token) :=
  match reader.mode with
  | .between => some reader.tokens.reverse
  | .bare word => (ofBare? word.reverse).map fun token => (token :: reader.tokens).reverse
  | _ => none

end Reader

/-- The tokens that the octets form. -/
def ofOctets? (octets : List UInt8) : Option (List Token) :=
  (octets.foldlM Reader.feed {}).bind Reader.finish

end Token
end Stencil.Json
