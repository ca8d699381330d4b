import Stencil.Json.Token
import Stencil.Text.Utf8

/-!
# JSON values

Tokens are put together with a list of the containers that are still open, so
that values may be nested to any depth. The members of an object keep their
order and their repetitions.
-/

namespace Stencil.Json

/-- A JSON value with its strings and numbers as they were written. -/
inductive Value
  | null
  | bool (value : Bool)
  | number (literal : Text)
  | string (parts : List Part)
  | array (elements : List Value)
  | object (members : List (List Part × Value))

namespace Value

/-- A container that waits for a value: what it holds so far, in reverse, and the
key that the value belongs to. -/
inductive Frame
  | array (before : List Value)
  | object (before : List (List Part × Value)) (key : List Part)

/-- What may come next. -/
inductive Phase
  /-- A value. -/
  | value
  /-- The first element of an array, or its end. -/
  | element
  /-- A key behind the given members, or the end of an object without members. -/
  | key (before : List (List Part × Value))
  /-- The colon behind a key. -/
  | colon (before : List (List Part × Value)) (key : List Part)
  /-- A comma behind the given elements, or the end of the array. -/
  | afterElement (before : List Value)
  /-- A comma behind the given members, or the end of the object. -/
  | afterMember (before : List (List Part × Value))
  /-- Nothing: the value is complete. -/
  | done (value : Value)

/-- The containers still open, the innermost first, and what may come next. -/
structure Reader where
  stack : List Frame := []
  phase : Phase := .value

namespace Reader

/-- Hands a complete value to the container that waits for it. -/
def place (value : Value) : List Frame → Reader
  | [] => { phase := .done value }
  | .array before :: stack => { stack, phase := .afterElement (value :: before) }
  | .object before key :: stack => { stack, phase := .afterMember ((key, value) :: before) }

/-- Reads the first token of a value. -/
def start (stack : List Frame) : Token → Option Reader
  | .null => some (place .null stack)
  | .bool value => some (place (.bool value) stack)
  | .number literal => some (place (.number literal) stack)
  | .string parts => some (place (.string parts) stack)
  | .openArray => some { stack, phase := .element }
  | .openObject => some { stack, phase := .key [] }
  | _ => none

/-- Reads one token. -/
def feed (reader : Reader) (token : Token) : Option Reader :=
  match reader.phase, token with
  | .value, token => start reader.stack token
  | .element, .closeArray => some (place (.array []) reader.stack)
  | .element, token => start (.array [] :: reader.stack) token
  | .key [], .closeObject => some (place (.object []) reader.stack)
  | .key before, .string key => some { reader with phase := .colon before key }
  | .colon before key, .colon =>
    some { stack := .object before key :: reader.stack, phase := .value }
  | .afterElement before, .comma =>
    some { stack := .array before :: reader.stack, phase := .value }
  | .afterElement before, .closeArray => some (place (.array before.reverse) reader.stack)
  | .afterMember before, .comma => some { reader with phase := .key before }
  | .afterMember before, .closeObject => some (place (.object before.reverse) reader.stack)
  | _, _ => none

/-- The value read, if it is complete. -/
def finish (reader : Reader) : Option Value :=
  match reader.phase with
  | .done value => some value
  | _ => none

end Reader

/-- The value that the tokens form. -/
def ofTokens? (tokens : List Token) : Option Value :=
  (tokens.foldlM Reader.feed {}).bind Reader.finish

/-- The value that the octets form. -/
def ofOctets? (octets : List UInt8) : Option Value :=
  (Token.ofOctets? octets).bind ofTokens?

end Value

namespace Part

/-- Whether a code unit is the first half of a surrogate pair. -/
def isHigh (unit : Nat) : Bool :=
  0xd800 ≤ unit && unit < 0xdc00

/-- Whether a code unit is the second half of a surrogate pair. -/
def isLow (unit : Nat) : Bool :=
  0xdc00 ≤ unit && unit < 0xe000

/-- The octets of the character with the number. -/
def characterOctets (number : Nat) : List UInt8 :=
  String.utf8EncodeChar (Char.ofNat number)

/-- The octets that the parts stand for. Code units that form no character are
refused. -/
def octets? : List Part → Option (List UInt8)
  | [] => some []
  | .octet byte :: rest => (octets? rest).map (byte :: ·)
  | .unit high :: .unit low :: rest =>
    if isHigh high then
      if isLow low then
        (octets? rest).map
          (characterOctets (0x10000 + (high - 0xd800) * 0x400 + (low - 0xdc00)) ++ ·)
      else none
    else if isLow high then none
    else (octets? (.unit low :: rest)).map (characterOctets high ++ ·)
  | .unit single :: rest =>
    if isHigh single || isLow single then none
    else (octets? rest).map (characterOctets single ++ ·)

/-- The text that the parts stand for, if they form one. -/
def text? (parts : List Part) : Option Text :=
  (octets? parts).bind Utf8.decode?

end Part
end Stencil.Json
