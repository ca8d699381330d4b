import Stencil.Json.Record

/-!
# Writing JSON

Records are written one member to a line, indented by two spaces, with a newline
at the end, so that files which people edit compare well.
-/

namespace Stencil.Json

/-- The values that a record is written with. -/
inductive Scalar
  | null
  | bool (value : Bool)
  | number (value : Nat)
  | text (text : Text)
  deriving DecidableEq, Repr

namespace Document

/-- A character within a string literal. Quotes, backslashes and control
characters are escaped, nothing else is. -/
def escape (c : Char) : Text :=
  match c with
  | '"' => "\\\"".toList
  | '\\' => "\\\\".toList
  | '\x08' => "\\b".toList
  | '\x0c' => "\\f".toList
  | '\n' => "\\n".toList
  | '\r' => "\\r".toList
  | '\t' => "\\t".toList
  | c =>
    if c.toNat < 0x20 then
      "\\u00".toList ++ [Nat.digitChar (c.toNat / 16), Nat.digitChar (c.toNat % 16)]
    else [c]

/-- A string literal. -/
def quote (text : Text) : Text :=
  '"' :: text.flatMap escape ++ ['"']

/-- A value. -/
def scalar : Scalar → Text
  | .null => "null".toList
  | .bool true => "true".toList
  | .bool false => "false".toList
  | .number value => Decimal.write value
  | .text text => quote text

/-- The line of a member without what ends it. -/
def member (field : Text × Scalar) : Text :=
  ' ' :: ' ' :: quote field.1 ++ ':' :: ' ' :: scalar field.2

/-- The lines of members, with a comma between each and the next. -/
def members : List (Text × Scalar) → Text
  | [] => []
  | [last] => member last ++ ['\n']
  | first :: rest => member first ++ ',' :: '\n' :: members rest

/-- The text of a record. -/
def record (fields : List (Text × Scalar)) : Text :=
  '{' :: '\n' :: members fields ++ ['}', '\n']

end Document
end Stencil.Json
