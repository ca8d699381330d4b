import Stencil.Json.Value

/-!
# Records in JSON

A record with named fields is written as an object, or as an array of its first
fields in order. Members of other names are skipped. A field that occurs twice
makes the record invalid.
-/

namespace Stencil.Json

/-- The fields that were given, with their values as written. -/
abbrev Record := List (Text × Value)

namespace Value

/-- The members of an object with their keys read. -/
def named? (members : List (List Part × Value)) : Option Record :=
  members.mapM fun member => (Part.text? member.1).map fun key => (key, member.2)

/-- The fields that a value gives for a record with these field names. -/
def record? (fields : List Text) : Value → Option Record
  | .object members => do
    let known := (← named? members).filter fun member => member.1 ∈ fields
    if (known.map Prod.fst).Nodup then some known else none
  | .array elements =>
    if elements.length ≤ fields.length then some (fields.zip elements) else none
  | _ => none

/-- The number of 64 bits that the value is. It has to be written in digits only. -/
def word? : Value → Option UInt64
  | .number literal => Decimal.readWord? literal
  | _ => none

/-- The truth value that the value is. -/
def bool? : Value → Option Bool
  | .bool value => some value
  | _ => none

/-- The text that the value is. -/
def text? : Value → Option Text
  | .string parts => Part.text? parts
  | _ => none

/-- The text that the value is, null being no text. -/
def optionalText? : Value → Option (Option Text)
  | .null => some none
  | value => (text? value).map some

end Value

namespace Record

/-- The value of a field that must be given. -/
def required? (record : Record) (field : Text) {α : Type} (decode : Value → Option α) :
    Option α :=
  (record.lookup field).bind decode

/-- The value of a field, or the default if it is not given. -/
def optional? (record : Record) (field : Text) {α : Type} (decode : Value → Option α)
    (default : α) : Option α :=
  match record.lookup field with
  | some value => decode value
  | none => some default

end Record
end Stencil.Json
