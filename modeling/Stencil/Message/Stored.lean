import Stencil.Json.Document
import Stencil.Message

/-!
# Stored messages

The JSON form of a message template. Only the topic has to be given.
-/

namespace Stencil

open Json

namespace Qos

/-- The word for a delivery guarantee. -/
def keyword : Qos → Text
  | .atMostOnce => "atmostonce".toList
  | .atLeastOnce => "atleastonce".toList
  | .exactlyOnce => "exactlyonce".toList

/-- The delivery guarantee that a word stands for. -/
def ofKeyword? (word : Text) : Option Qos :=
  [atMostOnce, atLeastOnce, exactlyOnce].find? fun qos => qos.keyword = word

/-- The delivery guarantee that a value holds: its word, or an object with that
word as its only key and null as the value. -/
def ofValue? : Value → Option Qos
  | .string parts => (Part.text? parts).bind ofKeyword?
  | .object [(key, .null)] => (Part.text? key).bind ofKeyword?
  | _ => none

end Qos

namespace Message

/-- The name of the field that holds the topic. -/
def topicField : Text := "topic".toList

/-- The name of the field that holds the payload. -/
def payloadField : Text := "payload".toList

/-- The name of the field that holds the delivery guarantee. -/
def qosField : Text := "qos".toList

/-- The name of the field that holds the retain mark. -/
def retainField : Text := "retain".toList

/-- The names of all fields, in order. -/
def fields : List Text := [topicField, payloadField, qosField, retainField]

/-- The message that a value holds. -/
def ofValue? (value : Value) : Option Message := do
  let record ← value.record? fields
  return {
    topic := ← record.required? topicField Value.text?
    payload := ← record.optional? payloadField Value.optionalText? none
    qos := ← record.optional? qosField Qos.ofValue? .atMostOnce
    retain := ← record.optional? retainField Value.bool? false }

/-- The message that the octets of a JSON text hold. -/
def read? (octets : List UInt8) : Option Message :=
  (Value.ofOctets? octets).bind ofValue?

/-- The JSON text of the message. -/
def write (message : Message) : Text :=
  Document.record [
    (topicField, .text message.topic),
    (payloadField, message.payload.elim .null .text),
    (qosField, .text message.qos.keyword),
    (retainField, .bool message.retain)]

end Message
end Stencil
