import Stencil.Message.Stored
import Stencil.Proofs.Json.Documents
import Stencil.Settings.Stored

/-!
# Settings and messages are read back

Whatever settings or message are written, the document holds them exactly: every 64-bit
number, consistent or not, and every text, whatever characters it holds. So different ones
have different documents, and reading a document and writing what it holds is the same when
it is done twice. Main statement: `stored_read_back`.
-/

namespace Stencil

open Json

namespace Json

/-- Reads octets and writes what they hold. -/
def rewrite? {α : Type} (read? : List UInt8 → Option α) (write : α → Text)
    (octets : List UInt8) : Option (List UInt8) :=
  (read? octets).map fun a => Utf8.encode (write a)

section ReadBack

variable {α : Type} {read? : List UInt8 → Option α} {write : α → Text}

/-- What is read back from its document has a document of its own. -/
theorem write_eq_write_iff (readBack : ∀ a, read? (Utf8.encode (write a)) = some a)
    (first second : α) : write first = write second ↔ first = second := by
  constructor
  · intro same
    have read := readBack first
    rw [same, readBack second] at read
    exact (Option.some.inj read).symm
  · exact congrArg write

/-- Rewriting what was rewritten changes nothing. -/
theorem rewrite?_bind_rewrite? (readBack : ∀ a, read? (Utf8.encode (write a)) = some a)
    (octets : List UInt8) :
    (rewrite? read? write octets).bind (rewrite? read? write) = rewrite? read? write octets := by
  unfold rewrite?
  cases read? octets with
  | none => rfl
  | some a => rw [Option.map_some, Option.bind_some, readBack, Option.map_some]

end ReadBack

end Json

namespace Settings

/-- The fields that settings are written with. -/
def entries (settings : Settings) : List (Text × Scalar) :=
  [(maxPassesField, .number settings.maxPasses.toNat),
    (randomMinField, .number settings.randomMin.toNat),
    (randomMaxField, .number settings.randomMax.toNat)]

/-- Settings are written as a record of their three fields. -/
theorem write_eq (settings : Settings) : settings.write = Document.record settings.entries := rfl

/-- Settings are read back from their document. -/
theorem read?_encode_write (settings : Settings) :
    read? (Utf8.encode settings.write) = some settings := by
  have named : settings.entries.map Prod.fst = fields := rfl
  have distinct : fields.Nodup := by decide
  have word (n : UInt64) : (Scalar.number n.toNat).value.word? = some n :=
    Decimal.readWord?_write n
  have given {name : Text} {n : UInt64} (member : (name, .number n.toNat) ∈ settings.entries)
      (default : UInt64) :
      Record.optional? (settings.entries.map Document.fieldValue) name Value.word? default =
        some n :=
    (Record.optional?_map_fieldValue (named ▸ distinct) member _ _).trans (word n)
  rw [read?, write_eq, Value.ofOctets?_encode_record, Option.bind_some, ofValue?,
    Value.record?_value named distinct, Option.bind_eq_bind, Option.bind_some]
  dsimp only
  rw [given (.head _), given (.tail _ (.head _)), given (.tail _ (.tail _ (.head _)))]
  rfl

end Settings

namespace Message

/-- The fields that a message is written with. -/
def entries (message : Message) : List (Text × Scalar) :=
  [(topicField, .text message.topic), (payloadField, message.payload.elim .null .text),
    (qosField, .text message.qos.keyword), (retainField, .bool message.retain)]

/-- A message is written as a record of its four fields. -/
theorem write_eq (message : Message) : message.write = Document.record message.entries := rfl

/-- A text that is written as a scalar is read back. -/
theorem text?_value (content : Text) : (Scalar.text content).value.text? = some content :=
  Part.text?_flatMap_written content

/-- A payload that is missing is written as null. -/
theorem optionalText?_value (payload : Option Text) :
    (payload.elim Scalar.null .text).value.optionalText? = some payload := by
  cases payload with
  | none => rfl
  | some content => exact congrArg (Option.map some) (text?_value content)

/-- The word for a delivery guarantee stands for it. -/
theorem ofValue?_keyword (qos : Qos) : Qos.ofValue? (Scalar.text qos.keyword).value = some qos := by
  have word : Qos.ofValue? (Scalar.text qos.keyword).value = Qos.ofKeyword? qos.keyword :=
    congrArg (·.bind Qos.ofKeyword?) (text?_value qos.keyword)
  rw [word]
  cases qos <;> rfl

/-- A message is read back from its document. -/
theorem read?_encode_write (message : Message) :
    read? (Utf8.encode message.write) = some message := by
  have named : message.entries.map Prod.fst = fields := rfl
  have distinct : fields.Nodup := by decide
  have topic : Record.required? (message.entries.map Document.fieldValue) topicField Value.text? =
      some message.topic :=
    (Record.required?_map_fieldValue (named ▸ distinct) (.head _) _).trans (text?_value _)
  have given {α : Type} {name : Text} {scalar : Scalar} (member : (name, scalar) ∈ message.entries)
      {decode : Value → Option α} {a : α} (holds : decode scalar.value = some a) (default : α) :
      Record.optional? (message.entries.map Document.fieldValue) name decode default = some a :=
    (Record.optional?_map_fieldValue (named ▸ distinct) member decode default).trans holds
  rw [read?, write_eq, Value.ofOctets?_encode_record, Option.bind_some, ofValue?,
    Value.record?_value named distinct, Option.bind_eq_bind, Option.bind_some, topic,
    given (.tail _ (.head _)) (optionalText?_value message.payload),
    given (.tail _ (.tail _ (.head _))) (ofValue?_keyword message.qos),
    given (.tail _ (.tail _ (.tail _ (.head _))))
      (show Value.bool? _ = some message.retain from rfl)]
  rfl

end Message

/-- All settings and all messages are read back from their documents. So no two of them have
the same document, and whatever document is read, rewriting it a second time changes
nothing. -/
theorem stored_read_back :
    (∀ settings : Settings, Settings.read? (Utf8.encode settings.write) = some settings) ∧
    (∀ message : Message, Message.read? (Utf8.encode message.write) = some message) ∧
    (∀ first second : Settings, first.write = second.write ↔ first = second) ∧
    (∀ first second : Message, first.write = second.write ↔ first = second) ∧
    (∀ octets, (rewrite? Settings.read? Settings.write octets).bind
        (rewrite? Settings.read? Settings.write) =
      rewrite? Settings.read? Settings.write octets) ∧
    ∀ octets, (rewrite? Message.read? Message.write octets).bind
        (rewrite? Message.read? Message.write) =
      rewrite? Message.read? Message.write octets :=
  ⟨Settings.read?_encode_write, Message.read?_encode_write,
    write_eq_write_iff Settings.read?_encode_write, write_eq_write_iff Message.read?_encode_write,
    rewrite?_bind_rewrite? Settings.read?_encode_write,
    rewrite?_bind_rewrite? Message.read?_encode_write⟩

/-- A document that names one field and a member of another name is rewritten in full. -/
example :
    rewrite? Settings.read? Settings.write
        (Utf8.encode "\x7b\"note\": [1e9], \"random_max\":6\x7d".toList) =
      some (Utf8.encode (Settings.write { randomMax := 6 })) := by
  decide +kernel

end Stencil
