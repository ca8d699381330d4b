import Stencil.Message.Stored
import Stencil.Proofs.Json.Members
import Stencil.Proofs.Json.Values
import Stencil.Settings.Stored

/-!
# Only known fields matter

Settings and messages are read from whatever text an object is written with, and all that matters
of the object are the values of its known members. A member that is missing stands for its
default, a known member that occurs twice makes the object invalid, and an array holds the first
fields. `DependsOnFields` says so of any reader of records; main statement:
`read?_dependsOnFields`.
-/

namespace Stencil

open Json

namespace Json

/-- The member gives the field its value, or it is missing and the value is the default. -/
def Value.GivesOr {α : Type} (members : List (List Part × Value)) (field : Text)
    (decode : Value → Option α) (default a : α) : Prop :=
  Gives members field decode a ∨ Misses members field ∧ a = default

/-- What is read from texts depends on the known members of an object only. -/
structure DependsOnFields {α : Type} (fields : List Text) (read? : List UInt8 → Option α)
    (IsHeldBy : List (List Part × Value) → α → Prop) : Prop where
  /-- Values that differ in the order of members, in members of other names and in spelling are
  read alike, whichever texts they are written with. -/
  rearranged : ∀ {value value' octets octets'},
    Relation.EqvGen (Value.Rearranged fields) value value' →
      value.IsWritten octets → value'.IsWritten octets' → read? octets = read? octets'
  /-- What an object holds is read from all texts that it is written with, and nothing else. -/
  held : ∀ {members octets}, (Value.object members).IsWritten octets → ∀ a, read? octets = some a ↔
    Value.AreNamed members ∧ Value.AtMostOnce fields members ∧ IsHeldBy members a
  /-- Nothing is read if a known member occurs twice. -/
  repeated : ∀ {members octets field}, (Value.object members).IsWritten octets → field ∈ fields →
    2 ≤ members.countP (fun member => Part.text? member.1 = some field) → read? octets = none
  /-- An array of the first fields is read like the object with just these members. -/
  listed : ∀ {members octets octets'},
    members.map (fun member => Part.text? member.1) = (fields.take members.length).map some →
      (Value.array (members.map Prod.snd)).IsWritten octets →
        (Value.object members).IsWritten octets' → read? octets = read? octets'

/-- A reader of records depends on their fields if what it builds from a record does. -/
theorem dependsOnFields_of_build {α : Type} {fields : List Text} {read? : List UInt8 → Option α}
    {IsHeldBy : List (List Part × Value) → α → Prop} {ofValue? : Value → Option α}
    (build : Record → Option α) (distinct : fields.Nodup)
    (reads : ∀ octets, read? octets = (Value.ofOctets? octets).bind ofValue?)
    (through : ∀ value, ofValue? value = (value.record? fields).bind build)
    (agree : ∀ record record', Record.Alike record record' → build record = build record')
    (builds : ∀ members, Value.AtMostOnce fields members → ∀ a,
      build (Value.known fields members) = some a ↔ IsHeldBy members a) :
    DependsOnFields fields read? IsHeldBy := by
  have read {value : Value} {octets : List UInt8} (written : value.IsWritten octets) :
      read? octets = ofValue? value := by
    rw [reads, Value.ofOctets?_eq_some_iff.2 written, Option.bind_some]
  have held {members : List (List Part × Value)} {octets : List UInt8}
      (written : (Value.object members).IsWritten octets) (a : α) : read? octets = some a ↔
        Value.AreNamed members ∧ Value.AtMostOnce fields members ∧ IsHeldBy members a := by
    rw [read written, through, Option.bind_eq_some_iff]
    constructor
    · rintro ⟨record, given, built⟩
      obtain ⟨areNamed, once, rfl⟩ := Value.record?_object_eq_some_iff.1 given
      exact ⟨areNamed, once, (builds members once a).1 built⟩
    · rintro ⟨areNamed, once, isHeld⟩
      exact ⟨_, Value.record?_object_eq_some_iff.2 ⟨areNamed, once, rfl⟩,
        (builds members once a).2 isHeld⟩
  refine ⟨fun rearranged written written' => ?_, held, fun written isField twice => ?_,
    fun named written written' => ?_⟩
  · rw [read written, read written', Value.eq_of_rearranged through agree rearranged]
  · rw [Option.eq_none_iff_forall_ne_some]
    intro a isRead
    obtain ⟨-, once, -⟩ := (held written a).1 isRead
    have most := once _ isField
    omega
  · rw [read written, read written', through, through, Value.record?_array distinct named]

/-- A number has one spelling only. -/
theorem Value.ignoresSpelling_word? : IgnoresSpelling word? := by
  intro _ _ respelled
  cases respelled <;> rfl

/-- A truth value has one spelling only. -/
theorem Value.ignoresSpelling_bool? : IgnoresSpelling bool? := by
  intro _ _ respelled
  cases respelled <;> rfl

/-- A string is taken for its text, with whatever escapes it is written. -/
theorem Value.ignoresSpelling_text? : IgnoresSpelling text? := by
  intro _ _ respelled
  cases respelled with
  | string same => exact same
  | element | key | member => rfl

/-- A string is taken for its text also where null stands for none. -/
theorem Value.ignoresSpelling_optionalText? : IgnoresSpelling optionalText? := by
  intro _ _ respelled
  cases respelled with
  | string same => exact congrArg (Option.map some) same
  | element | key | member => rfl

end Json

namespace Qos

/-- An object that stands for a delivery guarantee has one member. -/
theorem ofValue?_object_eq_none {members : List (List Part × Value)}
    (several : members.length ≠ 1) : ofValue? (.object members) = none := by
  unfold ofValue?
  split
  · next same => cases same
  · next same =>
    cases same
    exact absurd rfl several
  · rfl

/-- A delivery guarantee is recognized in every spelling of its keyword. -/
theorem ignoresSpelling_ofValue? : Value.IgnoresSpelling ofValue? := by
  have alone {before after : List (List Part × Value)} {member member' : List Part × Value}
      (same : ofValue? (.object [member]) = ofValue? (.object [member'])) :
      ofValue? (.object (before ++ member :: after)) =
        ofValue? (.object (before ++ member' :: after)) := by
    by_cases others : before = [] ∧ after = []
    · rw [others.1, others.2]
      exact same
    · have several : before.length + (after.length + 1) ≠ 1 := by
        rw [← List.length_eq_zero_iff, ← List.length_eq_zero_iff] at others
        omega
      rw [ofValue?_object_eq_none (by simpa using several),
        ofValue?_object_eq_none (by simpa using several)]
  intro value value' respelled
  cases respelled with
  | string same => exact congrArg (·.bind ofKeyword?) same
  | element => rfl
  | key before after value same =>
    refine alone ?_
    cases value with
    | null => exact congrArg (·.bind ofKeyword?) same
    | _ => rfl
  | member before after key respelled =>
    refine alone ?_
    cases respelled <;> rfl

end Qos

namespace Settings

/-- The settings that a record gives. -/
def ofRecord? (record : Record) : Option Settings := do
  return {
    maxPasses := ← record.optional? maxPassesField Value.word? 10
    randomMin := ← record.optional? randomMinField Value.word? 0
    randomMax := ← record.optional? randomMaxField Value.word? 100 }

/-- The members of an object hold the settings: each number is the one of its member, or else the
default. -/
structure IsHeldBy (members : List (List Part × Value)) (settings : Settings) : Prop where
  maxPasses : Value.GivesOr members maxPassesField Value.word? 10 settings.maxPasses
  randomMin : Value.GivesOr members randomMinField Value.word? 0 settings.randomMin
  randomMax : Value.GivesOr members randomMaxField Value.word? 100 settings.randomMax

/-- Settings are read from a record field by field, with a default for each that is missing. -/
theorem ofRecord?_eq_some_iff {record : Record} {settings : Settings} :
    ofRecord? record = some settings ↔
      record.optional? maxPassesField Value.word? 10 = some settings.maxPasses ∧
      record.optional? randomMinField Value.word? 0 = some settings.randomMin ∧
      record.optional? randomMaxField Value.word? 100 = some settings.randomMax := by
  obtain ⟨maxPasses, randomMin, randomMax⟩ := settings
  simp [ofRecord?, Option.bind_eq_some_iff]

/-- Reading settings depends on the three fields of the document and on nothing else in it. -/
theorem dependsOnFields : DependsOnFields fields read? IsHeldBy := by
  refine dependsOnFields_of_build ofRecord? (by decide) (fun _ => rfl) (fun _ => rfl)
    (fun record record' alike => ?_) fun members once settings => ?_
  · simp only [ofRecord?, alike.optional?_eq Value.ignoresSpelling_word?]
  · rw [ofRecord?_eq_some_iff, Value.optional?_known_iff (by decide) once,
      Value.optional?_known_iff (by decide) once, Value.optional?_known_iff (by decide) once]
    exact ⟨fun ⟨first, second, third⟩ => ⟨first, second, third⟩,
      fun held => ⟨held.maxPasses, held.randomMin, held.randomMax⟩⟩

end Settings

namespace Message

/-- The message that a record gives. -/
def ofRecord? (record : Record) : Option Message := do
  return {
    topic := ← record.required? topicField Value.text?
    payload := ← record.optional? payloadField Value.optionalText? none
    qos := ← record.optional? qosField Qos.ofValue? .atMostOnce
    retain := ← record.optional? retainField Value.bool? false }

/-- The members of an object hold the message: there is a member for the topic, and each other
part is the one of its member, or else the default. -/
structure IsHeldBy (members : List (List Part × Value)) (message : Message) : Prop where
  topic : Value.Gives members topicField Value.text? message.topic
  payload : Value.GivesOr members payloadField Value.optionalText? none message.payload
  qos : Value.GivesOr members qosField Qos.ofValue? .atMostOnce message.qos
  retain : Value.GivesOr members retainField Value.bool? false message.retain

/-- A message is read from a record field by field. Only its topic must be there. -/
theorem ofRecord?_eq_some_iff {record : Record} {message : Message} :
    ofRecord? record = some message ↔
      record.required? topicField Value.text? = some message.topic ∧
      record.optional? payloadField Value.optionalText? none = some message.payload ∧
      record.optional? qosField Qos.ofValue? .atMostOnce = some message.qos ∧
      record.optional? retainField Value.bool? false = some message.retain := by
  obtain ⟨topic, payload, qos, retain⟩ := message
  cases retain <;> simp [ofRecord?, Option.bind_eq_some_iff]

/-- Reading a message depends on the four fields of the document and on nothing else in it. -/
theorem dependsOnFields : DependsOnFields fields read? IsHeldBy := by
  refine dependsOnFields_of_build ofRecord? (by decide) (fun _ => rfl) (fun _ => rfl)
    (fun record record' alike => ?_) fun members once message => ?_
  · simp only [ofRecord?, alike.required?_eq Value.ignoresSpelling_text?,
      alike.optional?_eq Value.ignoresSpelling_optionalText?,
      alike.optional?_eq Qos.ignoresSpelling_ofValue?,
      alike.optional?_eq Value.ignoresSpelling_bool?]
  · rw [ofRecord?_eq_some_iff, Value.required?_known_iff (by decide) once,
      Value.optional?_known_iff (by decide) once, Value.optional?_known_iff (by decide) once,
      Value.optional?_known_iff (by decide) once]
    exact ⟨fun ⟨first, second, third, fourth⟩ => ⟨first, second, third, fourth⟩,
      fun held => ⟨held.topic, held.payload, held.qos, held.retain⟩⟩

end Message

/-- Settings and messages depend on their known members only. -/
theorem read?_dependsOnFields :
    DependsOnFields Settings.fields Settings.read? Settings.IsHeldBy ∧
    DependsOnFields Message.fields Message.read? Message.IsHeldBy :=
  ⟨Settings.dependsOnFields, Message.dependsOnFields⟩

/-- Settings of which another text has the members in reverse order, an escape within a key and a
member of another name in front; and a message whose topic is given twice, once with an
escape. -/
theorem read?_dependsOnFields_respelled :
    let key (name : String) : List Part := name.toList.flatMap Part.written
    let lower : List Part × Value := (key "random_min", .number "1".toList)
    let upper : List Part × Value := (key "random_max", .number "7".toList)
    let respelled : List Part × Value := (key "random" ++ .unit 0x5f :: key "max", upper.2)
    let note : List Part × Value :=
      (key "note", .array [.object [(key "", .number "1e999".toList)]])
    let octets := Utf8.encode "\x7b\"random_min\":1,\"random_max\":7\x7d".toList
    let octets' := Utf8.encode ("\x7b \"note\": [\x7b\"\":1e999\x7d], ".toList ++
      "\"random\\u005Fmax\": 7, \"random_min\": 1 \x7d".toList)
    let twice := Utf8.encode "\x7b\"topic\":\"a\",\"t\\u006fpic\":\"a\"\x7d".toList
    Relation.EqvGen (Value.Rearranged Settings.fields) (.object [lower, upper])
        (.object [note, respelled, lower]) ∧
      (Value.object [lower, upper]).IsWritten octets ∧
      (Value.object [note, respelled, lower]).IsWritten octets' ∧
      Settings.read? octets = some { randomMin := 1, randomMax := 7 } ∧
      Settings.read? octets = Settings.read? octets' ∧
      Message.read? twice = none := by
  intro key lower upper respelled note octets octets' twice
  have reversed : Value.Rearranged Settings.fields (.object [lower, upper])
      (.object [upper, lower]) := .permuted (.swap _ _ _)
  have spelt : Value.Rearranged Settings.fields (.object [upper, lower])
      (.object [respelled, lower]) :=
    .respelled (.key [] [lower] upper.2 (by decide +kernel))
  have noted : Value.Rearranged Settings.fields (.object [respelled, lower])
      (.object [note, respelled, lower]) :=
    .extended [] [respelled, lower] note.2 (Part.text?_flatMap_written _) (by decide)
  have rearranged := ((Relation.EqvGen.rel _ _ reversed).trans _ _ _ (.rel _ _ spelt)).trans _ _ _
    (.rel _ _ noted)
  have written : (Value.object [lower, upper]).IsWritten octets :=
    Token.ofOctets?_eq_some_iff.1 (by decide +kernel)
  have written' : (Value.object [note, respelled, lower]).IsWritten octets' :=
    Token.ofOctets?_eq_some_iff.1 (by decide +kernel)
  have repeatedly : (Value.object [(key "topic", .string (key "a")),
      (key "t" ++ .unit 0x6f :: key "pic", .string (key "a"))]).IsWritten twice :=
    Token.ofOctets?_eq_some_iff.1 (by decide +kernel)
  exact ⟨rearranged, written, written', by decide +kernel,
    read?_dependsOnFields.1.rearranged rearranged written written',
    read?_dependsOnFields.2.repeated repeatedly (.head _) (by decide +kernel)⟩

end Stencil
