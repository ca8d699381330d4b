import Mathlib.Data.List.Basic
import Mathlib.Data.Option.Basic
import Mathlib.Logic.Relation
import Stencil.Json.Record

/-!
# Members of objects

What an object gives for a record is told from its members alone: the ones whose keys stand for
the name of a field, in any order and however the keys are spelt, provided that no field occurs
twice and that all keys are texts (`record?_object_eq_some_iff`). So objects that are
`Rearranged` give records that no decoder which ignores spelling can tell apart
(`eq_of_rearranged`), and an array of the first fields gives what the object with just these
members gives (`record?_array`).
-/

namespace Stencil.Json

namespace Value

/-- One string within a value, a key or a text, is spelt in another way. -/
inductive Respelled : Value → Value → Prop
  | string {parts parts'} (same : Part.text? parts = Part.text? parts') :
      Respelled (.string parts) (.string parts')
  | element {value value'} (before after) (respelled : Respelled value value') :
      Respelled (.array (before ++ value :: after)) (.array (before ++ value' :: after))
  | key {key key'} (before after) (value) (same : Part.text? key = Part.text? key') :
      Respelled (.object (before ++ (key, value) :: after))
        (.object (before ++ (key', value) :: after))
  | member {value value'} (before after) (key) (respelled : Respelled value value') :
      Respelled (.object (before ++ (key, value) :: after))
        (.object (before ++ (key, value') :: after))

/-- One change that a reader of these fields does not see: members of an object in another
order, one member more of a name that is no field, and another spelling. -/
inductive Rearranged (fields : List Text) : Value → Value → Prop
  | permuted {members members'} (permutation : List.Perm members members') :
      Rearranged fields (.object members) (.object members')
  | extended {key name} (before after) (value) (named : Part.text? key = some name)
      (unknown : name ∉ fields) :
      Rearranged fields (.object (before ++ after)) (.object (before ++ (key, value) :: after))
  | respelled {value value'} (respelled : Respelled value value') : Rearranged fields value value'

/-- The decoder gives the same for all spellings of a value. -/
def IgnoresSpelling {α : Type} (decode : Value → Option α) : Prop :=
  ∀ value value', Respelled value value' → decode value = decode value'

end Value

/-- Whoever ignores spelling finds the same in the fields of both records. -/
def Record.Alike (record record' : Record) : Prop :=
  ∀ (α : Type) (decode : Value → Option α), Value.IgnoresSpelling decode → ∀ field,
    (record.lookup field).map decode = (record'.lookup field).map decode

namespace Record

variable {record record' : Record} {α : Type} {decode : Value → Option α}

/-- A record is like itself. -/
theorem Alike.refl (record : Record) : Alike record record :=
  fun _ _ _ _ => rfl

/-- Records with a value that is spelt in another way are alike. -/
theorem alike_of_respelled {value value' : Value} (first second : Record) (name : Text)
    (respelled : value.Respelled value') :
    Alike (first ++ (name, value) :: second) (first ++ (name, value') :: second) := by
  intro α decode ignores field
  have same := ignores _ _ respelled
  simp only [List.lookup_append, List.lookup_cons]
  cases first.lookup field <;> cases field == name <;> simp [same]

/-- A field is looked up wherever it stands if there is no other of its name. -/
theorem lookup_eq_some_iff (distinct : (record.map Prod.fst).Nodup) {field : Text}
    {value : Value} : record.lookup field = some value ↔ (field, value) ∈ record := by
  rw [List.lookup_eq_some_iff]
  constructor
  · rintro ⟨first, second, rfl, -⟩
    simp
  · intro member
    obtain ⟨first, second, rfl⟩ := List.append_of_mem member
    refine ⟨first, second, rfl, fun other inFirst => ?_⟩
    rw [List.map_append, List.nodup_append] at distinct
    have different := distinct.2.2 other.1 (List.mem_map_of_mem inFirst) field (by simp)
    simpa using different.symm

/-- The order of fields does not matter if their names are different. -/
theorem alike_of_perm (permutation : record.Perm record')
    (distinct : (record.map Prod.fst).Nodup) : Alike record record' := by
  intro α decode _ field
  have distinct' := (permutation.map Prod.fst).nodup_iff.1 distinct
  have same : record.lookup field = record'.lookup field := by
    ext value
    rw [lookup_eq_some_iff distinct, lookup_eq_some_iff distinct', permutation.mem_iff]
  rw [same]

/-- Records that are alike give the same in a field that must be there. -/
theorem Alike.required?_eq (alike : Alike record record')
    (ignores : Value.IgnoresSpelling decode) (field : Text) :
    record.required? field decode = record'.required? field decode := by
  have unfolded (record : Record) :
      record.required? field decode = ((record.lookup field).map decode).join := by
    rw [required?]
    cases record.lookup field <;> rfl
  rw [unfolded, unfolded, alike α decode ignores field]

/-- Records that are alike give the same in a field that has a default. -/
theorem Alike.optional?_eq (alike : Alike record record')
    (ignores : Value.IgnoresSpelling decode) (field : Text) (default : α) :
    record.optional? field decode default = record'.optional? field decode default := by
  have unfolded (record : Record) : record.optional? field decode default =
      ((record.lookup field).map decode).getD (some default) := by
    rw [optional?]
    cases record.lookup field <;> rfl
  rw [unfolded, unfolded, alike α decode ignores field]

/-- What is built from alike records in the same way is the same. -/
theorem bind_eq_of_rel {build : Record → Option α}
    (agree : ∀ record record', Alike record record' → build record = build record')
    {given given' : Option Record} (related : Option.Rel Alike given given') :
    given.bind build = given'.bind build := by
  cases related with
  | some alike => exact agree _ _ alike
  | none => rfl

end Record

namespace Value

variable {fields : List Text} {members members' : List (List Part × Value)} {record : Record}

/-- All keys of an object are texts. -/
def AreNamed (members : List (List Part × Value)) : Prop :=
  ∀ member ∈ members, (Part.text? member.1).isSome = true

/-- Each field occurs at most once among the members of an object. -/
def AtMostOnce (fields : List Text) (members : List (List Part × Value)) : Prop :=
  ∀ field ∈ fields, members.countP (fun member => Part.text? member.1 = some field) ≤ 1

/-- The members of an object that are known, with the names of their fields. -/
def known (fields : List Text) (members : List (List Part × Value)) : Record :=
  members.filterMap fun member =>
    ((Part.text? member.1).filter fields.contains).map fun name => (name, member.2)

/-- The keys of an object are read from the first on, and one that is no text spoils them
all. -/
theorem named?_cons (member : List Part × Value) (members : List (List Part × Value)) :
    named? (member :: members) = (Part.text? member.1).bind fun name =>
      (named? members).map ((name, member.2) :: ·) := by
  rw [named?, List.mapM_cons, ← named?]
  cases Part.text? member.1 <;> cases named? members <;> rfl

/-- The keys of an object are read one by one. -/
theorem named?_eq_some_iff : named? members = some record ↔ AreNamed members ∧
    record = members.filterMap fun member =>
      (Part.text? member.1).map fun name => (name, member.2) := by
  induction members generalizing record with
  | nil => exact ⟨fun read => ⟨by simp [AreNamed], (Option.some.inj read).symm⟩,
      fun empty => congrArg some empty.2.symm⟩
  | cons member members ih =>
    rw [named?_cons, AreNamed, List.forall_mem_cons, ← AreNamed]
    cases read : Part.text? member.1 with
    | none => simp
    | some name =>
      simp only [Option.bind_some, Option.map_eq_some_iff, ih, Option.isSome_some, true_and]
      rw [List.filterMap_cons_some (by rw [read]; rfl)]
      constructor
      · rintro ⟨_, ⟨areNamed, rfl⟩, rfl⟩
        exact ⟨areNamed, rfl⟩
      · rintro ⟨areNamed, rfl⟩
        exact ⟨_, ⟨areNamed, rfl⟩, rfl⟩

/-- How often a name occurs among the known members. -/
theorem count_map_fst_known (fields : List Text) (members : List (List Part × Value))
    (name : Text) : ((known fields members).map Prod.fst).count name =
      if name ∈ fields then
        members.countP fun member => Part.text? member.1 = some name else 0 := by
  have names : (known fields members).map Prod.fst =
      members.filterMap fun member => (Part.text? member.1).filter fields.contains := by
    rw [known, List.map_filterMap]
    congr 1
    funext member
    cases (Part.text? member.1).filter fields.contains <;> rfl
  rw [names, List.count_filterMap]
  split
  · next isField => simp [Option.filter_eq_some_iff, isField, beq_eq_decide]
  · next noField => simp [Option.filter_eq_some_iff, noField]

/-- The names of the known members are different if no field occurs twice. -/
theorem nodup_known_iff :
    ((known fields members).map Prod.fst).Nodup ↔ AtMostOnce fields members := by
  rw [List.nodup_iff_count]
  constructor
  · intro once field isField
    have counted := once field
    rwa [count_map_fst_known, if_pos isField] at counted
  · intro once name
    rw [count_map_fst_known]
    split
    · next isField => exact once name isField
    · exact Nat.zero_le 1

/-- An object gives its known members if all keys are texts and no field occurs twice. -/
theorem record?_object_eq_some_iff : (object members).record? fields = some record ↔
    AreNamed members ∧ AtMostOnce fields members ∧ record = known fields members := by
  have onlyKnown : (members.filterMap fun member =>
      (Part.text? member.1).map fun name => (name, member.2)).filter (·.1 ∈ fields) =
        known fields members := by
    rw [List.filter_filterMap, known]
    congr 1
    funext member
    cases read : Part.text? member.1 with
    | none => rfl
    | some name => by_cases isField : name ∈ fields <;> simp [Option.filter, isField]
  rw [record?, Option.bind_eq_bind, Option.bind_eq_some_iff, ← nodup_known_iff]
  constructor
  · rintro ⟨all, named, given⟩
    obtain ⟨areNamed, rfl⟩ := named?_eq_some_iff.1 named
    rw [onlyKnown] at given
    obtain ⟨distinct, same⟩ := Option.ite_none_right_eq_some.1 given
    exact ⟨areNamed, distinct, (Option.some.inj same).symm⟩
  · rintro ⟨areNamed, distinct, rfl⟩
    refine ⟨_, named?_eq_some_iff.2 ⟨areNamed, rfl⟩, ?_⟩
    rw [onlyKnown, if_pos distinct]

/-- An object gives no record if a key of it is no text or a known field stands twice in it. -/
theorem record?_object_eq_none_iff : (object members).record? fields = none ↔
    ¬ (AreNamed members ∧ AtMostOnce fields members) := by
  simp only [Option.eq_none_iff_forall_ne_some, ne_eq, record?_object_eq_some_iff]
  exact ⟨fun no ⟨areNamed, once⟩ => no _ ⟨areNamed, once, rfl⟩,
    fun no _ ⟨areNamed, once, _⟩ => no ⟨areNamed, once⟩⟩

/-- Objects give records that are alike if their known members are. -/
theorem rel_record?_object (named : AreNamed members ↔ AreNamed members')
    (once : AtMostOnce fields members ↔ AtMostOnce fields members')
    (alike : AtMostOnce fields members →
      Record.Alike (known fields members) (known fields members')) :
    Option.Rel Record.Alike ((object members).record? fields)
      ((object members').record? fields) := by
  by_cases given : AreNamed members ∧ AtMostOnce fields members
  · rw [record?_object_eq_some_iff.2 ⟨given.1, given.2, rfl⟩,
      record?_object_eq_some_iff.2 ⟨named.1 given.1, once.1 given.2, rfl⟩]
    exact .some (alike given.2)
  · rw [record?_object_eq_none_iff.2 given,
      record?_object_eq_none_iff.2 (by rwa [← named, ← once])]
    exact .none

/-- The known members stay in order. -/
theorem known_append (fields : List Text) (first second : List (List Part × Value)) :
    known fields (first ++ second) = known fields first ++ known fields second :=
  List.filterMap_append

/-- Keys are texts in the whole if they are in both parts. -/
theorem areNamed_append_iff {first second : List (List Part × Value)} :
    AreNamed (first ++ second) ↔ AreNamed first ∧ AreNamed second :=
  List.forall_mem_append

/-- Whether a field stands twice shows in the names of the known members. -/
theorem atMostOnce_congr
    (same : (known fields members).map Prod.fst = (known fields members').map Prod.fst) :
    AtMostOnce fields members ↔ AtMostOnce fields members' := by
  rw [← nodup_known_iff, ← nodup_known_iff, same]

/-- Objects with the same known members give the same. -/
theorem rel_record?_of_known_eq (named : AreNamed members ↔ AreNamed members')
    (same : known fields members = known fields members') :
    Option.Rel Record.Alike ((object members).record? fields)
      ((object members').record? fields) := by
  refine rel_record?_object named (atMostOnce_congr (by rw [same])) fun _ => ?_
  rw [same]
  exact .refl _

/-- What an object gives does not depend on the order of its members. -/
theorem rel_record?_of_perm (permutation : members.Perm members') :
    Option.Rel Record.Alike ((object members).record? fields)
      ((object members').record? fields) := by
  have knownPermutation : (known fields members).Perm (known fields members') :=
    permutation.filterMap _
  refine rel_record?_object ?_ ?_ fun once => ?_
  · exact forall_congr' fun member => by rw [permutation.mem_iff]
  · rw [← nodup_known_iff, ← nodup_known_iff, (knownPermutation.map Prod.fst).nodup_iff]
  · exact Record.alike_of_perm knownPermutation (nodup_known_iff.2 once)

/-- A member whose name is no field gives nothing. -/
theorem rel_record?_of_unknown {key : List Part} {name : Text} (named : Part.text? key = some name)
    (unknown : name ∉ fields) (before after : List (List Part × Value)) (value : Value) :
    Option.Rel Record.Alike ((object (before ++ after)).record? fields)
      ((object (before ++ (key, value) :: after)).record? fields) := by
  have nothing : known fields [(key, value)] = [] := by simp [known, named, unknown]
  have same : known fields (before ++ (key, value) :: after) = known fields (before ++ after) := by
    rw [List.append_cons, known_append, known_append, nothing, List.append_nil, known_append]
  have areNamed : AreNamed (before ++ after) ↔ AreNamed (before ++ (key, value) :: after) := by
    rw [areNamed_append_iff, areNamed_append_iff]
    simp [AreNamed, named]
  exact rel_record?_of_known_eq areNamed same.symm

/-- A key that is spelt in another way stands for the same field. -/
theorem rel_record?_of_key {key key' : List Part} (same : Part.text? key = Part.text? key')
    (before after : List (List Part × Value)) (value : Value) :
    Option.Rel Record.Alike ((object (before ++ (key, value) :: after)).record? fields)
      ((object (before ++ (key', value) :: after)).record? fields) := by
  have sameKnown : known fields (before ++ (key, value) :: after) =
      known fields (before ++ (key', value) :: after) := by
    simp only [known, List.filterMap_append, List.filterMap_cons, same]
  refine rel_record?_of_known_eq ?_ sameKnown
  simp only [AreNamed, List.forall_mem_append, List.forall_mem_cons, same]

/-- A value that is spelt in another way is given to the same field. -/
theorem rel_record?_of_member {value value' : Value} (respelled : value.Respelled value')
    (before after : List (List Part × Value)) (key : List Part) :
    Option.Rel Record.Alike ((object (before ++ (key, value) :: after)).record? fields)
      ((object (before ++ (key, value') :: after)).record? fields) := by
  have named : AreNamed (before ++ (key, value) :: after) ↔
      AreNamed (before ++ (key, value') :: after) := by
    simp only [AreNamed, List.forall_mem_append, List.forall_mem_cons]
  cases single : (Part.text? key).filter fields.contains with
  | none =>
    have same : known fields (before ++ (key, value) :: after) =
        known fields (before ++ (key, value') :: after) := by
      simp only [known, List.filterMap_append, List.filterMap_cons, single, Option.map_none]
    exact rel_record?_of_known_eq named same
  | some name =>
    have one (value : Value) : known fields (before ++ (key, value) :: after) =
        known fields before ++ (name, value) :: known fields after := by
      simp only [known, List.filterMap_append, List.filterMap_cons, single, Option.map_some]
    refine rel_record?_object named (atMostOnce_congr ?_) fun _ => ?_
    · simp [one]
    · rw [one, one]
      exact Record.alike_of_respelled _ _ name respelled

/-- An element that is spelt in another way is given to the same field. -/
theorem rel_record?_of_element {value value' : Value} (respelled : value.Respelled value')
    (before after : List Value) :
    Option.Rel Record.Alike ((array (before ++ value :: after)).record? fields)
      ((array (before ++ value' :: after)).record? fields) := by
  have sameLength : (before ++ value :: after).length = (before ++ value' :: after).length := by
    simp
  rw [record?, record?, ← sameLength]
  split
  · next fits =>
    rw [List.length_append, List.length_cons] at fits
    obtain ⟨first, name, rest, rfl, sameStart⟩ : ∃ first name rest,
        fields = first ++ name :: rest ∧ first.length = before.length := by
      refine ⟨fields.take before.length, fields[before.length], fields.drop (before.length + 1),
        by simp, ?_⟩
      rw [List.length_take]
      omega
    rw [List.zip_append sameStart, List.zip_append sameStart]
    exact .some (Record.alike_of_respelled _ _ name respelled)
  · exact .none

/-- Rearranged values give records that are alike, or none. -/
theorem rel_record?_of_rearranged {value value' : Value}
    (rearranged : Rearranged fields value value') :
    Option.Rel Record.Alike (value.record? fields) (value'.record? fields) := by
  cases rearranged with
  | permuted permutation => exact rel_record?_of_perm permutation
  | extended before after value named unknown =>
    exact rel_record?_of_unknown named unknown before after value
  | respelled respelled =>
    cases respelled with
    | string => exact .none
    | element before after respelled => exact rel_record?_of_element respelled before after
    | key before after value same => exact rel_record?_of_key same before after value
    | member before after key respelled => exact rel_record?_of_member respelled before after key

/-- What is built from records without regard to spelling is the same after any number of
changes that a reader of the fields does not see. -/
theorem eq_of_rearranged {α : Type} {decode : Value → Option α} {build : Record → Option α}
    (through : ∀ value, decode value = (value.record? fields).bind build)
    (agree : ∀ record record', Record.Alike record record' → build record = build record')
    {value value' : Value} (rearranged : Relation.EqvGen (Rearranged fields) value value') :
    decode value = decode value' := by
  have step (value value' : Value) (rearranged : Rearranged fields value value') :
      decode value = decode value' := by
    rw [through, through]
    exact Record.bind_eq_of_rel agree (rel_record?_of_rearranged rearranged)
  exact congrArg (Quot.lift decode step) (Quot.eqvGen_sound rearranged)

/-- The known members when every member is named after a field. -/
theorem known_eq_zip {names : List Text} (areFields : ∀ name ∈ names, name ∈ fields)
    (named : members.map (fun member => Part.text? member.1) = names.map some) :
    known fields members = names.zip (members.map Prod.snd) := by
  induction members generalizing names with
  | nil => simp [known]
  | cons member members ih =>
    cases names with
    | nil => cases named
    | cons name names =>
      obtain ⟨isField, others⟩ := List.forall_mem_cons.1 areFields
      obtain ⟨read, onward⟩ := List.cons.inj named
      rw [← List.singleton_append, known_append, ih others onward]
      simp [known, read, Option.filter, isField]

/-- An array of the first fields gives the same as the object with just these members. -/
theorem record?_array (distinct : fields.Nodup)
    (named : members.map (fun member => Part.text? member.1) =
      (fields.take members.length).map some) :
    (array (members.map Prod.snd)).record? fields = (object members).record? fields := by
  have fits : members.length ≤ fields.length := by
    have sameLength := congrArg List.length named
    rw [List.length_map, List.length_map, List.length_take] at sameLength
    omega
  have given : known fields members =
      (fields.take members.length).zip (members.map Prod.snd) :=
    known_eq_zip (fun name member => List.mem_of_mem_take member) named
  have zipped : fields.zip (members.map Prod.snd) = known fields members := by
    have all : (members.map Prod.snd).take members.length = members.map Prod.snd :=
      List.take_of_length_le (by simp)
    rw [given, List.zip_eq_zip_take_min, List.length_map, Nat.min_eq_right fits, all]
  have areNamed : AreNamed members := by
    intro member isMember
    have read : Part.text? member.1 ∈ (fields.take members.length).map some :=
      named ▸ List.mem_map_of_mem isMember
    obtain ⟨name, -, same⟩ := List.mem_map.1 read
    rw [← same, Option.isSome_some]
  have once : AtMostOnce fields members := by
    have covered : (fields.take members.length).length ≤ (members.map Prod.snd).length := by
      rw [List.length_take, List.length_map]
      exact Nat.min_le_left _ _
    rw [← nodup_known_iff, given, List.map_fst_zip covered]
    exact distinct.sublist (List.take_sublist _ _)
  rw [record?_object_eq_some_iff.2 ⟨areNamed, once, zipped⟩, record?, List.length_map,
    if_pos fits]

/-- A member gives the field this value. -/
def Gives {α : Type} (members : List (List Part × Value)) (field : Text)
    (decode : Value → Option α) (a : α) : Prop :=
  ∃ key value, (key, value) ∈ members ∧ Part.text? key = some field ∧ decode value = some a

/-- No member is named after the field. -/
def Misses (members : List (List Part × Value)) (field : Text) : Prop :=
  ∀ member ∈ members, Part.text? member.1 ≠ some field

/-- The known members are those under a key that is read as the name of a field. -/
theorem mem_known_iff {field : Text} {value : Value} : (field, value) ∈ known fields members ↔
    field ∈ fields ∧ ∃ key, (key, value) ∈ members ∧ Part.text? key = some field := by
  simp only [known, List.mem_filterMap, Option.map_eq_some_iff, Option.filter_eq_some_iff,
    List.contains_iff_mem, Prod.mk.injEq]
  constructor
  · rintro ⟨⟨key, _⟩, member, _, ⟨named, isField⟩, rfl, rfl⟩
    exact ⟨isField, key, member, named⟩
  · rintro ⟨isField, key, member, named⟩
    exact ⟨(key, value), member, field, ⟨named, isField⟩, rfl, rfl⟩

section Known

variable {α : Type} {decode : Value → Option α} {a : α} {field : Text} (isField : field ∈ fields)
include isField

/-- A field has no value exactly if no member is named after it. -/
theorem lookup_known_eq_none_iff : (known fields members).lookup field = none ↔
    Misses members field := by
  have absent : (known fields members).lookup field = none ↔
      ∀ value, (field, value) ∉ known fields members := by
    rw [List.lookup_eq_none_iff]
    constructor
    · intro others value member
      simpa using others _ member
    · intro no entry member
      rw [bne_iff_ne]
      rintro rfl
      exact no entry.2 member
  simp only [absent, mem_known_iff, isField, true_and, not_exists, not_and]
  exact ⟨fun no member isMember => no member.2 member.1 isMember,
    fun misses value key isMember => misses (key, value) isMember⟩

variable (once : AtMostOnce fields members)
include once

/-- A field that must be given is given by its member. -/
theorem required?_known_iff :
    (known fields members).required? field decode = some a ↔ Gives members field decode a := by
  simp only [Record.required?, Option.bind_eq_some_iff,
    Record.lookup_eq_some_iff (nodup_known_iff.2 once), mem_known_iff, isField, true_and]
  constructor
  · rintro ⟨value, ⟨key, member, named⟩, decoded⟩
    exact ⟨key, value, member, named, decoded⟩
  · rintro ⟨key, value, member, named, decoded⟩
    exact ⟨value, ⟨key, member, named⟩, decoded⟩

/-- A field that may be missing is given by its member, or else has its default. -/
theorem optional?_known_iff {default : α} :
    (known fields members).optional? field decode default = some a ↔
      Gives members field decode a ∨ Misses members field ∧ a = default := by
  have gives : ((known fields members).lookup field).bind decode = some a ↔
      Gives members field decode a := required?_known_iff isField once
  rw [← gives, ← lookup_known_eq_none_iff isField, Record.optional?]
  cases (known fields members).lookup field <;> simp [eq_comm]

end Known

end Value
end Stencil.Json
