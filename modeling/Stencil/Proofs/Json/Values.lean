import Stencil.Proofs.Json.Tokens

/-!
# Texts of values

A value has its tokens, with a comma between each element or member and the next. What a reader
still `Demands` of the tokens to come is written down for each of its states: the rest of the
container that it is in, and then the rest of every container around that one. Main statements:
the reader finds a value in tokens exactly if they are the tokens of the value
(`ofTokens?_eq_some_iff`), and in octets exactly if the value is written with them
(`ofOctets?_eq_some_iff`).
-/

namespace Stencil.Json.Value

mutual

/-- The tokens of a value. -/
def tokens : Value → List Token
  | .null => [.null]
  | .bool value => [.bool value]
  | .number literal => [.number literal]
  | .string parts => [.string parts]
  | .array elements => .openArray :: (elementTokens elements ++ [.closeArray])
  | .object members => .openObject :: (memberTokens members ++ [.closeObject])

/-- The tokens of elements, with a comma between each and the next. -/
def elementTokens : List Value → List Token
  | [] => []
  | first :: rest => first.tokens ++ furtherElements rest

/-- The tokens of elements that others come before. -/
def furtherElements : List Value → List Token
  | [] => []
  | next :: rest => .comma :: (next.tokens ++ furtherElements rest)

/-- The tokens of members, with a comma between each and the next. -/
def memberTokens : List (List Part × Value) → List Token
  | [] => []
  | (key, first) :: rest => .string key :: .colon :: (first.tokens ++ furtherMembers rest)

/-- The tokens of members that others come before. -/
def furtherMembers : List (List Part × Value) → List Token
  | [] => []
  | (key, next) :: rest => .comma :: .string key :: .colon :: (next.tokens ++ furtherMembers rest)

end

/-- The octets that a value can be written with. -/
def IsWritten (value : Value) (octets : List UInt8) : Prop :=
  Token.AreWritten value.tokens octets

namespace Reader

variable {stack : List Frame} {reader : Reader} {token : Token} {tokens : List Token}
  {value whole : Value}

/-- The tokens close the containers that wait for the value, and the outermost one is the whole
value then. -/
def Closes (value : Value) : List Frame → List Token → Value → Prop
  | [], tokens, whole => tokens = [] ∧ whole = value
  | .array before :: stack, tokens, whole => ∃ more rest,
      tokens = furtherElements more ++ .closeArray :: rest ∧
        Closes (.array (before.reverse ++ value :: more)) stack rest whole
  | .object before key :: stack, tokens, whole => ∃ more rest,
      tokens = furtherMembers more ++ .closeObject :: rest ∧
        Closes (.object (before.reverse ++ (key, value) :: more)) stack rest whole

/-- The tokens to come with which the reader has the whole value. -/
def Demands (reader : Reader) (tokens : List Token) (whole : Value) : Prop :=
  match reader.phase with
  | .value => ∃ value rest, tokens = value.tokens ++ rest ∧ Closes value reader.stack rest whole
  | .element => ∃ elements rest, tokens = elementTokens elements ++ .closeArray :: rest ∧
      Closes (.array elements) reader.stack rest whole
  | .key before =>
      (before = [] ∧ ∃ rest, tokens = .closeObject :: rest ∧
        Closes (.object []) reader.stack rest whole) ∨
      ∃ key value rest, tokens = .string key :: .colon :: (value.tokens ++ rest) ∧
        Closes value (.object before key :: reader.stack) rest whole
  | .colon before key => ∃ value rest, tokens = .colon :: (value.tokens ++ rest) ∧
      Closes value (.object before key :: reader.stack) rest whole
  | .afterElement before => ∃ more rest, tokens = furtherElements more ++ .closeArray :: rest ∧
      Closes (.array (before.reverse ++ more)) reader.stack rest whole
  | .afterMember before => ∃ more rest, tokens = furtherMembers more ++ .closeObject :: rest ∧
      Closes (.object (before.reverse ++ more)) reader.stack rest whole
  | .done value => tokens = [] ∧ whole = value

/-- Behind a value comes what closes the containers that wait for it. -/
theorem demands_place : Demands (place value stack) tokens whole ↔
    Closes value stack tokens whole := by
  cases stack with
  | nil => rfl
  | cons frame stack => cases frame <;> simp [place, Demands, Closes]

/-- What an array demands at its start is its end or a first element. -/
theorem demands_element_iff : Demands { stack, phase := .element } tokens whole ↔
    (∃ rest, tokens = .closeArray :: rest ∧ Closes (.array []) stack rest whole) ∨
      Demands { stack := .array [] :: stack } tokens whole := by
  constructor
  · rintro ⟨_ | ⟨first, more⟩, rest, rfl, closes⟩
    · exact .inl ⟨rest, rfl, closes⟩
    · exact .inr ⟨first, _, by rw [elementTokens, List.append_assoc], more, rest, rfl, closes⟩
  · rintro (⟨rest, rfl, closes⟩ | ⟨first, _, rfl, more, rest, rfl, closes⟩)
    · exact ⟨[], rest, rfl, closes⟩
    · exact ⟨first :: more, rest, by rw [elementTokens, List.append_assoc], closes⟩

/-- Where a value is demanded, the next token starts one. -/
theorem demands_value_cons_iff : Demands { stack } (token :: tokens) whole ↔
    ∃ after, start stack token = some after ∧ Demands after tokens whole := by
  constructor
  · rintro ⟨value, rest, same, closes⟩
    cases value with
    | null | bool | number | string =>
      obtain ⟨rfl, rfl⟩ := List.cons.inj same
      exact ⟨_, rfl, demands_place.2 closes⟩
    | array elements =>
      obtain ⟨rfl, rfl⟩ := List.cons.inj same
      exact ⟨_, rfl, elements, rest, by simp, closes⟩
    | object members =>
      obtain ⟨rfl, rfl⟩ := List.cons.inj same
      refine ⟨_, rfl, ?_⟩
      cases members with
      | nil => exact .inl ⟨rfl, rest, rfl, closes⟩
      | cons member more =>
        exact .inr ⟨member.1, member.2, _, by simp [memberTokens], more, rest, rfl, closes⟩
  · rintro ⟨after, started, demands⟩
    cases token with
    | null | bool | number | string =>
      cases started
      exact ⟨_, tokens, rfl, demands_place.1 demands⟩
    | openArray =>
      cases started
      obtain ⟨elements, rest, rfl, closes⟩ := demands
      exact ⟨.array elements, rest, by simp [Value.tokens], closes⟩
    | openObject =>
      cases started
      rcases demands with ⟨-, rest, rfl, closes⟩ | ⟨key, value, _, rfl, more, rest, rfl, closes⟩
      · exact ⟨.object [], rest, rfl, closes⟩
      · exact ⟨.object ((key, value) :: more), rest, by simp [Value.tokens, memberTokens], closes⟩
    | closeObject | closeArray | colon | comma => cases started

/-- A value has a token. -/
theorem tokens_ne_nil (value : Value) : value.tokens ≠ [] := by
  cases value <;> exact List.cons_ne_nil _ _

/-- Nothing is demanded exactly of a reader that has a value. -/
theorem demands_nil_iff : Demands reader [] whole ↔ finish reader = some whole := by
  obtain ⟨stack, phase⟩ := reader
  cases phase <;> simp [Demands, finish, tokens_ne_nil, @eq_comm _ whole]

/-- A container is only continued behind something that it holds. -/
@[simp] theorem place_phase_ne : (place value stack).phase ≠ .afterMember [] := by
  cases stack with
  | nil => simp [place]
  | cons frame stack => cases frame <;> simp [place]

/-- A reader that has just started on a value waits behind no member of an empty object. -/
theorem start_phase_ne {after : Reader} (started : start stack token = some after) :
    after.phase ≠ .afterMember [] := by
  cases token <;> cases started <;> simp

/-- No token leads to that state. -/
theorem feed_phase_ne {after : Reader} (fed : feed reader token = some after) :
    after.phase ≠ .afterMember [] := by
  unfold feed at fed
  split at fed
  case h_1 | h_3 => exact start_phase_ne fed
  all_goals cases fed <;> simp

/-- A string where a key is due is the key. -/
theorem feed_key_string (before : List (List Part × Value)) (key : List Part) :
    feed { stack, phase := .key before } (.string key) =
      some { stack, phase := .colon before key } := by
  cases before <;> rfl

/-- What is demanded of the next token is that it can be read, and of the others what the reader
demands behind it. -/
theorem demands_cons_iff (sound : reader.phase ≠ .afterMember []) :
    Demands reader (token :: tokens) whole ↔
      ∃ after, feed reader token = some after ∧ Demands after tokens whole := by
  obtain ⟨stack, phase⟩ := reader
  cases phase with
  | value => exact demands_value_cons_iff
  | element =>
    rw [demands_element_iff, demands_value_cons_iff]
    -- An array may end here and not behind a comma, where an element is due.
    by_cases ends : token = .closeArray
    · subst ends
      simp [feed, start, demands_place]
    · have step : feed { stack, phase := .element } token = start (.array [] :: stack) token := by
        cases token with
        | closeArray => exact absurd rfl ends
        | _ => rfl
      simp [step, ends]
  | key before =>
    constructor
    · rintro (⟨rfl, rest, same, closes⟩ | ⟨key, value, rest, same, closes⟩)
      · obtain ⟨rfl, rfl⟩ := List.cons.inj same
        exact ⟨_, rfl, demands_place.2 closes⟩
      · obtain ⟨rfl, rfl⟩ := List.cons.inj same
        exact ⟨_, feed_key_string before key, value, rest, rfl, closes⟩
    · rintro ⟨after, fed, demands⟩
      cases token with
      | string key =>
        cases (feed_key_string before key).symm.trans fed
        obtain ⟨value, rest, rfl, closes⟩ := demands
        exact .inr ⟨key, value, rest, rfl, closes⟩
      | closeObject =>
        cases before with
        | nil =>
          cases fed
          exact .inl ⟨rfl, tokens, rfl, demands_place.1 demands⟩
        | cons => cases fed
      | null | bool | number | openArray | closeArray | openObject | colon | comma =>
        cases before <;> cases fed
  | colon before key =>
    constructor
    · rintro ⟨value, rest, same, closes⟩
      obtain ⟨rfl, rfl⟩ := List.cons.inj same
      exact ⟨_, rfl, value, rest, rfl, closes⟩
    · rintro ⟨after, fed, demands⟩
      cases token with
      | colon =>
        cases fed
        obtain ⟨value, rest, rfl, closes⟩ := demands
        exact ⟨value, rest, rfl, closes⟩
      | _ => cases fed
  | afterElement before =>
    constructor
    · rintro ⟨_ | ⟨next, more⟩, rest, same, closes⟩
      · obtain ⟨rfl, rfl⟩ := List.cons.inj same
        exact ⟨_, rfl, demands_place.2 (by simpa using closes)⟩
      · obtain ⟨rfl, rfl⟩ := List.cons.inj same
        exact ⟨_, rfl, next, _, List.append_assoc _ _ _, more, rest, rfl, closes⟩
    · rintro ⟨after, fed, demands⟩
      cases token with
      | comma =>
        cases fed
        obtain ⟨next, _, rfl, more, rest, rfl, closes⟩ := demands
        exact ⟨next :: more, rest, by simp [furtherElements], closes⟩
      | closeArray =>
        cases fed
        exact ⟨[], tokens, rfl, by simpa using demands_place.1 demands⟩
      | _ => cases fed
  | afterMember before =>
    constructor
    · rintro ⟨_ | ⟨⟨key, next⟩, more⟩, rest, same, closes⟩
      · obtain ⟨rfl, rfl⟩ := List.cons.inj same
        exact ⟨_, rfl, demands_place.2 (by simpa using closes)⟩
      · obtain ⟨rfl, rfl⟩ := List.cons.inj same
        exact ⟨_, rfl, .inr ⟨key, next, _, by simp, more, rest, rfl, closes⟩⟩
    · rintro ⟨after, fed, demands⟩
      cases token with
      | comma =>
        cases fed
        rcases demands with ⟨rfl, -⟩ | ⟨key, next, _, rfl, more, rest, rfl, closes⟩
        · exact absurd rfl sound
        · exact ⟨(key, next) :: more, rest, by simp [furtherMembers], closes⟩
      | closeObject =>
        cases fed
        exact ⟨[], tokens, rfl, by simpa using demands_place.1 demands⟩
      | _ => cases fed
  | done value => simp [Demands, feed]

/-- The reader has a value exactly behind the tokens that it demands for it. -/
theorem foldlM_feed_bind_finish_iff (sound : reader.phase ≠ .afterMember []) :
    (tokens.foldlM feed reader).bind finish = some whole ↔ Demands reader tokens whole := by
  induction tokens generalizing reader with
  | nil => exact demands_nil_iff.symm
  | cons token tokens ih =>
    rw [demands_cons_iff sound, List.foldlM_cons]
    cases fed : feed reader token with
    | none => simp
    | some after => simpa using ih (feed_phase_ne fed)

end Reader

/-- The value found in tokens is the one that they are the tokens of. -/
theorem ofTokens?_eq_some_iff {tokens : List Token} {value : Value} :
    ofTokens? tokens = some value ↔ value.tokens = tokens := by
  have initial : ({} : Reader).phase ≠ .afterMember [] := by simp
  rw [ofTokens?, Reader.foldlM_feed_bind_finish_iff initial]
  constructor
  · rintro ⟨found, _, rfl, rfl, rfl⟩
    exact (List.append_nil _).symm
  · rintro rfl
    exact ⟨value, [], (List.append_nil _).symm, rfl, rfl⟩

/-- The value found in octets is the one that they are written for. -/
theorem ofOctets?_eq_some_iff {octets : List UInt8} {value : Value} :
    ofOctets? octets = some value ↔ value.IsWritten octets := by
  simp only [ofOctets?, Option.bind_eq_some_iff, ofTokens?_eq_some_iff,
    Token.ofOctets?_eq_some_iff, IsWritten, exists_eq_right']

end Stencil.Json.Value
