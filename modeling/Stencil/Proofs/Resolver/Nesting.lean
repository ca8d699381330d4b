import Stencil.Proofs.Resolver.Returns
import Stencil.Proofs.Resolver.Settled
import Stencil.Proofs.Template.Depth

/-!
# Nested templates

Where no value of a variable holds a brace, a text that replaces an expression can
complete an expression around it, and only there. So an expression that is replaced
in a pass stands around one that was replaced in the pass before, one level further
up (`ensures_hasUnsettled_pass`). A template whose braces are not nested deeper than there
are passes is settled after them. Main statement: `resolve_settles`.
-/

namespace Stencil

/-- What a pass can make of pieces when no value holds a brace: an expression that does
not stand for itself gives way to some text without braces, and all else stays. -/
inductive Replaced (vars : Variables) : List Piece → Text → Prop
  | nil : Replaced vars [] []
  | char {c rest others} (after : Replaced vars rest others) :
      Replaced vars (.char c :: rest) (c :: others)
  | verbatim {expression rest others} (wellFormed : expression.IsWellFormed)
      (stays : expression.meaning vars = .verbatim) (after : Replaced vars rest others) :
      Replaced vars (.expression expression :: rest) (expression.text ++ others)
  | value {expression rest value others} (wellFormed : expression.IsWellFormed)
      (goes : expression.meaning vars ≠ .verbatim) (free : Text.IsBraceFree value)
      (after : Replaced vars rest others) :
      Replaced vars (.expression expression :: rest) (value ++ others)

namespace Replaced

variable {vars : Variables} {found : List Piece}

/-- The level behind pieces is the level behind what a pass makes of them. -/
theorem levelAfter_eq {text : Text} (replaced : Replaced vars found text) (level : Nat) :
    Text.levelAfter level (found.flatMap Piece.text) = Text.levelAfter level text := by
  induction replaced generalizing level with
  | nil => rfl
  | char _ ih => simp [Piece.text, ih]
  | verbatim _ _ _ ih => simp [Piece.text, ih]
  | value wellFormed _ free _ ih =>
    simp [Piece.text, ih, wellFormed.levelAfter_text, Text.levelAfter_of_isBraceFree free]

/-- The first brace of the new text, if it closes, was there before: an expression that
stays would have brought an opening brace first. -/
theorem exists_closing {body after : Text} (free : Text.IsBraceFree body)
    (replaced : Replaced vars found (body ++ '}' :: after)) :
    ∃ inner rest, found = inner ++ .char '}' :: rest ∧ Replaced vars inner body := by
  generalize whole : body ++ '}' :: after = text at replaced
  induction replaced generalizing body with
  | nil => simp at whole
  | char _ ih =>
    cases body with
    | nil =>
      obtain ⟨rfl, -⟩ := List.cons.inj whole
      exact ⟨[], _, rfl, .nil⟩
    | cons c body =>
      obtain ⟨rfl, onward⟩ := List.cons.inj whole
      obtain ⟨inner, rest, rfl, replaced⟩ := ih (Text.isBraceFree_cons.1 free).2 onward
      exact ⟨_ :: inner, rest, rfl, .char replaced⟩
  | verbatim =>
    cases body with
    | nil => simp [Expression.text] at whole
    | cons c body =>
      obtain ⟨rfl, -⟩ := List.cons.inj whole
      exact absurd rfl (Text.isBraceFree_cons.1 free).1.1
  | value wellFormed goes valueFree _ ih =>
    have absent := (Text.isBraceFree_iff_not_mem.1 valueFree).2
    obtain ⟨between, rfl, onward⟩ := Text.exists_of_append_eq absent whole.symm
    obtain ⟨inner, rest, rfl, replaced⟩ := ih (Text.isBraceFree_append.1 free).2 onward.symm
    exact ⟨_ :: inner, rest, rfl, .value wellFormed goes valueFree replaced⟩

/-- An expression of the new text that does not stand for itself was not there before,
but its braces were. -/
theorem exists_braces {before after : Text} {expression : Expression}
    (wellFormed : expression.IsWellFormed) (goes : expression.meaning vars ≠ .verbatim)
    (replaced : Replaced vars found (before ++ (expression.text ++ after))) :
    ∃ front inner rest, found = front ++ .char '{' :: (inner ++ .char '}' :: rest) ∧
      Replaced vars front before ∧ Replaced vars inner expression.body := by
  generalize whole : before ++ (expression.text ++ after) = text at replaced
  have opened : expression.text ++ after = '{' :: (expression.body ++ '}' :: after) := by
    simp [Expression.text]
  induction replaced generalizing before with
  | nil => simp [opened] at whole
  | char inside ih =>
    cases before with
    | nil =>
      rw [List.nil_append, opened] at whole
      obtain ⟨rfl, rfl⟩ := List.cons.inj whole
      obtain ⟨inner, rest, rfl, replaced⟩ := inside.exists_closing wellFormed.isBraceFree_body
      exact ⟨[], inner, rest, rfl, .nil, replaced⟩
    | cons c before =>
      obtain ⟨rfl, onward⟩ := List.cons.inj whole
      obtain ⟨front, inner, rest, rfl, frontReplaced, replaced⟩ := ih onward
      exact ⟨_ :: front, inner, rest, rfl, .char frontReplaced, replaced⟩
  | @verbatim other _ others otherWellFormed stays _ ih =>
    cases before with
    | nil =>
      -- Read as pieces, a text starts with one expression only, and this one stays.
      have read := congrArg Template.pieces whole
      rw [List.nil_append, Template.pieces_text_append wellFormed,
        Template.pieces_text_append otherWellFormed] at read
      obtain ⟨same, -⟩ := List.cons.inj read
      cases same
      exact absurd stays goes
    | cons c before =>
      have absent : '{' ∉ other.body ++ ['}'] := by simp [otherWellFormed.noOpening]
      rw [opened] at whole
      obtain ⟨rfl, behind⟩ := List.cons.inj whole
      obtain ⟨between, rfl, onward⟩ := Text.exists_of_append_eq absent behind.symm
      rw [← opened] at onward
      obtain ⟨front, inner, rest, rfl, frontReplaced, replaced⟩ := ih onward.symm
      refine ⟨_ :: front, inner, rest, rfl, ?_, replaced⟩
      exact .verbatim otherWellFormed stays frontReplaced
  | value otherWellFormed otherGoes free _ ih =>
    -- A value holds no opening brace, so the expression starts behind it.
    rw [opened] at whole
    have absent := (Text.isBraceFree_iff_not_mem.1 free).1
    obtain ⟨between, rfl, onward⟩ := Text.exists_of_append_eq absent whole.symm
    rw [← opened] at onward
    obtain ⟨front, inner, rest, rfl, frontReplaced, replaced⟩ := ih onward.symm
    refine ⟨_ :: front, inner, rest, rfl, ?_, replaced⟩
    exact .value otherWellFormed otherGoes free frontReplaced

/-- A new text without braces consists of the same characters as before, or some
expression gave way in it. -/
theorem eq_map_char_or_exists {body : Text} (free : Text.IsBraceFree body)
    (replaced : Replaced vars found body) :
    found = body.map Piece.char ∨
      ∃ front expression rest before, found = front ++ .expression expression :: rest ∧
        expression.IsWellFormed ∧ expression.meaning vars ≠ .verbatim ∧
        Replaced vars front before ∧ Text.IsBraceFree before := by
  induction replaced with
  | nil => exact .inl rfl
  | @char c _ _ _ ih =>
    rw [Text.isBraceFree_cons] at free
    obtain rfl | ⟨front, expression, rest, before, parts, wellFormed, goes, replaced, beforeFree⟩ :=
      ih free.2
    · exact .inl rfl
    · exact .inr ⟨.char c :: front, expression, rest, c :: before, by rw [parts]; rfl, wellFormed,
        goes, .char replaced, Text.isBraceFree_cons.2 ⟨free.1, beforeFree⟩⟩
  | verbatim =>
    simp [Expression.text] at free
  | value wellFormed goes =>
    exact .inr ⟨[], _, _, [], rfl, wellFormed, goes, .nil, Text.isBraceFree_nil⟩

end Replaced

namespace Template

/-- Two cuts of the same pieces behind the same text are the same cut. -/
theorem eq_of_cuts_eq {front other rest beyond : List Piece} {piece next : Piece}
    (sameText : front.flatMap Piece.text = other.flatMap Piece.text)
    (same : front ++ piece :: rest = other ++ next :: beyond) : piece = next := by
  have visible (p : Piece) : p.text ≠ [] := by cases p <;> simp [Piece.text, Expression.text]
  rcases List.append_eq_append_iff.1 same with ⟨between, rfl, behind⟩ | ⟨between, rfl, behind⟩
  · cases between with
    | nil => exact (List.cons.inj behind).1
    | cons first between => simp [visible] at sameText
  · cases between with
    | nil => exact (List.cons.inj behind).1.symm
    | cons first between => simp [visible] at sameText

/-- An expression that does not stand for itself occurs in the text behind so many
braces that are open there. -/
def HasUnsettled (vars : Variables) (level : Nat) (text : Text) : Prop :=
  ∃ before after, ∃ expression : Expression, text = before ++ (expression.text ++ after) ∧
    expression.IsWellFormed ∧ expression.meaning vars ≠ .verbatim ∧
    Text.levelAfter 0 before = level

variable {vars : Variables}

/-- A text is settled if nothing in it is unsettled on any level. -/
theorem isSettled_of_forall_not_hasUnsettled {text : Text}
    (none : ∀ level, ¬ HasUnsettled vars level text) : IsSettled vars text := by
  intro expression member
  refine Classical.byContradiction fun goes => ?_
  have isPiece := mem_expressions_iff.1 member
  obtain ⟨before, after, split⟩ := List.append_of_mem isPiece
  have parts := text_pieces text
  rw [split, List.flatMap_append, List.flatMap_cons] at parts
  exact none _ ⟨_, _, expression, parts.symm, isWellFormed_of_mem_pieces isPiece, goes, rfl⟩

/-- The expression opens a brace of its own, so the text is deeper than its level. -/
theorem HasUnsettled.lt_depth {level : Nat} {text : Text}
    (unsettled : HasUnsettled vars level text) : level < text.depth := by
  obtain ⟨before, after, expression, rfl, -, -, rfl⟩ := unsettled
  have bound := Text.levelAfter_le_depthFrom 0 (before ++ ['{']) (expression.body ++ '}' :: after)
  have opened : Text.levelAfter 0 (before ++ ['{']) = Text.levelAfter 0 before + 1 := by
    simp [Text.levelBehind]
  rw [opened] at bound
  exact Nat.lt_of_succ_le (by simpa [Text.depth, Expression.text] using bound)

/-- What is unsettled in what a pass makes of a template stands around something that was
unsettled in the template. -/
theorem HasUnsettled.of_replaced {template text : Text} {level : Nat}
    (replaced : Replaced vars (pieces template) text) (unsettled : HasUnsettled vars level text) :
    HasUnsettled vars (level + 1) template := by
  obtain ⟨before, after, expression, rfl, wellFormed, goes, rfl⟩ := unsettled
  obtain ⟨front, inner, rest, split, frontReplaced, innerReplaced⟩ :=
    replaced.exists_braces wellFormed goes
  have parts := text_pieces template
  rw [split] at parts
  rcases innerReplaced.eq_map_char_or_exists wellFormed.isBraceFree_body with
    rfl | ⟨first, other, last, between, rfl, otherWellFormed, otherGoes, firstReplaced, free⟩
  · -- The whole expression would have been a piece of the template already.
    exfalso
    have whole : template = front.flatMap Piece.text ++
        (expression.text ++ rest.flatMap Piece.text) := by
      rw [← parts]
      simp [Piece.text, Expression.text, List.flatMap_map]
    have read := pieces_around wellFormed (front.flatMap Piece.text) (rest.flatMap Piece.text)
    rw [← whole, split] at read
    cases eq_of_cuts_eq (text_pieces _).symm read
  · refine ⟨front.flatMap Piece.text ++ '{' :: first.flatMap Piece.text,
      last.flatMap Piece.text ++ '}' :: rest.flatMap Piece.text, other, ?_, otherWellFormed,
      otherGoes, ?_⟩
    · rw [← parts]
      simp [Piece.text]
    · rw [Text.levelAfter_append, Text.levelAfter_cons, frontReplaced.levelAfter_eq,
        firstReplaced.levelAfter_eq, Text.levelAfter_of_isBraceFree free]
      rfl

end Template

namespace Resolver

open Template

variable {resolver : Resolver} {vars : Variables}

/-- What takes the place of an expression that does not stand for itself holds no brace. -/
theorem ensures_isBraceFree_replace (valuesFree : vars.AreBraceFree) {expression : Expression}
    (wellFormed : expression.IsWellFormed) (goes : expression.meaning vars ≠ .verbatim) :
    (resolver.replace vars expression).Ensures Text.IsBraceFree := by
  refine (ensures_canBecome_replace wellFormed).mono fun text becomes => ?_
  unfold Expression.CanBecome at becomes
  split at becomes
  · exact becomes
  · next value refers =>
    exact becomes ▸ valuesFree _ value (Expression.get?_of_meaning_eq_reference refers)
  · next stays => exact absurd stays goes

/-- A pass replaces pieces in the way that `Replaced` describes. -/
theorem ensures_replaced_passPieces (valuesFree : vars.AreBraceFree) {found : List Piece}
    (wellFormed : ∀ expression, .expression expression ∈ found → expression.IsWellFormed) :
    (resolver.passPieces vars found).Ensures (Replaced vars found) := by
  induction found with
  | nil =>
    rw [passPieces_nil]
    exact .pure .nil
  | cons piece rest ih =>
    have others := ih fun expression member => wellFormed expression (List.mem_cons_of_mem _ member)
    rw [passPieces_cons]
    cases piece with
    | char c =>
      rw [replacePiece, pure_bind]
      exact others.bind fun _ replaced => .pure (.char replaced)
    | expression expression =>
      have here := wellFormed expression (List.mem_cons_self ..)
      rw [replacePiece]
      by_cases stays : expression.meaning vars = .verbatim
      · rw [replace_eq, stays, pure_bind]
        exact others.bind fun _ replaced => .pure (.verbatim here stays replaced)
      · refine (ensures_isBraceFree_replace valuesFree here stays).bind fun value free => ?_
        exact others.bind fun _ replaced => .pure (.value here stays free replaced)

/-- What is unsettled after a pass stands around something that was unsettled before. -/
theorem ensures_hasUnsettled_pass (valuesFree : vars.AreBraceFree) (template : Text) :
    (resolver.pass vars template).Ensures fun next =>
      ∀ level, HasUnsettled vars level next → HasUnsettled vars (level + 1) template := by
  intro usage next run level
  refine HasUnsettled.of_replaced (ensures_replaced_passPieces valuesFree ?_ usage next run)
  exact fun expression member => isWellFormed_of_mem_pieces member

/-- So many passes leave unsettled only what stands around as many nested expressions. -/
theorem ensures_hasUnsettled_passes (valuesFree : vars.AreBraceFree) (limit : Nat)
    (template : Text) :
    (resolver.passes vars limit template).Ensures fun text =>
      ∀ level, HasUnsettled vars level text → HasUnsettled vars (level + limit) template := by
  induction limit generalizing template with
  | zero => exact .pure fun level unsettled => unsettled
  | succ limit ih =>
    refine (ensures_hasUnsettled_pass valuesFree template).bind fun next step => ?_
    split
    · next same =>
      -- Nothing is unsettled: it would be so on every level, and levels are bounded.
      subst same
      refine .pure fun level unsettled => absurd ?_ (Nat.lt_irrefl next.depth)
      have onAll (count : Nat) : HasUnsettled vars (level + count) next := by
        induction count with
        | zero => exact unsettled
        | succ count ih => exact step _ ih
      exact Nat.lt_of_le_of_lt (Nat.le_add_left _ level) (onAll next.depth).lt_depth
    · intro usage text run level unsettled
      have before := step _ (ih next usage text run level unsettled)
      rwa [Nat.add_assoc] at before

/-- If no value of a variable holds a brace, and the braces of the template are nested no
deeper than there are passes, then resolving leaves no expression of a builtin and no
reference to a defined variable. The text that it returns resolves to itself, and that
uses neither the clock nor the random source. -/
theorem resolve_settles {template : Text} {usage : Usage} (valuesFree : vars.AreBraceFree)
    (shallow : template.depth ≤ resolver.settings.passes)
    (timesReturn : resolver.TimesReturn vars template usage) :
    ∃ text used, (resolver.resolve vars template).outcome usage = (.ok text, used) ∧
      (∀ expression ∈ expressions text,
        (∀ word ∈ ["now", "timestamp", "uuid", "random", "rand"],
          expression.name.isKeyword word = false) ∧
        (expression.modifiers = [] → vars.get? expression.name = none)) ∧
      ∀ later, (resolver.resolve vars text).outcome later = (.ok text, later) := by
  obtain ⟨text, used, run⟩ := returns_resolve_iff_timesReturn.2 timesReturn
  have passed := run
  rw [resolve_eq_passes] at passed
  have settled : IsSettled vars text := by
    refine isSettled_of_forall_not_hasUnsettled fun level unsettled => ?_
    have onward := ensures_hasUnsettled_passes valuesFree _ template usage text
      (congrArg Prod.fst passed) level unsettled
    have deep := onward.lt_depth
    omega
  refine ⟨text, used, run, fun expression member => ?_, fun later => ?_⟩
  · rw [← Builtin.isReserved_eq_false_iff]
    exact Expression.meaning_eq_verbatim_iff.1 (settled expression member)
  · rw [resolve_eq_passes, passes_of_isSettled settled, Eval.outcome_pure]

/-- The names of two builtins and of a variable are completed by the first pass, among
braces that belong to no expression; the clock moves on a minute with each reading. -/
theorem resolve_settles_completedNames :
    let resolver : Resolver :=
      ⟨⟨.ofTable ⟨1718447445, 0⟩ 60 {}, .ofDraws [3]⟩, { maxPasses := 2 }⟩
    let vars := Variables.ofList
      [("n".toList, "1".toList), ("dev1".toList, "x".toList), ("u".toList, "ran".toList)]
    let template := "\x7d{now:+{n}h}/{dev{n}}/{now}{{u}d}{gone}\x7b".toList
    vars.AreBraceFree ∧ Text.depth template ≤ resolver.settings.passes ∧
      resolver.TimesReturn vars template {} ∧
      ∃ text used, (resolver.resolve vars template).outcome {} = (.ok text, used) ∧
        (∀ expression ∈ expressions text,
          (∀ word ∈ ["now", "timestamp", "uuid", "random", "rand"],
            expression.name.isKeyword word = false) ∧
          (expression.modifiers = [] → vars.get? expression.name = none)) ∧
        ∀ later, (resolver.resolve vars text).outcome later = (.ok text, later) := by
  intro resolver vars template
  have valuesFree : vars.AreBraceFree := Variables.areBraceFree_of_forall_bindings (by decide)
  have shallow : Text.depth template ≤ resolver.settings.passes := by decide +kernel
  have timesReturn : resolver.TimesReturn vars template {} :=
    returns_resolve_iff_timesReturn.1 (by decide +kernel)
  exact ⟨valuesFree, shallow, timesReturn, resolve_settles valuesFree shallow timesReturn⟩

end Resolver
end Stencil
