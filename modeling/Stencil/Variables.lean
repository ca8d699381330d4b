import Stencil.Text

/-!
# Variables

A finite map from names to values. Main statements: defining a name binds it and
leaves all others alone, and so does removing it.
-/

namespace Stencil

/-- Names with their values, each name once. -/
structure Variables where
  bindings : List (Text × Text)
  distinct : (bindings.map Prod.fst).Nodup

namespace Variables

/-- No variables. -/
def empty : Variables := ⟨[], .nil⟩

instance : EmptyCollection Variables := ⟨empty⟩

instance : Inhabited Variables := ⟨empty⟩

/-- The value of a name, if it has one. -/
def get? (vars : Variables) (name : Text) : Option Text :=
  vars.bindings.lookup name

/-- Whether a name has a value. -/
def defines (vars : Variables) (name : Text) : Bool :=
  (vars.get? name).isSome

/-- The number of names that have a value. -/
def size (vars : Variables) : Nat :=
  vars.bindings.length

/-- The variables without a name. -/
def erase (vars : Variables) (name : Text) : Variables where
  bindings := vars.bindings.filter fun binding => binding.1 ≠ name
  distinct := vars.distinct.sublist (List.filter_sublist.map Prod.fst)

/-- The variables with a name bound to a value. -/
def insert (vars : Variables) (name value : Text) : Variables where
  bindings := (name, value) :: (vars.erase name).bindings
  distinct := by
    refine List.nodup_cons.2 ⟨?_, (vars.erase name).distinct⟩
    simp [erase]

/-- The variables that result from binding names to values in order. -/
def ofList (bindings : List (Text × Text)) : Variables :=
  bindings.foldl (fun vars binding => vars.insert binding.1 binding.2) ∅

/-- Looking up a name finds its first binding. -/
theorem lookup_cons (name value other : Text) (rest : List (Text × Text)) :
    List.lookup other ((name, value) :: rest) =
      if other = name then some value else rest.lookup other := by
  rw [List.lookup_cons]
  by_cases same : other = name
  · simp [same]
  · simp [beq_eq_false_iff_ne.2 same, same]

/-- A name that was erased has no value; other names keep theirs. -/
theorem get?_erase (vars : Variables) (name other : Text) :
    (vars.erase name).get? other = if other = name then none else vars.get? other := by
  simp only [get?, erase]
  induction vars.bindings with
  | nil => simp
  | cons binding rest ih =>
    obtain ⟨key, value⟩ := binding
    by_cases erased : key = name
    · rw [List.filter_cons_of_neg (by simpa using erased), ih, lookup_cons]
      by_cases same : other = name <;> simp [same, erased]
    · rw [List.filter_cons_of_pos (by simpa using erased), lookup_cons, lookup_cons, ih]
      by_cases same : other = key <;> simp [same, erased]

/-- A name that was bound has the value; other names keep theirs. -/
theorem get?_insert (vars : Variables) (name value other : Text) :
    (vars.insert name value).get? other =
      if other = name then some value else vars.get? other := by
  have rest := get?_erase vars name other
  simp only [get?, insert, lookup_cons] at rest ⊢
  by_cases same : other = name <;> simp_all

end Variables
end Stencil
