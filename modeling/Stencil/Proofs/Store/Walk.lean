import Stencil.Store.Files

/-!
# Following plain paths

A plain path consists of names that entries of a directory can have, so that following it is
looking up one name after the other. Either a directory lies at the end of such a path, or it
breaks off: at a name that stands for nothing or at a file. Main statements:
`hasDirectory_or_breaksOff`, and from it what making the directories along the path does.
-/

namespace Stencil

namespace Path

/-- A name that an entry of a directory can have: it leads neither to the directory itself nor
to the one above, and is not too long. -/
structure IsPlainName (name : Text) : Prop where
  notIdle : isIdle name = false
  notUpward : isUpward name = false
  notLong : name.utf8Length ≤ maxNameLength

instance (name : Text) : Decidable (IsPlainName name) :=
  decidable_of_iff (isIdle name = false ∧ isUpward name = false ∧
      name.utf8Length ≤ maxNameLength)
    ⟨fun ⟨notIdle, notUpward, notLong⟩ => ⟨notIdle, notUpward, notLong⟩,
      fun plain => ⟨plain.notIdle, plain.notUpward, plain.notLong⟩⟩

/-- The path consists of plain names, of one at least, and can lead somewhere. -/
structure IsPlain (path : Path) : Prop where
  notEmpty : path ≠ []
  names : ∀ name ∈ path, IsPlainName name
  usable : path.isUsable = true

/-- A path is no shorter than what starts it. -/
theorem length_le_length_append (first second : Path) :
    length first ≤ length (first ++ second) := by
  fun_induction length first with
  | case1 => exact Nat.zero_le _
  | case2 last =>
    cases second with
    | nil => exact Nat.le_refl _
    | cons name rest => simp only [List.cons_append, List.nil_append, length]; omega
  | case3 name rest notLast ih =>
    cases rest with
    | nil => exact absurd rfl notLast
    | cons next rest =>
      simp only [List.cons_append, length] at ih ⊢
      omega

/-- A part of a path that starts it can lead somewhere if the path can. -/
theorem isUsable_of_append {first second : Path} (usable : (first ++ second).isUsable = true) :
    first.isUsable = true := by
  have shorter := length_le_length_append first second
  simp only [isUsable, Bool.and_eq_true, decide_eq_true_eq, List.all_append] at usable ⊢
  exact ⟨Nat.le_trans shorter usable.1, usable.2.1⟩

section Idle

variable {path : Path} (notIdle : ∀ name ∈ path, isIdle name = false)
include notIdle

/-- Without idle parts there is nothing to trim. -/
theorem trimmed_of_not_isIdle : path.trimmed = path := by
  have kept : path.reverse.dropWhile isIdle = path.reverse := by
    cases reversed : path.reverse with
    | nil => rfl
    | cons last rest =>
      have member : last ∈ path := List.mem_reverse.1 (reversed ▸ List.mem_cons_self)
      rw [List.dropWhile_cons_of_neg (by simp [notIdle last member])]
  rw [trimmed, kept, List.reverse_reverse]

/-- Without idle parts a path does not end in a dot. -/
theorem endsInDot_of_not_isIdle : path.endsInDot = false := by
  have nothing : path.idleEnd = [] := by
    rw [idleEnd]
    cases reversed : path.reverse with
    | nil => rfl
    | cons last rest =>
      have member : last ∈ path := List.mem_reverse.1 (reversed ▸ List.mem_cons_self)
      rw [List.takeWhile_cons_of_neg (by simp [notIdle last member])]
  rw [endsInDot, nothing]
  rfl

end Idle

/-- A plain path has a last name, and its parent is what comes before. -/
theorem IsPlain.exists_parent {path : Path} (plain : path.IsPlain) :
    ∃ name, path = path.parent ++ [name] := by
  obtain ⟨holder, name, rfl⟩ : ∃ holder name, path = holder ++ [name] :=
    ⟨path.dropLast, path.getLast plain.notEmpty, (List.dropLast_concat_getLast _).symm⟩
  have notIdle : ∀ other ∈ holder ++ [name], isIdle other = false := fun other member =>
    (plain.names other member).notIdle
  refine ⟨name, ?_⟩
  rw [parent, trimmed_of_not_isIdle notIdle, List.dropLast_concat, trimmed_of_not_isIdle]
  exact fun other member => notIdle other (List.mem_append_left _ member)

end Path

namespace FileTree

open Stencil.Path

variable {tree : FileTree} {place : Place}

/-- What lies at a place is found by going part of the way first. -/
theorem get?_append (tree : FileTree) (first second : Place) :
    tree.get? (first ++ second) = (tree.get? first).bind fun below => below.get? second := by
  induction first generalizing tree with
  | nil => rfl
  | cons name rest ih =>
    cases found : tree.child? name <;> simp [get?, found, ih]

/-- What leads to a place at which something lies is a directory. -/
theorem hasDirectory_of_get?_append {tree : FileTree} {place : Place} {name : Text}
    {rest : Place} {found : FileTree} (lies : tree.get? (place ++ name :: rest) = some found) :
    tree.hasDirectory place := by
  rw [get?_append, Option.bind_eq_some_iff] at lies
  obtain ⟨below, here, lies⟩ := lies
  obtain ⟨next, isChild, -⟩ := Option.bind_eq_some_iff.1 lies
  rw [hasDirectory, here]
  exact isDirectory_of_child? isChild

/-- On the way to a place at which something lies something lies everywhere. -/
theorem lies_of_lies_append {first second : Place}
    (lies : (tree.get? (first ++ second)).isSome) : (tree.get? first).isSome := by
  rw [get?_append] at lies
  exact Option.isSome_of_isSome_bind lies

/-- At the place of a directory lies a directory. -/
theorem hasDirectory_iff : tree.hasDirectory place = true ↔
    ∃ entry, tree.get? place = some (.directory entry) := by
  rw [hasDirectory]
  cases tree.get? place with
  | none => simp
  | some found => cases found <;> simp [isDirectory]

/-- Something lies at the place of a directory. -/
theorem lies_of_hasDirectory (held : tree.hasDirectory place) : (tree.get? place).isSome := by
  obtain ⟨entry, found⟩ := hasDirectory_iff.1 held
  rw [found]
  rfl

/-- What starts the place of a directory is the place of one. -/
theorem hasDirectory_of_hasDirectory_append {first second : Place}
    (held : tree.hasDirectory (first ++ second)) : tree.hasDirectory first := by
  obtain ⟨entry, found⟩ := hasDirectory_iff.1 held
  cases second with
  | nil => rwa [List.append_nil] at held
  | cons name rest => exact hasDirectory_of_get?_append found

/-- A plain name is looked up in the directory. -/
theorem step_of_hasDirectory {name : Text} (plain : IsPlainName name)
    (held : tree.hasDirectory place) :
    tree.step place name =
      if (tree.get? (place ++ [name])).isSome then .ok (place ++ [name]) else .error .missing := by
  obtain ⟨entry, found⟩ := hasDirectory_iff.1 held
  have below : tree.get? (place ++ [name]) = entry name := by
    rw [get?_append, found]
    cases stands : entry name <;> simp [get?, child?, stands]
  rw [step, found, below]
  simp only [plain.notIdle, plain.notUpward, Bool.false_eq_true, if_false,
    Nat.not_lt.2 plain.notLong]
  cases entry name <;> rfl

/-- Nothing is looked up where no directory is. -/
theorem step_of_not_hasDirectory (notHeld : tree.hasDirectory place = false) (name : Text) :
    tree.step place name = .error .barred := by
  rw [step]
  split
  · next entry found =>
    rw [hasDirectory_iff.2 ⟨entry, found⟩] at notHeld
    cases notHeld
  · rfl

/-- A plain name under which something lies leads there. -/
theorem step_of_child {name : Text} (plain : IsPlainName name)
    (lies : (tree.get? (place ++ [name])).isSome) :
    tree.step place name = .ok (place ++ [name]) := by
  obtain ⟨found, lies⟩ := Option.isSome_iff_exists.1 lies
  rw [step_of_hasDirectory plain (hasDirectory_of_get?_append lies), lies]
  rfl

/-- Plain names lead to the place that they name if anything lies there. -/
theorem follow_of_lies {names : List Text} (plain : ∀ name ∈ names, IsPlainName name)
    (lies : (tree.get? (place ++ names)).isSome) :
    tree.follow place names = .ok (place ++ names) := by
  induction names generalizing place with
  | nil => rw [List.append_nil]; rfl
  | cons name rest ih =>
    rw [List.append_cons] at lies ⊢
    have first := step_of_child (plain name List.mem_cons_self) (lies_of_lies_append lies)
    rw [follow, List.foldlM_cons, first]
    exact ih (fun other member => plain other (List.mem_cons_of_mem _ member)) lies

/-! ## Where a path breaks off -/

/-- A file lies at the path or on the way to it. -/
def HasFileUpTo (tree : FileTree) (path : Place) : Prop :=
  ∃ place rest octets, path = place ++ rest ∧ tree.get? place = some (.file octets)

/-- From a directory on the path on, nothing lies on it any more. -/
def EndsBefore (tree : FileTree) (path : Place) : Prop :=
  ∃ place name rest, path = place ++ name :: rest ∧ tree.hasDirectory place ∧
    tree.get? (place ++ [name]) = none

/-- A path leads to a directory, or it breaks off at a file or at a name that stands for
nothing. -/
theorem hasDirectory_or_breaksOff (tree : FileTree) (path : Place) :
    tree.hasDirectory path ∨ tree.HasFileUpTo path ∨ tree.EndsBefore path := by
  induction path generalizing tree with
  | nil =>
    cases tree with
    | file octets => exact .inr (.inl ⟨[], [], octets, rfl, rfl⟩)
    | directory entry => exact .inl rfl
  | cons name rest ih =>
    cases tree with
    | file octets => exact .inr (.inl ⟨[], name :: rest, octets, rfl, rfl⟩)
    | directory entry =>
      cases stands : entry name with
      | none => exact .inr (.inr ⟨[], name, rest, rfl, rfl, by simp [get?, child?, stands]⟩)
      | some below =>
        have inside (place : Place) :
            (directory entry).get? (name :: place) = below.get? place := by
          rw [get?, child?, stands, Option.bind_some]
        rcases ih below with held | ⟨place, further, octets, rfl, found⟩ |
          ⟨place, next, further, rfl, held, missing⟩
        · exact .inl (by rwa [hasDirectory, inside])
        · exact .inr (.inl ⟨name :: place, further, octets, rfl, by rw [inside, found]⟩)
        · refine .inr (.inr ⟨name :: place, next, further, rfl, ?_, ?_⟩)
          · rwa [hasDirectory, inside]
          · rw [List.cons_append, inside, missing]

/-- No directory lies behind a file. -/
theorem HasFileUpTo.not_hasDirectory {path : Place} (file : tree.HasFileUpTo path) :
    tree.hasDirectory path = false := by
  obtain ⟨place, rest, octets, rfl, found⟩ := file
  refine Bool.eq_false_iff.2 fun held => ?_
  obtain ⟨entry, directory⟩ := hasDirectory_iff.1 (hasDirectory_of_hasDirectory_append held)
  rw [found] at directory
  cases directory

/-- No directory lies behind a name that stands for nothing. -/
theorem EndsBefore.not_hasDirectory {path : Place} (ends : tree.EndsBefore path) :
    tree.hasDirectory path = false := by
  obtain ⟨place, name, rest, rfl, -, missing⟩ := ends
  refine Bool.eq_false_iff.2 fun held => ?_
  rw [List.append_cons] at held
  have lies := lies_of_lies_append (lies_of_hasDirectory held)
  rw [missing] at lies
  cases lies

/-- A path that ends early does not lead to a file, nor does what starts it. -/
theorem EndsBefore.not_hasFileUpTo {path : Place}
    (ends : tree.EndsBefore path) : ¬ tree.HasFileUpTo path := by
  obtain ⟨place, name, rest, rfl, held, missing⟩ := ends
  rintro ⟨front, others, octets, split, found⟩
  have early : place ++ [name] <+: place ++ name :: rest := ⟨rest, by simp⟩
  rcases List.prefix_or_prefix_of_prefix early (split ▸ List.prefix_append front others) with
    ⟨further, rfl⟩ | short
  · have lies : (tree.get? (place ++ [name])).isSome := lies_of_lies_append (by rw [found]; rfl)
    rw [missing] at lies
    cases lies
  · rcases List.prefix_concat_iff.1 short with rfl | ⟨further, rfl⟩
    · rw [missing] at found
      cases found
    · have directory := HasFileUpTo.not_hasDirectory ⟨front, further, octets, rfl, found⟩
      rw [held] at directory
      cases directory

/-- As far as something lies on the path, nothing is made. -/
theorem makeAlong_append {front : List Text} (plain : ∀ name ∈ front, IsPlainName name)
    (lies : (tree.get? (place ++ front)).isSome) (rest : List Text) :
    tree.makeAlong place (front ++ rest) = tree.makeAlong (place ++ front) rest := by
  induction front generalizing place with
  | nil => rw [List.append_nil]; rfl
  | cons name front ih =>
    rw [List.append_cons place name front] at lies ⊢
    have first := step_of_child (plain name List.mem_cons_self) (lies_of_lies_append lies)
    rw [List.cons_append, makeAlong, first]
    exact ih (fun other member => plain other (List.mem_cons_of_mem _ member)) lies

/-- Nothing is made behind a file. -/
theorem makeAlong_of_file {octets : List UInt8} (found : tree.get? place = some (.file octets))
    (names : List Text) : tree.makeAlong place names = (false, tree) := by
  have notHeld : tree.hasDirectory place = false := by rw [hasDirectory, found]; rfl
  cases names with
  | nil => rw [makeAlong, notHeld]
  | cons name rest => rw [makeAlong, step_of_not_hasDirectory notHeld]

/-- A directory is made at a name that stands for nothing, and holds nothing. -/
theorem makeAlong_cons_of_missing {name : Text} (plain : IsPlainName name)
    (held : tree.hasDirectory place) (missing : tree.get? (place ++ [name]) = none)
    (rest : List Text) :
    ∃ next : FileTree,
      tree.makeAlong place (name :: rest) = next.makeAlong (place ++ [name]) rest ∧
      next.get? (place ++ [name]) = some ∅ := by
  have first : tree.step place name = .error .missing := by
    rw [step_of_hasDirectory plain held, missing]
    rfl
  exact ⟨_, by rw [makeAlong, first], get?_set held name (some ∅)⟩

/-- In a directory that holds nothing all names are made. -/
theorem makeAlong_of_empty {names : List Text} (plain : ∀ name ∈ names, IsPlainName name)
    (nothing : tree.get? place = some ∅) :
    ∃ changed, tree.makeAlong place names = (true, changed) ∧
      changed.get? (place ++ names) = some ∅ := by
  have held : tree.hasDirectory place := hasDirectory_iff.2 ⟨_, nothing⟩
  induction names generalizing tree place with
  | nil => exact ⟨tree, by rw [makeAlong, held], by rwa [List.append_nil]⟩
  | cons name rest ih =>
    have missing : tree.get? (place ++ [name]) = none := by
      rw [get?_append, nothing]
      rfl
    obtain ⟨next, made, nothing⟩ :=
      makeAlong_cons_of_missing (plain name List.mem_cons_self) held missing rest
    rw [made, List.append_cons place name rest]
    exact ih (fun other member => plain other (List.mem_cons_of_mem _ member)) nothing
      (hasDirectory_iff.2 ⟨_, nothing⟩)

/-! ## Plain paths -/

section Plain

variable {path : Path} (names : ∀ name ∈ path, IsPlainName name)
include names

/-- What making all directories on a path does: nothing if the path leads to one, nothing but
failing if it breaks off at a file, and else there is one at its end that holds nothing. -/
theorem makeDirectories_cases (usable : path.isUsable = true) (tree : FileTree) :
    (tree.hasDirectory path ∧ tree.makeDirectories path = (true, tree)) ∨
    (tree.HasFileUpTo path ∧ tree.makeDirectories path = (false, tree)) ∨
    (tree.EndsBefore path ∧ ∃ changed, tree.makeDirectories path = (true, changed) ∧
      changed.get? path = some ∅) := by
  have along : tree.makeDirectories path = tree.makeAlong [] path := by
    rw [makeDirectories, if_pos usable,
      endsInDot_of_not_isIdle fun name member => (names name member).notIdle]
    rfl
  -- Whatever lies on the path, making directories goes on behind it.
  have start {place rest : Place} {found : FileTree} (whole : path = place ++ rest)
      (lies : tree.get? place = some found) :
      tree.makeDirectories path = tree.makeAlong place rest := by
    subst whole
    rw [along, makeAlong_append (fun name member => names name (List.mem_append_left _ member))
      (by rw [List.nil_append, lies]; rfl), List.nil_append]
  rcases tree.hasDirectory_or_breaksOff path with held | file | ends
  · obtain ⟨entry, found⟩ := hasDirectory_iff.1 held
    exact .inl ⟨held, by rw [start (List.append_nil path).symm found, makeAlong, held]⟩
  · have ⟨place, rest, octets, whole, found⟩ := file
    exact .inr (.inl ⟨file, by rw [start whole found, makeAlong_of_file found]⟩)
  · have ⟨place, name, rest, whole, held, missing⟩ := ends
    obtain ⟨entry, found⟩ := hasDirectory_iff.1 held
    have plain : ∀ other ∈ name :: rest, IsPlainName other := fun other member =>
      names other (whole ▸ List.mem_append_right _ member)
    obtain ⟨next, made, nothing⟩ :=
      makeAlong_cons_of_missing (plain name List.mem_cons_self) held missing rest
    obtain ⟨changed, finished, nothing⟩ :=
      makeAlong_of_empty (fun other member => plain other (List.mem_cons_of_mem _ member)) nothing
    exact .inr (.inr ⟨ends, changed, by rw [start whole found, made, finished],
      by rw [whole, List.append_cons, nothing]⟩)

end Plain

/-! ## The last name of a plain path -/

section Last

variable {holder : Place} {name : Text} (plain : IsPlain (holder ++ [name]))
  (held : tree.hasDirectory holder)
include plain held

/-- What comes before the last name leads to the directory that holds it. -/
theorem follow_holder : tree.follow [] holder = .ok holder :=
  follow_of_lies (fun other member => plain.names other (List.mem_append_left _ member))
    (lies_of_hasDirectory held)

/-- A plain path whose last name is looked up in a directory leads to its own place. -/
theorem resolve_of_hasDirectory :
    tree.resolve (holder ++ [name]) =
      if (tree.get? (holder ++ [name])).isSome then .ok (holder ++ [name])
      else .error .missing := by
  have last : IsPlainName name := plain.names name (by simp)
  rw [resolve, if_pos plain.usable, follow, List.foldlM_append, ← follow,
    follow_holder plain held, ← step_of_hasDirectory last held]
  exact bind_pure (tree.step holder name)

/-- What is written at such a path is put at its own place, unless a directory is there. -/
theorem write?_of_hasDirectory (octets : List UInt8) :
    tree.write? octets (holder ++ [name]) =
      if tree.hasDirectory (holder ++ [name]) then none
      else some (tree.set (some (.file octets)) (holder ++ [name])) := by
  have arrived : tree.resolve holder = .ok holder := by
    rw [resolve, if_pos (isUsable_of_append plain.usable), follow_holder plain held]
  rw [write?, filePlace?, resolve_of_hasDirectory plain held]
  cases lies : tree.get? (holder ++ [name]) with
  | some found =>
    simp only [hasDirectory, lies, Option.isSome_some, if_true]
    split <;> rfl
  | none => simp [hasDirectory, lies, arrived]

/-- What was put at the place of such a path is found there. -/
theorem find_set_of_hasDirectory (octets : List UInt8) :
    (tree.set (some (.file octets)) (holder ++ [name])).find (holder ++ [name]) =
      .file octets := by
  have notBelow : ¬ holder ++ [name] <+: holder := fun shorter => by
    have := shorter.length_le
    rw [List.length_append, List.length_singleton] at this
    omega
  have stillHeld := hasDirectory_set (some (.file octets)) notBelow ▸ held
  simp only [find, resolve_of_hasDirectory plain stillHeld, get?_set held, Option.isSome_some,
    if_true]

end Last

end FileTree
end Stencil
