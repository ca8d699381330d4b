import Stencil.Text

/-!
# File trees

A tree of directories and files. Every place in it has a name of its own in the
directory that holds it. Main statements: what is put at a place is found there,
and nothing changes at places that lie neither on the way to it nor below it.
-/

namespace Stencil

/-- A file with its octets, or a directory with what each name stands for in it. -/
inductive FileTree
  | file (octets : List UInt8)
  | directory (entry : Text → Option FileTree)

/-- A place in a tree: the names of the directories that lead to it from the
root, and its own. -/
abbrev Place := List Text

namespace FileTree

/-- The directory that holds nothing. -/
def empty : FileTree := .directory fun _ => none

instance : EmptyCollection FileTree := ⟨empty⟩

/-- Whether the tree is a directory. -/
def isDirectory : FileTree → Bool
  | .file _ => false
  | .directory _ => true

/-- What a name stands for in the directory. In a file it stands for nothing. -/
def child? : FileTree → Text → Option FileTree
  | .file _, _ => none
  | .directory entry, name => entry name

/-- The directory with what one name stands for replaced or removed. A file stays
as it is. -/
def setChild (tree : FileTree) (name : Text) (new : Option FileTree) : FileTree :=
  match tree with
  | .file octets => .file octets
  | .directory entry => .directory fun other => if other = name then new else entry other

/-- What lies at a place. -/
def get? (tree : FileTree) : Place → Option FileTree
  | [] => some tree
  | name :: rest => (tree.child? name).bind fun below => below.get? rest

/-- The tree with what lies at a place replaced or removed. Only the root cannot be
removed. Where no directory is to hold the place, the tree stays as it is. -/
def set (tree : FileTree) (new : Option FileTree) : Place → FileTree
  | [] => new.getD tree
  | [name] => tree.setChild name new
  | name :: next :: rest =>
    match tree.child? name with
    | some below => tree.setChild name (some (below.set new (next :: rest)))
    | none => tree

/-- Whether a directory lies at a place. -/
def hasDirectory (tree : FileTree) (place : Place) : Bool :=
  (tree.get? place).any isDirectory

/-- What was set at a name is what it stands for; other names keep their meaning. -/
theorem child?_setChild {tree : FileTree} (directory : tree.isDirectory) (name other : Text)
    (new : Option FileTree) :
    (tree.setChild name new).child? other = if other = name then new else tree.child? other := by
  cases tree with
  | file => simp [isDirectory] at directory
  | directory => rfl

/-- Names stand for something only in directories. -/
theorem isDirectory_of_child? {tree below : FileTree} {name : Text}
    (found : tree.child? name = some below) : tree.isDirectory := by
  cases tree with
  | file => simp [child?] at found
  | directory => rfl

/-- Setting a name makes no directory of a file, nor the reverse. -/
theorem isDirectory_setChild (tree : FileTree) (name : Text) (new : Option FileTree) :
    (tree.setChild name new).isDirectory = tree.isDirectory := by
  cases tree <;> rfl

/-- Other names keep their meaning, in a file as well. -/
theorem child?_setChild_of_ne {tree : FileTree} {name other : Text} (different : other ≠ name)
    (new : Option FileTree) : (tree.setChild name new).child? other = tree.child? other := by
  cases tree with
  | file => rfl
  | directory => simp [setChild, child?, different]

/-- What is set at a place in a directory is found there. -/
theorem get?_set {tree : FileTree} {holder : Place} (held : tree.hasDirectory holder)
    (name : Text) (new : Option FileTree) :
    (tree.set new (holder ++ [name])).get? (holder ++ [name]) = new := by
  induction holder generalizing tree with
  | nil =>
    have directory : tree.isDirectory := by simpa [hasDirectory, get?] using held
    cases new <;> simp [set, get?, child?_setChild directory]
  | cons first rest ih =>
    cases found : tree.child? first with
    | none => simp [hasDirectory, get?, found] at held
    | some below =>
      have inside : below.hasDirectory rest := by simpa [hasDirectory, get?, found] using held
      have inner := ih inside
      obtain ⟨next, tail, split⟩ : ∃ next tail, rest ++ [name] = next :: tail :=
        List.exists_cons_of_ne_nil (by simp)
      rw [split] at inner
      simpa [split, set, found, get?, child?_setChild (isDirectory_of_child? found)] using inner

/-- What lies beside a place stays when something is set there. -/
theorem get?_set_beside {tree : FileTree} {place other : Place} (new : Option FileTree)
    (notBelow : ¬ place <+: other) (notAbove : ¬ other <+: place) :
    (tree.set new place).get? other = tree.get? other := by
  fun_induction set tree new place generalizing other with
  | case1 => simp at notBelow
  | case2 tree name =>
    cases other with
    | nil => simp at notAbove
    | cons first rest =>
      have different : first ≠ name := by rintro rfl; simp at notBelow
      simp [get?, child?_setChild_of_ne different]
  | case3 tree name next rest below found ih =>
    cases other with
    | nil => simp at notAbove
    | cons first tail =>
      by_cases same : first = name
      · subst same
        rw [List.cons_prefix_cons] at notBelow notAbove
        simp only [true_and] at notBelow notAbove
        simp [get?, child?_setChild (isDirectory_of_child? found), found, ih notBelow notAbove]
      · simp [get?, child?_setChild_of_ne same]
  | case4 => rfl

/-- A directory stays one when something is set at a place that does not hold it. -/
theorem hasDirectory_set {tree : FileTree} {place other : Place} (new : Option FileTree)
    (notBelow : ¬ place <+: other) :
    (tree.set new place).hasDirectory other = tree.hasDirectory other := by
  fun_induction set tree new place generalizing other with
  | case1 => simp at notBelow
  | case2 tree name =>
    cases other with
    | nil => simp [hasDirectory, get?, isDirectory_setChild]
    | cons first rest =>
      have different : first ≠ name := by rintro rfl; simp at notBelow
      simp [hasDirectory, get?, child?_setChild_of_ne different]
  | case3 tree name next rest below found ih =>
    cases other with
    | nil => simp [hasDirectory, get?, isDirectory_setChild]
    | cons first tail =>
      by_cases same : first = name
      · subst same
        rw [List.cons_prefix_cons] at notBelow
        simp only [true_and] at notBelow
        have inner := ih notBelow
        simp only [hasDirectory] at inner
        simp [hasDirectory, get?, child?_setChild (isDirectory_of_child? found), found, inner]
      · simp [hasDirectory, get?, child?_setChild_of_ne same]
  | case4 => rfl

end FileTree
end Stencil
