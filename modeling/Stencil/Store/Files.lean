import Stencil.Store.Path
import Stencil.Store.Tree
import Stencil.Text.Utf8

/-!
# Files at paths

What paths stand for in a tree, and changes of the tree that paths give the
place of. A path is followed name by name, and each name has to be looked up in
a directory. That holds of the empty name behind a slash at the end too, so that
a path with such a slash leads to a directory or nowhere.
-/

namespace Stencil

/-- What lies at a path. -/
inductive Found
  | nothing
  | file (octets : List UInt8)
  | directory
  /-- The path cannot be followed: it leads through a file, it or one of its names
  is too long, or it holds a null character. -/
  | barred
  deriving DecidableEq, Repr

/-- Why a path cannot be followed. -/
inductive Obstacle
  /-- A name stands for nothing in the directory that it is looked up in. -/
  | missing
  /-- A name is to be looked up in a file or is too long, or the path leads nowhere
  in any tree. -/
  | barred
  deriving DecidableEq, Repr

namespace FileTree

/-- The place that a name leads to from a place. The root is above itself. -/
def step (tree : FileTree) (place : Place) (name : Text) : Except Obstacle Place :=
  match tree.get? place with
  | some (.directory entry) =>
    if Path.isIdle name then .ok place
    else if Path.isUpward name then .ok place.dropLast
    else if Path.maxNameLength < name.utf8Length then .error .barred
    else if (entry name).isNone then .error .missing
    else .ok (place ++ [name])
  | _ => .error .barred

/-- The place that names lead to from a place. -/
def follow (tree : FileTree) (place : Place) (names : List Text) : Except Obstacle Place :=
  names.foldlM tree.step place

/-- The place that a path leads to. -/
def resolve (tree : FileTree) (path : Path) : Except Obstacle Place :=
  if path.isUsable then tree.follow [] path else .error .barred

/-- What lies at a path of the tree. -/
def find (tree : FileTree) (path : Path) : Found :=
  match tree.resolve path with
  | .ok place =>
    match tree.get? place with
    | some (.file octets) => .file octets
    | some (.directory _) => .directory
    | none => .nothing
  | .error .missing => .nothing
  | .error .barred => .barred

/-- The place at which a path can have a file: the one that it leads to, unless a
directory lies there, or else one that is free in a directory. -/
def filePlace? (tree : FileTree) (path : Path) : Option Place :=
  match tree.resolve path with
  | .ok place => if tree.hasDirectory place then none else some place
  | .error .missing =>
    match tree.resolve path.dropLast with
    | .ok place => some (place ++ path.getLast?.toList)
    | .error _ => none
  | .error .barred => none

/-- The tree with a file of these octets at the path. It fails on a directory, and
where the directory to hold the file is missing. -/
def write? (tree : FileTree) (octets : List UInt8) (path : Path) : Option FileTree :=
  (tree.filePlace? path).map (tree.set (some (.file octets)))

/-- The tree without the file at the path. It fails where there is no file. -/
def delete? (tree : FileTree) (path : Path) : Option FileTree :=
  match tree.resolve path with
  | .ok place => if tree.hasDirectory place then none else some (tree.set none place)
  | .error _ => none

/-- Follows names from a place and makes each directory that is missing. The
answer says whether the names lead to a directory in the end; the directories
that were made on the way are there in any case. -/
def makeAlong (tree : FileTree) (place : Place) : List Text → Bool × FileTree
  | [] => (tree.hasDirectory place, tree)
  | name :: rest =>
    match tree.step place name with
    | .ok next => makeAlong tree next rest
    | .error .missing =>
      let next := place ++ [name]
      makeAlong (tree.set (some ∅) next) next rest
    | .error .barred => (false, tree)

/-- Makes the directory at a path and those that lead to it, as far as they are
missing. A directory whose name the path follows by a dot is not made; it has to
be there already. -/
def makeDirectories (tree : FileTree) (path : Path) : Bool × FileTree :=
  if path.isUsable then
    if path.endsInDot then
      let (made, changed) := tree.makeAlong [] path.parent
      (made && changed.find path == .directory, changed)
    else tree.makeAlong [] path
  else (false, tree)

/-- The text of the file at the path, if there is one. -/
def readText? (tree : FileTree) (path : Path) : Option Text :=
  match tree.find path with
  | .file octets => some (Utf8.decodeLossy octets)
  | _ => none

end FileTree
end Stencil
