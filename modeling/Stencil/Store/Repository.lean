import Stencil.Settings.Stored
import Stencil.Store.Error
import Stencil.Store.Files

/-!
# The settings repository

Settings are kept in one file of a tree. Loading where there is no file gives
the defaults. Neither inconsistent settings nor a file that holds any are ever
handed on.
-/

namespace Stencil

/-- The settings that what lies at the place of the settings file stands for. -/
def Settings.ofFound : Found → Except StoreError Settings
  | .nothing => .ok {}
  | .directory | .barred => .error .inaccessible
  | .file octets =>
    match Settings.read? octets with
    | none => .error .malformed
    | some settings =>
      match settings.validate with
      | .ok () => .ok settings
      | .error cause => .error (.invalid cause)

/-- A place for settings, if there is one. -/
structure Repository where
  path : Option Path
  deriving DecidableEq, Repr

namespace Repository

/-- The settings that the repository holds. -/
def load (repository : Repository) (tree : FileTree) : Except StoreError Settings :=
  match repository.path with
  | none => .ok {}
  | some path => Settings.ofFound (tree.find path)

/-- Saves settings and gives the tree after that. Directories that lead to the file
are made before it is written, and stay if it cannot be written. -/
def save (repository : Repository) (settings : Settings) (tree : FileTree) :
    Except StoreError Unit × FileTree :=
  match repository.path with
  | none => (.error .noPlace, tree)
  | some path =>
    match settings.validate with
    | .error cause => (.error (.invalid cause), tree)
    | .ok () =>
      match tree.makeDirectories path.parent with
      | (false, tree) => (.error .inaccessible, tree)
      | (true, tree) =>
        match tree.write? (Utf8.encode settings.write) path with
        | none => (.error .inaccessible, tree)
        | some tree => (.ok (), tree)

/-- Loading, with failures as they are reported. -/
def reportedLoad (repository : Repository) (tree : FileTree) : Except ReportedError Settings :=
  (repository.load tree).mapError StoreError.report

/-- Saving, with failures as they are reported. -/
def reportedSave (repository : Repository) (settings : Settings) (tree : FileTree) :
    Except ReportedError Unit × FileTree :=
  let (result, tree) := repository.save settings tree
  (result.mapError StoreError.report, tree)

end Repository
end Stencil
