import Stencil.Store.Repository

/-!
# Work on a store

Requests to a repository and to the files around it, one after the other on one
tree.
-/

namespace Stencil

/-- A request to a repository or to the tree that it is in. -/
inductive Repository.Command
  | load
  | reportedLoad
  | save (settings : Settings)
  | reportedSave (settings : Settings)
  | hasPath
  | write (path : Path) (octets : List UInt8)
  | makeDirectories (path : Path)
  | delete (path : Path)
  | readText (path : Path)
  deriving DecidableEq, Repr

/-- The answer to such a request. -/
inductive Repository.Reply
  | settings (settings : Settings)
  | saved
  | failed (cause : StoreError)
  | reported (cause : ReportedError)
  | succeeded (success : Bool)
  | text (text : Option Text)
  deriving DecidableEq, Repr

namespace Repository

/-- The answer to a change of the tree, and the tree after it. -/
def attempt (tree : FileTree) : Option FileTree → Reply × FileTree
  | some changed => (.succeeded true, changed)
  | none => (.succeeded false, tree)

/-- Answers one request. -/
def step (repository : Repository) (tree : FileTree) : Command → Reply × FileTree
  | .load =>
    match repository.load tree with
    | .ok settings => (.settings settings, tree)
    | .error cause => (.failed cause, tree)
  | .reportedLoad =>
    match repository.reportedLoad tree with
    | .ok settings => (.settings settings, tree)
    | .error cause => (.reported cause, tree)
  | .save settings =>
    match repository.save settings tree with
    | (.ok (), changed) => (.saved, changed)
    | (.error cause, changed) => (.failed cause, changed)
  | .reportedSave settings =>
    match repository.reportedSave settings tree with
    | (.ok (), changed) => (.saved, changed)
    | (.error cause, changed) => (.reported cause, changed)
  | .hasPath => (.succeeded repository.path.isSome, tree)
  | .write path octets => attempt tree (tree.write? octets path)
  | .makeDirectories path =>
    let (made, changed) := tree.makeDirectories path
    (.succeeded made, changed)
  | .delete path => attempt tree (tree.delete? path)
  | .readText path => (.text (tree.readText? path), tree)

/-- Answers requests in order. -/
def run (repository : Repository) (tree : FileTree) : List Command → List Reply
  | [] => []
  | command :: rest =>
    let (reply, changed) := repository.step tree command
    reply :: run repository changed rest

end Repository
end Stencil
