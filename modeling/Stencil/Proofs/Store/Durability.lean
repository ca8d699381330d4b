import Stencil.Proofs.Json.RoundTrip
import Stencil.Proofs.Store.Walk
import Stencil.Store.Session

/-!
# What was saved stays saved

Saving settings at a plain path either stores them or changes nothing: whatever keeps a file
from being written at the path also keeps directories from being made on the way to it. So
settings that were saved stay as they are until others are saved. Main statement:
`saved_or_unchanged`.
-/

namespace Stencil

namespace FileTree

/-- No file can be written at the path: a file is in the place of a directory on the way to
it, or a directory is in its own place. -/
def Blocks (tree : FileTree) (path : Path) : Prop :=
  tree.HasFileUpTo path.parent ∨ tree.hasDirectory path

/-- Making the directories that lead to a plain path and writing a file there does both, or
does neither and changes nothing. -/
theorem write?_makeDirectories_cases {path : Path} (plain : path.IsPlain) (tree : FileTree)
    (octets : List UInt8) :
    (¬ tree.Blocks path ∧ ∃ made changed, tree.makeDirectories path.parent = (true, made) ∧
      made.write? octets path = some changed ∧ changed.find path = .file octets) ∨
    (tree.Blocks path ∧ (tree.makeDirectories path.parent = (false, tree) ∨
      tree.makeDirectories path.parent = (true, tree) ∧ tree.write? octets path = none)) := by
  obtain ⟨name, split⟩ := plain.exists_parent
  have whole : (path.parent ++ [name]).IsPlain := split ▸ plain
  -- In a directory that the parent leads to, only another directory is in the way.
  have written {made : FileTree} (held : made.hasDirectory path.parent)
      (free : made.hasDirectory path = false) :
      ∃ changed, made.write? octets path = some changed ∧ changed.find path = .file octets := by
    have put := write?_of_hasDirectory whole held octets
    have found := find_set_of_hasDirectory whole held octets
    rw [← split] at put found
    rw [free] at put
    exact ⟨_, put, found⟩
  have names : ∀ other ∈ path.parent, Path.IsPlainName other := fun other member =>
    whole.names other (List.mem_append_left _ member)
  rcases makeDirectories_cases names (Path.isUsable_of_append whole.usable) tree with
    ⟨held, made⟩ | ⟨file, made⟩ | ⟨ends, changed, made, nothing⟩
  · cases free : tree.hasDirectory path with
    | false =>
      refine .inl ⟨?_, tree, (written held free).imp fun changed put => ⟨made, put⟩⟩
      rintro (file | blocked)
      · rw [file.not_hasDirectory] at held
        cases held
      · rw [free] at blocked
        cases blocked
    | true =>
      have put := write?_of_hasDirectory whole held octets
      rw [← split, free, if_pos rfl] at put
      exact .inr ⟨.inr free, .inr ⟨made, put⟩⟩
  · exact .inr ⟨.inl file, .inl made⟩
  · have held : changed.hasDirectory path.parent := hasDirectory_iff.2 ⟨_, nothing⟩
    have free : changed.hasDirectory path = false := by
      rw [split, hasDirectory, get?_append, nothing]
      rfl
    refine .inl ⟨?_, changed, (written held free).imp fun _ put => ⟨made, put⟩⟩
    rintro (file | blocked)
    · exact ends.not_hasFileUpTo file
    · rw [split] at blocked
      have held := hasDirectory_of_hasDirectory_append blocked
      rw [ends.not_hasDirectory] at held
      cases held

end FileTree

namespace Repository

/-- The settings that a request is to save. -/
def Command.saves? : Command → Option Settings
  | .save settings | .reportedSave settings => some settings
  | _ => none

/-- Whether the request is one to the repository, and not to the files around it. -/
def Command.isOwn : Command → Bool
  | .load | .reportedLoad | .save _ | .reportedSave _ | .hasPath => true
  | .write .. | .makeDirectories _ | .delete _ | .readText _ => false

/-- Saving is a request to the repository. -/
theorem Command.isOwn_of_saves? {command : Command} {settings : Settings}
    (saves : command.saves? = some settings) : command.isOwn := by
  cases command <;> first | rfl | cases saves

/-- The tree after requests. -/
def after (repository : Repository) (tree : FileTree) (commands : List Command) : FileTree :=
  commands.foldl (fun tree command => (repository.step tree command).2) tree

/-- The answers to further requests are those on the tree that the first ones leave. -/
theorem run_append (repository : Repository) (tree : FileTree) (first second : List Command) :
    repository.run tree (first ++ second) =
      repository.run tree first ++ repository.run (repository.after tree first) second := by
  induction first generalizing tree with
  | nil => rfl
  | cons command rest ih => exact congrArg _ (ih _)

/-- The settings can be saved: they are consistent, and nothing is in the way. -/
def Accepts (repository : Repository) (settings : Settings) (tree : FileTree) : Prop :=
  settings.validate = .ok () ∧ ∃ path ∈ repository.path, ¬ tree.Blocks path

/-- The repository holds the settings: their document is what lies at its path. -/
def Holds (repository : Repository) (settings : Settings) (tree : FileTree) : Prop :=
  settings.validate = .ok () ∧
    ∃ path ∈ repository.path, tree.find path = .file (Utf8.encode settings.write)

/-- A request to the repository that is to save nothing changes nothing. -/
theorem step_of_saves?_eq_none (repository : Repository) (tree : FileTree) {command : Command}
    (own : command.isOwn) (saves : command.saves? = none) :
    (repository.step tree command).2 = tree := by
  cases command with
  | load => rw [step]; split <;> rfl
  | reportedLoad => rw [step]; split <;> rfl
  | hasPath => rfl
  | save | reportedSave => cases saves
  | _ => cases own

/-- What the repository holds is what it loads. -/
theorem Holds.load {repository : Repository} {settings : Settings} {tree : FileTree}
    (holds : repository.Holds settings tree) : repository.load tree = .ok settings := by
  obtain ⟨valid, path, given, found⟩ := holds
  rw [Repository.load, Option.mem_def.1 given]
  simp only [Settings.ofFound, found, Settings.read?_encode_write, valid]

section Plain

variable {repository : Repository} (plain : ∀ path ∈ repository.path, path.IsPlain)
include plain

/-- Settings are stored, or nothing changes. -/
theorem save_cases (settings : Settings) (tree : FileTree) :
    (repository.Accepts settings tree ∧ ∃ changed,
      repository.save settings tree = (.ok (), changed) ∧ repository.Holds settings changed) ∨
    (¬ repository.Accepts settings tree ∧ ∃ cause,
      repository.save settings tree = (.error cause, tree)) := by
  cases given : repository.path with
  | none =>
    refine .inr ⟨?_, .noPlace, by rw [save, given]⟩
    rintro ⟨-, path, member, -⟩
    rw [given] at member
    cases member
  | some path =>
    cases valid : settings.validate with
    | error cause =>
      refine .inr ⟨fun accepts => ?_, .invalid cause, by simp only [save, given, valid]⟩
      rw [accepts.1] at valid
      cases valid
    | ok =>
      have only {other : Path} (member : other ∈ repository.path) : other = path :=
        Option.some.inj (member.symm.trans given)
      rcases FileTree.write?_makeDirectories_cases (plain path given) tree
        (Utf8.encode settings.write) with
        ⟨free, made, changed, directories, written, found⟩ | ⟨blocked, failed⟩
      · refine .inl ⟨⟨valid, path, given, free⟩, changed, ?_, valid, path, given, found⟩
        simp only [save, given, valid, directories, written]
      · refine .inr ⟨?_, .inaccessible, ?_⟩
        · rintro ⟨-, other, member, free⟩
          exact free (only member ▸ blocked)
        · rcases failed with notMade | ⟨made, notWritten⟩
          · simp only [save, given, valid, notMade]
          · simp only [save, given, valid, made, notWritten]

/-- A request to save either stores its settings or changes nothing. -/
theorem step_of_saves? {command : Command} {settings : Settings}
    (saves : command.saves? = some settings) (tree : FileTree) :
    (repository.Accepts settings tree ∧ ∃ changed,
      repository.step tree command = (.saved, changed) ∧ repository.Holds settings changed) ∨
    (¬ repository.Accepts settings tree ∧ ∃ reply,
      repository.step tree command = (reply, tree) ∧ reply ≠ .saved) := by
  cases command with
  | save =>
    cases saves
    rcases save_cases plain settings tree with ⟨accepts, changed, stored, holds⟩ |
      ⟨refuses, cause, failed⟩
    · exact .inl ⟨accepts, changed, by simp only [step, stored], holds⟩
    · exact .inr ⟨refuses, .failed cause, by simp only [step, failed], nofun⟩
  | reportedSave =>
    cases saves
    rcases save_cases plain settings tree with ⟨accepts, changed, stored, holds⟩ |
      ⟨refuses, cause, failed⟩
    · refine .inl ⟨accepts, changed, ?_, holds⟩
      simp only [step, reportedSave, stored, Except.mapError]
    · refine .inr ⟨refuses, .reported cause.report, ?_, nofun⟩
      simp only [step, reportedSave, failed, Except.mapError]
  | _ => cases saves

/-- A request to the repository that does not store settings changes nothing. -/
theorem step_of_not_saved {command : Command} (own : command.isOwn) {tree : FileTree}
    (notSaved : (repository.step tree command).1 ≠ .saved) :
    (repository.step tree command).2 = tree := by
  cases saves : command.saves? with
  | some settings =>
    rcases step_of_saves? plain saves tree with ⟨-, changed, stored, -⟩ | ⟨-, reply, kept, -⟩
    · rw [stored] at notSaved
      exact absurd rfl notSaved
    · rw [kept]
  | none => exact step_of_saves?_eq_none repository tree own saves

/-- Requests to the repository of which none stores settings change nothing. -/
theorem after_of_not_saved {commands : List Command} (own : ∀ command ∈ commands, command.isOwn)
    {tree : FileTree} (notSaved : .saved ∉ repository.run tree commands) :
    repository.after tree commands = tree := by
  induction commands with
  | nil => rfl
  | cons command rest ih =>
    rw [run, List.mem_cons, not_or] at notSaved
    have kept := step_of_not_saved plain (own command List.mem_cons_self) (Ne.symm notSaved.1)
    rw [kept] at notSaved
    rw [after, List.foldl_cons, kept]
    exact ih (fun other member => own other (List.mem_cons_of_mem _ member)) notSaved.2

end Plain

/-- What the repository holds is loaded by either request. -/
theorem Holds.run_loads {repository : Repository} {settings : Settings} {tree : FileTree}
    (holds : repository.Holds settings tree) :
    repository.run tree [.load, .reportedLoad] = [.settings settings, .settings settings] := by
  simp only [run, step, reportedLoad, holds.load, Except.mapError]

/-- At a plain path or without one: a request to save answers that settings were saved just
when they are consistent and nothing is in the way. From then on, until others are saved, they
are what is loaded, and the octets of their document are what lies at the path. A request to
save that fails leaves the whole tree as it is, as does every other request to the
repository. -/
theorem saved_or_unchanged (repository : Repository)
    (plain : ∀ path ∈ repository.path, path.IsPlain) (tree : FileTree) :
    (∀ command settings, command.saves? = some settings →
      ((repository.step tree command).1 = .saved ↔ repository.Accepts settings tree)) ∧
    (∀ command settings, command.saves? = some settings →
      (repository.step tree command).1 = .saved →
        ∀ commands : List Command, (∀ other ∈ commands, other.isOwn) →
          .saved ∉ repository.run (repository.step tree command).2 commands →
            repository.run tree (command :: commands ++ [.load, .reportedLoad]) =
              repository.run tree (command :: commands) ++
                [.settings settings, .settings settings] ∧
            ∃ path ∈ repository.path, (repository.after tree (command :: commands)).find path =
              .file (Utf8.encode settings.write)) ∧
    (∀ command settings, command.saves? = some settings →
      (repository.step tree command).1 ≠ .saved → (repository.step tree command).2 = tree) ∧
    (repository.step tree .load).2 = tree ∧ (repository.step tree .reportedLoad).2 = tree := by
  refine ⟨fun command settings saves => ?_,
    fun command settings saves saved commands own others => ?_,
    fun command settings saves =>
      step_of_not_saved plain (Command.isOwn_of_saves? saves),
    step_of_saves?_eq_none repository tree rfl rfl,
    step_of_saves?_eq_none repository tree rfl rfl⟩
  · rcases step_of_saves? plain saves tree with ⟨accepts, changed, stored, -⟩ |
      ⟨refuses, reply, kept, notSaved⟩
    · simp only [stored, accepts]
    · simp only [kept, notSaved, refuses]
  · rcases step_of_saves? plain saves tree with ⟨-, changed, stored, holds⟩ |
      ⟨-, reply, kept, notSaved⟩
    · rw [stored] at others
      have unchanged : repository.after tree (command :: commands) = changed := by
        rw [after, List.foldl_cons, stored, ← after, after_of_not_saved plain own others]
      rw [run_append, unchanged]
      exact ⟨congrArg _ holds.run_loads, holds.2⟩
    · rw [kept] at saved
      exact absurd saved notSaved

/-- Settings are saved two directories below the root, which are made for them, and are still
loaded after a request that is refused. Where a file is in the place of one of the directories
they are not saved, and the tree stays as it is. -/
theorem saved_or_unchanged_below_root :
    let path : Path := ["app".toList, "etc".toList, "settings.json".toList]
    let settings : Settings := { maxPasses := 3 }
    let blocked : FileTree := (∅ : FileTree).set (some (.file [])) ["app".toList]
    Repository.run ⟨some path⟩ ∅
        [.reportedSave settings, .load, .save { maxPasses := 0 }, .hasPath, .load, .reportedLoad] =
      [.saved, .settings settings, .failed (.invalid (.settings .zeroPasses)), .succeeded true,
        .settings settings, .settings settings] ∧
    Repository.step ⟨some path⟩ blocked (.save settings) = (.failed .inaccessible, blocked) := by
  intro path settings blocked
  have plain : ∀ other ∈ some path, other.IsPlain := by
    rintro _ ⟨⟩
    exact ⟨by decide, by decide, by decide⟩
  have kept := (saved_or_unchanged ⟨some path⟩ plain ∅).2.1 (.reportedSave settings) settings rfl
    (by decide +kernel) [.load, .save { maxPasses := 0 }, .hasPath] (by decide) (by decide +kernel)
  have unchanged := (saved_or_unchanged ⟨some path⟩ plain blocked).2.2.1 (.save settings) settings
    rfl (by decide +kernel)
  exact ⟨kept.1.trans (by decide +kernel), Prod.ext (by decide +kernel) unchanged⟩

end Repository

end Stencil
