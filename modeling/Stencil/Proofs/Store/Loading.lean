import Stencil.Proofs.Store.Walk
import Stencil.Store.Repository

/-!
# What is loaded

What lies at a plain path decides what is loaded from it, and where nothing lies it matters
whether a file is on the way. What is handed on is consistent in any case, and those who only
know that settings are stored somewhere get the same settings. Main statement: `load_exact`.
-/

namespace Stencil

namespace FileTree

open Stencil.Path

variable {tree : FileTree} {path : Path}

/-- A file lies on the way to the path. -/
def HasFileBefore (tree : FileTree) (path : Place) : Prop :=
  ∃ place name rest octets, path = place ++ name :: rest ∧ tree.get? place = some (.file octets)

/-- Where nothing lies at a path and no file on the way to it, the path ends early. -/
theorem endsBefore_of_get?_eq_none (nothing : tree.get? path = none)
    (noFile : ¬ tree.HasFileBefore path) : tree.EndsBefore path := by
  rcases tree.hasDirectory_or_breaksOff path with held | ⟨place, rest, octets, whole, found⟩ | ends
  · have lies := lies_of_hasDirectory held
    rw [nothing] at lies
    cases lies
  · cases rest with
    | nil =>
      rw [whole, List.append_nil, found] at nothing
      cases nothing
    | cons name rest => exact absurd ⟨place, name, rest, octets, whole, found⟩ noFile
  · exact ends

/-- Names are followed part by part. -/
theorem follow_append_cons {front : List Text} (plain : ∀ name ∈ front, IsPlainName name)
    {found : FileTree} (lies : tree.get? front = some found) (name : Text) (rest : List Text) :
    tree.follow [] (front ++ name :: rest) =
      (tree.step front name).bind fun next => tree.follow next rest := by
  have arrived : tree.follow [] front = .ok front := follow_of_lies plain (by simp [lies])
  rw [follow, List.foldlM_append, ← follow, arrived]
  rfl

/-- No system can follow a path that is too long or holds a null character. -/
theorem find_of_not_isUsable (unusable : path.isUsable = false) : tree.find path = .barred := by
  have stopped : tree.resolve path = .error .barred := by
    rw [resolve, unusable]
    rfl
  simp only [find, stopped]

section Plain

variable (names : ∀ name ∈ path, IsPlainName name) (usable : path.isUsable = true)
include names usable

/-- Plain names lead to what lies at their own place. -/
theorem find_of_get? {found : FileTree} (lies : tree.get? path = some found) :
    tree.find path = match found with
      | .file octets => .file octets
      | .directory _ => .directory := by
  have arrived : tree.resolve path = .ok path := by
    rw [resolve, if_pos usable, follow_of_lies names (by simp [lies])]
    rfl
  simp only [find, arrived, lies]
  cases found <;> rfl

/-- Nothing is found where the path ends early. -/
theorem find_of_endsBefore (ends : tree.EndsBefore path) : tree.find path = .nothing := by
  obtain ⟨place, name, rest, rfl, held, missing⟩ := ends
  obtain ⟨entry, found⟩ := hasDirectory_iff.1 held
  have stopped : tree.resolve (place ++ name :: rest) = .error .missing := by
    rw [resolve, if_pos usable,
      follow_append_cons (fun other member => names other (List.mem_append_left _ member)) found,
      step_of_hasDirectory (names name (by simp)) held, missing]
    rfl
  simp only [find, stopped]

/-- The path cannot be followed through a file. -/
theorem find_of_hasFileBefore (file : tree.HasFileBefore path) : tree.find path = .barred := by
  obtain ⟨place, name, rest, octets, rfl, found⟩ := file
  have stopped : tree.resolve (place ++ name :: rest) = .error .barred := by
    rw [resolve, if_pos usable,
      follow_append_cons (fun other member => names other (List.mem_append_left _ member)) found,
      step_of_not_hasDirectory (by rw [hasDirectory, found]; rfl)]
    rfl
  simp only [find, stopped]

end Plain

end FileTree

namespace Settings

variable {settings : Settings} {octets : List UInt8}

/-- Settings are consistent if they admit a pass and the bounds are in ascending order. -/
theorem validate_eq_ok_iff : settings.validate = .ok () ↔
    1 ≤ settings.maxPasses ∧ settings.randomMin ≤ settings.randomMax := by
  have positive : 1 ≤ settings.maxPasses ↔ settings.maxPasses ≠ 0 := by
    rw [UInt64.le_iff_toNat_le, ne_eq, ← UInt64.toNat_inj]
    exact Nat.one_le_iff_ne_zero
  rw [positive, ← UInt64.not_lt, validate, flaw?]
  by_cases zero : settings.maxPasses = 0
  · simp [zero]
  · by_cases inverted : settings.randomMax < settings.randomMin <;> simp [zero, inverted]

/-- A file gives its settings if they are consistent. -/
theorem ofFound_file_eq_ok_iff :
    ofFound (.file octets) = .ok settings ↔
      read? octets = some settings ∧ settings.validate = .ok () := by
  rw [ofFound]
  cases read? octets with
  | none => simp
  | some stored =>
    have handedOn : stored = settings ∧ stored.validate = .ok () ↔
        some stored = some settings ∧ settings.validate = .ok () := by
      rw [Option.some_inj]
      exact and_congr_right fun same => by rw [same]
    rw [← handedOn]
    cases valid : stored.validate <;> simp [valid]

/-- A file is malformed exactly if settings cannot be read from it. -/
theorem ofFound_file_eq_malformed_iff :
    ofFound (.file octets) = .error .malformed ↔ read? octets = none := by
  rw [ofFound]
  cases read? octets with
  | none => simp
  | some stored => cases valid : stored.validate <;> simp [valid]

/-- A file is invalid exactly if the settings that it holds do not pass the check. -/
theorem ofFound_file_eq_invalid_iff {cause : Invalid} :
    ofFound (.file octets) = .error (.invalid cause) ↔
      ∃ settings, read? octets = some settings ∧ settings.validate = .error cause := by
  rw [ofFound]
  cases read? octets with
  | none => simp
  | some stored => cases valid : stored.validate <;> simp [valid]

/-- Whatever is found, the settings that it stands for are consistent. -/
theorem validate_of_ofFound {found : Found} (loaded : ofFound found = .ok settings) :
    settings.validate = .ok () := by
  cases found with
  | nothing =>
    cases loaded
    exact validate_eq_ok_iff.2 (by decide)
  | file octets => exact (ofFound_file_eq_ok_iff.1 loaded).2
  | directory => cases loaded
  | barred => cases loaded

end Settings

namespace Repository

variable {repository : Repository} {tree : FileTree}

/-- Settings that are loaded are consistent. -/
theorem validate_of_load {settings : Settings} (loaded : repository.load tree = .ok settings) :
    settings.validate = .ok () := by
  cases given : repository.path with
  | none =>
    rw [load, given] at loaded
    exact Settings.validate_of_ofFound (show Settings.ofFound .nothing = _ from loaded)
  | some path =>
    rw [load, given] at loaded
    exact Settings.validate_of_ofFound loaded

/-- The report of loaded settings is the settings. -/
theorem reportedLoad_eq_ok_iff {settings : Settings} :
    repository.reportedLoad tree = .ok settings ↔ repository.load tree = .ok settings := by
  rw [reportedLoad]
  cases repository.load tree with
  | ok found =>
    change Except.ok found = .ok settings ↔ _
    simp
  | error cause =>
    change Except.error cause.report = .ok settings ↔ _
    simp

/-- A reported error is the report of the cause. -/
theorem reportedLoad_eq_error_iff {reported : ReportedError} :
    repository.reportedLoad tree = .error reported ↔
      ∃ cause, repository.load tree = .error cause ∧ cause.report = reported := by
  rw [reportedLoad]
  cases repository.load tree with
  | ok found =>
    change Except.ok found = .error reported ↔ _
    simp
  | error cause =>
    change Except.error cause.report = .error reported ↔ _
    simp

/-- Only inconsistent settings are reported as such. -/
theorem report_eq_domain_iff {cause : StoreError} {inner : Invalid} :
    cause.report = .domain inner ↔ cause = .invalid inner := by
  cases cause <;> simp [StoreError.report]

/-- All other causes are reported by their wording. -/
theorem report_eq_storage_iff {cause : StoreError} {detail : Text} :
    cause.report = .storage detail ↔
      (∀ inner, cause ≠ .invalid inner) ∧ cause.message = detail := by
  cases cause <;> simp [StoreError.report]

/-- What is loaded from a path of plain names: the defaults if nothing lies there and no file on
the way; nothing from a directory or from behind a file, nor if the path is too long or holds a
null character; and from a file what its octets hold, unless they hold no settings or
inconsistent ones. Whatever the path is, settings that are loaded admit a pass and have bounds
in ascending order. Loading with failures as they are reported gives the same settings, tells of
inconsistent settings as such and of all else by its wording. -/
theorem load_exact {path : Path} (names : ∀ name ∈ path, Path.IsPlainName name)
    (tree : FileTree) :
    (path.isUsable = false → (⟨path⟩ : Repository).load tree = .error .inaccessible) ∧
    (path.isUsable = true →
      (tree.get? path = none → ¬ tree.HasFileBefore path →
        (⟨path⟩ : Repository).load tree = .ok {}) ∧
      (tree.hasDirectory path ∨ tree.HasFileBefore path →
        (⟨path⟩ : Repository).load tree = .error .inaccessible) ∧
      ∀ octets, tree.get? path = some (.file octets) →
        ((⟨path⟩ : Repository).load tree = .error .malformed ↔ Settings.read? octets = none) ∧
        (∀ cause, (⟨path⟩ : Repository).load tree = .error (.invalid cause) ↔
          ∃ settings, Settings.read? octets = some settings ∧ settings.validate = .error cause) ∧
        ∀ settings, (⟨path⟩ : Repository).load tree = .ok settings ↔
          Settings.read? octets = some settings ∧ settings.validate = .ok ()) ∧
    ∀ (repository : Repository) (tree : FileTree),
      (∀ settings, repository.load tree = .ok settings →
        1 ≤ settings.maxPasses ∧ settings.randomMin ≤ settings.randomMax) ∧
      (∀ settings, repository.reportedLoad tree = .ok settings ↔
        repository.load tree = .ok settings) ∧
      (∀ cause, repository.reportedLoad tree = .error (.domain cause) ↔
        repository.load tree = .error (.invalid cause)) ∧
      ∀ detail, repository.reportedLoad tree = .error (.storage detail) ↔
        ∃ cause, repository.load tree = .error cause ∧ (∀ inner, cause ≠ .invalid inner) ∧
          cause.message = detail := by
  have atPath : (⟨path⟩ : Repository).load tree = Settings.ofFound (tree.find path) := rfl
  refine ⟨fun unusable => ?_,
    fun usable => ⟨fun nothing noFile => ?_, ?_, fun octets lies => ?_⟩, fun repository tree => ?_⟩
  · rw [atPath, FileTree.find_of_not_isUsable unusable]
    rfl
  · have ends := FileTree.endsBefore_of_get?_eq_none nothing noFile
    rw [atPath, FileTree.find_of_endsBefore names usable ends]
    rfl
  · rintro (held | file)
    · obtain ⟨entry, lies⟩ := FileTree.hasDirectory_iff.1 held
      rw [atPath, FileTree.find_of_get? names usable lies]
      rfl
    · rw [atPath, FileTree.find_of_hasFileBefore names usable file]
      rfl
  · rw [atPath, FileTree.find_of_get? names usable lies]
    exact ⟨Settings.ofFound_file_eq_malformed_iff,
      fun cause => Settings.ofFound_file_eq_invalid_iff,
      fun settings => Settings.ofFound_file_eq_ok_iff⟩
  · refine ⟨fun settings loaded => Settings.validate_eq_ok_iff.1 (validate_of_load loaded),
      fun settings => reportedLoad_eq_ok_iff, fun cause => ?_, fun detail => ?_⟩
    · simp only [reportedLoad_eq_error_iff, report_eq_domain_iff, exists_eq_right]
    · simp only [reportedLoad_eq_error_iff, report_eq_storage_iff]

/-- An empty tree, a tree with a file where the directory of the settings file should be, and a
tree whose settings file gives one bound, which the default of the other one inverts. -/
theorem load_exact_partialFile :
    let path : Path := ["conf".toList, "app.json".toList]
    let octets := Utf8.encode "\x7b\"random_min\":101\x7d".toList
    let holding (found : FileTree) (name : Text) : FileTree :=
      .directory fun other => if other = name then some found else none
    let stored := holding (holding (.file octets) "app.json".toList) "conf".toList
    let blocked := holding (.file octets) "conf".toList
    let repository : Repository := ⟨path⟩
    (∀ name ∈ path, Path.IsPlainName name) ∧ path.isUsable = true ∧
      (FileTree.get? ∅ path = none ∧ ¬ FileTree.HasFileBefore ∅ path ∧
        repository.load ∅ = .ok {} ∧
        (1 ≤ ({} : Settings).maxPasses ∧ ({} : Settings).randomMin ≤ ({} : Settings).randomMax)) ∧
      (blocked.HasFileBefore path ∧ repository.load blocked = .error .inaccessible) ∧
      stored.get? path = some (.file octets) ∧
      repository.load stored = .error (.invalid (.settings (.invertedBounds 101 100))) := by
  intro path octets holding stored blocked repository
  have names : ∀ name ∈ path, Path.IsPlainName name := by decide
  have usable : path.isUsable = true := by decide
  have nothing : FileTree.get? ∅ path = none := rfl
  have noFile : ¬ FileTree.HasFileBefore ∅ path := by
    rintro ⟨place, name, rest, found, -, lies⟩
    cases place <;> cases lies
  have inFront : blocked.HasFileBefore path :=
    ⟨["conf".toList], "app.json".toList, [], octets, rfl, rfl⟩
  have lies : stored.get? path = some (.file octets) := rfl
  have inverted : Settings.read? octets = some { randomMin := 101 } := by decide +kernel
  have loaded := ((load_exact names ∅).2.1 usable).1 nothing noFile
  exact ⟨names, usable,
    ⟨nothing, noFile, loaded, ((load_exact names ∅).2.2 repository ∅).1 _ loaded⟩,
    ⟨inFront, ((load_exact names blocked).2.1 usable).2.1 (.inr inFront)⟩,
    lies, ((((load_exact names stored).2.1 usable).2.2 octets lies).2.1 _).2 ⟨_, inverted, rfl⟩⟩

end Repository
end Stencil
