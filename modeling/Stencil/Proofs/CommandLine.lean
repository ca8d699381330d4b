import Stencil.CommandLine
import Stencil.Proofs.Resolver.Returns

/-!
# Runs of the command line

Whether a run fails is settled by its arguments alone, before the settings are looked at.
Settings that cannot be loaded cost one more warning and nothing else: the run goes on as it
does without a settings file. Main statement: `run_reports`.
-/

namespace Stencil.CommandLine

/-- The argument has an equals sign, with a valid name before the first one. -/
def IsAssignment (argument : Text) : Prop :=
  '=' ∈ argument ∧ Name.isValid (argument.takeWhile (· ≠ '='))

instance (argument : Text) : Decidable (IsAssignment argument) :=
  inferInstanceAs (Decidable (_ ∧ _))

/-- What an argument has before its first equals sign, and what is behind that sign. -/
def binding (argument : Text) : Text × Text :=
  (argument.takeWhile (· ≠ '='), (argument.dropWhile (· ≠ '=')).tail)

/-- The variables that assignments define. -/
def assigned (arguments : List Text) : Variables :=
  .ofList (arguments.map binding)

/-- An assignment defines its name, whatever is defined already. -/
theorem assign_of_isAssignment {argument : Text} (assigns : IsAssignment argument)
    (vars : Variables) :
    assign vars argument = .ok (vars.insert (binding argument).1 (binding argument).2) := by
  rw [assign, Text.splitFirst?_eq, if_pos assigns.1]
  exact if_pos assigns.2

/-- An argument that is no assignment is refused, whatever is defined already. -/
theorem assign_of_not_isAssignment {argument : Text} (other : ¬ IsAssignment argument)
    (vars : Variables) : ∃ misuse, assign vars argument = .error misuse := by
  rw [assign, Text.splitFirst?_eq]
  by_cases member : '=' ∈ argument
  · refine ⟨.invalidName (binding argument).1, ?_⟩
    rw [if_pos member]
    exact if_neg fun valid => other ⟨member, valid⟩
  · exact ⟨.noAssignment argument, by rw [if_neg member]⟩

/-- Assignments define their variables in order. -/
theorem assignments_eq_ok {arguments : List Text}
    (assign : ∀ argument ∈ arguments, IsAssignment argument) :
    assignments arguments = .ok (assigned arguments) := by
  rw [assignments, assigned, Variables.ofList]
  generalize (∅ : Variables) = vars
  induction arguments generalizing vars with
  | nil => rfl
  | cons argument rest ih =>
    rw [List.forall_mem_cons] at assign
    rw [List.foldlM_cons, assign_of_isAssignment assign.1]
    exact ih assign.2 _

/-- An argument that assigns nothing ends the run, whatever comes before it. -/
theorem exists_assignments_eq_error {arguments : List Text}
    (other : ∃ argument ∈ arguments, ¬ IsAssignment argument) :
    ∃ misuse, assignments arguments = .error misuse := by
  rw [assignments]
  generalize (∅ : Variables) = vars
  induction arguments generalizing vars with
  | nil => simp at other
  | cons argument rest ih =>
    rw [List.foldlM_cons]
    by_cases assigns : IsAssignment argument
    · have later : ∃ argument ∈ rest, ¬ IsAssignment argument := by simpa [assigns] using other
      rw [assign_of_isAssignment assigns]
      exact ih later _
    · obtain ⟨misuse, refused⟩ := assign_of_not_isAssignment assigns vars
      exact ⟨misuse, by rw [refused]; rfl⟩

/-- Without a template, or with an argument that assigns nothing, there is no call. -/
theorem exists_parse_eq_error {arguments : List Text}
    (misused : arguments = [] ∨ ∃ argument ∈ arguments.tail, ¬ IsAssignment argument) :
    ∃ misuse, parse arguments = .error misuse := by
  cases arguments with
  | nil => exact ⟨.noTemplate, rfl⟩
  | cons template rest =>
    have other : ∃ argument ∈ rest, ¬ IsAssignment argument := misused.resolve_left nofun
    obtain ⟨misuse, refused⟩ := exists_assignments_eq_error other
    exact ⟨misuse, by rw [parse, refused]; rfl⟩

/-- The resolver that a run uses, where `found` is what lies at the place of the settings
file. -/
def resolverOf (sources : Sources) (found : Found) : Resolver :=
  ⟨sources, (settingsOrDefaults (Settings.ofFound found)).1⟩

section Call

variable {template : Text} {rest : List Text}
  (assign : ∀ argument ∈ rest, IsAssignment argument) (sources : Sources)
include assign

/-- A template and assignments form a call. -/
theorem parse_cons :
    parse (template :: rest) = .ok { template, vars := assigned rest } := by
  rw [parse, assignments_eq_ok assign]
  rfl

/-- A run prints what the template stands for under the settings in effect. -/
theorem run_eq_map_resolve (found : Found) :
    run sources found (template :: rest) =
      (fun text => {
        output := text ++ ['\n']
        warnings := (settingsOrDefaults (Settings.ofFound found)).2 ++
          (Template.missingNames (assigned rest) template).map missingWarning }) <$>
      (resolverOf sources found).resolve (assigned rest) template := by
  rw [run, parse_cons assign]
  exact bind_pure_comp _ _

/-- What is left behind depends on whether the template is resolved, but the warnings do not. -/
theorem conclude_eq_report (found : Found) (usage : Usage) :
    conclude sources found (template :: rest) usage =
      (prepare found { template, vars := assigned rest }).report
        (((resolverOf sources found).resolve (assigned rest) template).outcome usage).1 := by
  rw [conclude, parse_cons assign]
  rfl

/-- A run of a call gives a report unless a time is stopped. -/
theorem returns_run_iff (found : Found) (usage : Usage) :
    (run sources found (template :: rest)).Returns usage ↔
      (resolverOf sources found).TimesReturn (assigned rest) template usage := by
  rw [run_eq_map_resolve assign, Eval.returns_map_iff, Resolver.returns_resolve_iff_timesReturn]

/-- What a run gives is what it leaves behind. -/
theorem conclude_eq_of_outcome_run {found : Found} {usage used : Usage} {report : Report}
    (done : (run sources found (template :: rest)).outcome usage = (.ok report, used)) :
    conclude sources found (template :: rest) usage = report := by
  have given := congrArg Prod.fst done
  rw [run_eq_map_resolve assign, Eval.outcome_map] at given
  rw [conclude_eq_report assign]
  generalize ((resolverOf sources found).resolve (assigned rest) template).outcome usage = outcome
    at given ⊢
  rcases outcome with ⟨_ | text, between⟩
  · cases given
  · exact Except.ok.inj given

/-- A run ends well exactly if no time is stopped. -/
theorem exitCode_conclude_eq_zero_iff (found : Found) (usage : Usage) :
    (conclude sources found (template :: rest) usage).exitCode = 0 ↔
      (resolverOf sources found).TimesReturn (assigned rest) template usage := by
  rw [conclude_eq_report assign, ← Resolver.returns_resolve_iff_timesReturn, Eval.returns_iff]
  generalize (((resolverOf sources found).resolve (assigned rest) template).outcome usage).1 =
    result
  cases result with
  | ok text => exact iff_of_true rfl ⟨text, rfl⟩
  | error fault =>
    cases fault
    exact iff_of_false (by simp [Task.report]) nofun

/-- A run that does not end well has printed its warnings and nothing else. -/
theorem conclude_eq_of_not_timesReturn {found : Found} {usage : Usage}
    (stopped : ¬ (resolverOf sources found).TimesReturn (assigned rest) template usage) :
    conclude sources found (template :: rest) usage = {
      exitCode := 101
      output := []
      warnings := (settingsOrDefaults (Settings.ofFound found)).2 ++
        (Template.missingNames (assigned rest) template).map missingWarning
      failure := none } := by
  rw [← Resolver.returns_resolve_iff_timesReturn, Eval.returns_iff] at stopped
  rw [conclude_eq_report assign]
  cases ended : (((resolverOf sources found).resolve (assigned rest) template).outcome usage).1 with
  | ok text => exact absurd ⟨text, ended⟩ stopped
  | error fault =>
    cases fault
    rfl

/-- On a host in UTC a run of a call ends well. -/
theorem exists_run_of_offsetAt_eq_zero (host : ∀ instant, sources.clock.offsetAt instant = 0)
    (inCalendar : ∀ count, (sources.clock.reading count).IsWithin 0) (found : Found)
    (usage : Usage) : ∃ report used,
      (run sources found (template :: rest)).outcome usage = (.ok report, used) ∧
        report.exitCode = 0 := by
  have timesReturn : (resolverOf sources found).TimesReturn (assigned rest) template usage :=
    Resolver.timesReturn_of_offsetAt_eq_zero _ host inCalendar template usage
  obtain ⟨report, used, done⟩ := (returns_run_iff assign sources found usage).2 timesReturn
  have left := conclude_eq_of_outcome_run assign sources done
  exact ⟨report, used, done,
    left ▸ (exitCode_conclude_eq_zero_iff assign sources found usage).2 timesReturn⟩

end Call

/-- A run without a template, or with a further argument that is no assignment, fails without
any output or warning and with a text that only its arguments determine. Any other run prints
what the template stands for and warns of each missing name. If settings cannot be loaded it is
the run without a settings file, with one warning in front of the others. It succeeds exactly if
no time is stopped; otherwise it leaves its warnings and no output. As long as the calendar
holds the readings and their wall clocks, a time is stopped by an offset that overruns the
calendar and by nothing else, which never happens on a host in UTC. -/
theorem run_reports (arguments : List Text) :
    ((arguments = [] ∨ ∃ argument ∈ arguments.tail, ¬ IsAssignment argument) →
      ∃ failure, ∀ sources found usage,
        (run sources found arguments).outcome usage =
          (.ok { exitCode := 1, output := [], warnings := [], failure := some failure },
            usage) ∧
        conclude sources found arguments usage =
          { exitCode := 1, output := [], warnings := [], failure := some failure }) ∧
    ∀ template rest, arguments = template :: rest →
      (∀ argument ∈ rest, IsAssignment argument) → ∀ sources,
      (∀ found settings, Settings.ofFound found = .ok settings →
        run sources found (template :: rest) =
          (fun text => {
            exitCode := 0
            output := text ++ ['\n']
            warnings := (Template.missingNames (assigned rest) template).map missingWarning
            failure := none }) <$>
          (⟨sources, settings⟩ : Resolver).resolve (assigned rest) template) ∧
      (∀ found cause, Settings.ofFound found = .error cause →
        run sources found (template :: rest) =
          (fun report => {
            report with warnings := settingsWarning cause.report :: report.warnings }) <$>
          run sources .nothing (template :: rest)) ∧
      (∀ found usage, let resolver : Resolver :=
          ⟨sources, (settingsOrDefaults (Settings.ofFound found)).1⟩
        (∀ report used,
          (run sources found (template :: rest)).outcome usage = (.ok report, used) →
            conclude sources found (template :: rest) usage = report) ∧
        ((conclude sources found (template :: rest) usage).exitCode = 0 ↔
          resolver.TimesReturn (assigned rest) template usage) ∧
        (¬ resolver.TimesReturn (assigned rest) template usage →
          conclude sources found (template :: rest) usage = {
            exitCode := 101
            output := []
            warnings := (settingsOrDefaults (Settings.ofFound found)).2 ++
              (Template.missingNames (assigned rest) template).map missingWarning
            failure := none }) ∧
        ((∀ count, sources.clock.CanShow (sources.clock.reading count)) →
          (resolver.TimesReturn (assigned rest) template usage ↔
            ∀ expression used,
              resolver.Evaluates (assigned rest) resolver.settings.passes template usage
                expression used → ¬ resolver.Overruns expression used))) ∧
      ((∀ instant, sources.clock.offsetAt instant = 0) →
        (∀ count, (sources.clock.reading count).IsWithin 0) →
          ∀ found usage, ∃ report used,
            (run sources found (template :: rest)).outcome usage = (.ok report, used) ∧
              report.exitCode = 0) := by
  refine ⟨fun misused => ?_, ?_⟩
  · obtain ⟨misuse, refused⟩ := exists_parse_eq_error misused
    refine ⟨misuse.describe, fun sources found usage => ⟨?_, ?_⟩⟩
    · rw [run, refused]
      rfl
    · rw [conclude, refused]
      rfl
  · rintro template rest rfl assign sources
    refine ⟨fun found settings loaded => ?_, fun found cause failed => ?_,
      fun found usage => ⟨fun report used => conclude_eq_of_outcome_run assign sources,
        exitCode_conclude_eq_zero_iff assign sources found usage,
        conclude_eq_of_not_timesReturn assign sources,
        fun shown => Resolver.timesReturn_iff_not_overruns ⟨sources, _⟩ shown⟩,
      exists_run_of_offsetAt_eq_zero assign sources⟩
    · rw [run_eq_map_resolve assign, resolverOf, loaded]
      rfl
    · rw [run_eq_map_resolve assign, run_eq_map_resolve assign, Functor.map_map, resolverOf, failed]
      rfl

/-- The last of two assignments to a name counts, another name is missing, and a directory in
the place of the settings file costs a warning. Without an equals sign behind the name the run
fails whatever is in that place. -/
theorem run_reports_unreadable :
    let sources := Sources.still ⟨0, 0⟩ {} 0
    let template : Text := "\x7ba\x7d/\x7bb\x7d".toList
    let rest := ["a=1".toList, "a=2".toList]
    (∃ report used,
      (run sources .directory (template :: rest)).outcome {} = (.ok report, used) ∧
        report.exitCode = 0) ∧
    (run sources .directory (template :: rest)).outcome {} =
      (.ok {
        output := "2/\x7bb\x7d\n".toList
        warnings := ["could not load settings, using defaults error=storage error: IO error".toList,
          "template references an undefined variable variable=b".toList] }, {}) ∧
    ∃ failure, ∀ sources found usage,
      (run sources found [template, "a".toList]).outcome usage =
        (.ok { exitCode := 1, failure := some failure }, usage) := by
  intro sources template rest
  have assign : ∀ argument ∈ rest, IsAssignment argument := by decide
  have inCalendar (count : Nat) : (sources.clock.reading count).IsWithin 0 := by
    have epoch : sources.clock.reading count = ⟨0, 0⟩ :=
      Clock.reading_ofTable_of_step_zero _ _ count
    rw [epoch]
    decide
  obtain ⟨-, failed, -, always⟩ :=
    (run_reports (template :: rest)).2 template rest rfl assign sources
  obtain ⟨failure, refused⟩ :=
    (run_reports [template, "a".toList]).1 (.inr ⟨_, .head _, by decide⟩)
  refine ⟨always (fun _ => rfl) inCalendar .directory {}, ?_,
    failure, fun sources found usage => (refused sources found usage).1⟩
  have unreadable : settingsWarning (.storage "IO error".toList) =
      "could not load settings, using defaults error=storage error: IO error".toList := by
    decide +kernel
  have missing : missingWarning ['b'] =
      "template references an undefined variable variable=b".toList := by decide +kernel
  rw [failed .directory .inaccessible rfl, ← unreadable, ← missing]
  rfl

/-- On a host one hour east of UTC an offset can lead to the last second of the calendar, which
no wall clock of that host shows. A run with it is stopped although its arguments are in order:
it does not end well, and it prints nothing. -/
theorem run_hostTime_stopped :
    let sources : Sources := ⟨.ofTable ⟨1718447445, 0⟩ 0 { initial := 3600 }, .ofDraws []⟩
    let template : Text := "\x7bnow:local:+8208548429354s\x7d/\x7bb\x7d".toList
    (∀ count, sources.clock.CanShow (sources.clock.reading count)) ∧
      ((run sources .nothing [template]).outcome {}).1 = .error .wallClockOutsideCalendar ∧
      conclude sources .nothing [template] {} = {
        exitCode := 101
        output := []
        warnings := ["template references an undefined variable variable=b".toList] } ∧
      ¬ ∃ text, (conclude sources .nothing [template] {}).exitCode = 0 ∧
        (conclude sources .nothing [template] {}).output = text ++ ['\n'] := by
  intro sources template
  have stands (count : Nat) : sources.clock.reading count = ⟨1718447445, 0⟩ :=
    Clock.reading_ofTable_of_step_zero _ _ count
  have missing : missingWarning ['b'] =
      "template references an undefined variable variable=b".toList := by decide +kernel
  have left : conclude sources .nothing [template] {} = {
      exitCode := 101
      output := []
      warnings := ["template references an undefined variable variable=b".toList] } := by
    rw [← missing]
    decide +kernel
  refine ⟨fun count => ?_, by rfl, left, ?_⟩
  · rw [stands]
    exact ⟨by decide, by decide⟩
  · rintro ⟨text, succeeded, -⟩
    rw [left] at succeeded
    cases succeeded

end Stencil.CommandLine
