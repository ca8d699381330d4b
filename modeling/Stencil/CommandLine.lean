import Stencil.Resolver
import Stencil.Store.Repository
import Stencil.Text.Quoted

/-!
# The command line

The first argument is a template, each further argument assigns a value to a
name. The template is resolved with the stored settings. There is a warning for
settings that cannot be loaded, which the defaults stand in for, and for each
name of the template that no argument defines. Arguments of the wrong form end
the run before anything is read.
-/

namespace Stencil.CommandLine

/-- How the program is called. -/
def usage : Text :=
  "usage: topiclab-resolve <template> [name=value ...]".toList

/-- What is wrong with the arguments. -/
inductive Misuse
  | noTemplate
  | noAssignment (argument : Text)
  | invalidName (name : Text)
  deriving DecidableEq, Repr

/-- A call in the right form. -/
structure Call where
  template : Text
  vars : Variables

/-- What a run leaves behind. -/
structure Report where
  exitCode : Nat := 0
  output : Text := []
  warnings : List Text := []
  failure : Option Text := none
  deriving DecidableEq, Repr

/-- The text that a run fails with. -/
def Misuse.describe : Misuse → Text
  | .noTemplate => Quoted.quote usage
  | .noAssignment argument =>
    Quoted.quote
      ("expected name=value, got ".toList ++ Quoted.quote argument ++ '\n' :: usage)
  | .invalidName name => "InvalidVariableName(".toList ++ Quoted.quote name ++ [')']

/-- The variables after one more assignment. The value is all that follows the
first equals sign. -/
def assign (vars : Variables) (argument : Text) : Except Misuse Variables :=
  match argument.splitFirst? '=' with
  | none => .error (.noAssignment argument)
  | some (name, value) =>
    if Name.isValid name then .ok (vars.insert name value)
    else .error (.invalidName name)

/-- The variables that the arguments define. Of several assignments to a name the
last one counts. -/
def assignments (arguments : List Text) : Except Misuse Variables :=
  arguments.foldlM assign ∅

/-- The call that the arguments form. -/
def parse : List Text → Except Misuse Call
  | [] => .error .noTemplate
  | template :: rest => do
    return { template, vars := ← assignments rest }

/-- The warning about settings that could not be loaded. -/
def settingsWarning (cause : ReportedError) : Text :=
  "could not load settings, using defaults error=".toList ++ cause.message

/-- The warning about a name that no argument defines. -/
def missingWarning (name : Text) : Text :=
  "template references an undefined variable variable=".toList ++ name

/-- The settings in effect and the warnings about them. -/
def settingsOrDefaults : Except StoreError Settings → Settings × List Text
  | .ok settings => (settings, [])
  | .error cause => ({}, [settingsWarning cause.report])

/-- The warnings about a call under settings that gave some warnings already. -/
def warnings (settingsWarnings : List Text) (call : Call) : List Text :=
  settingsWarnings ++
    (Template.missingNames call.vars call.template).map missingWarning

/-- A call with the settings in effect and all warnings about it. -/
structure Task where
  call : Call
  settings : Settings
  warnings : List Text

/-- What is to be done for a call, where `found` is what lies at the place of the
settings file. -/
def prepare (found : Found) (call : Call) : Task :=
  let (settings, settingsWarnings) := settingsOrDefaults (Settings.ofFound found)
  { call, settings, warnings := warnings settingsWarnings call }

/-- The text that the template of the task stands for. -/
def Task.resolve (task : Task) (sources : Sources) : Eval Text :=
  (⟨sources, task.settings⟩ : Resolver).resolve task.call.vars task.call.template

/-- What is left behind once the template is resolved. A fault leaves nothing but
the warnings, which come first. -/
def Task.report (task : Task) : Except Fault Text → Report
  | .ok text => { output := text ++ ['\n'], warnings := task.warnings }
  | .error .wallClockOutsideCalendar => { exitCode := 101, warnings := task.warnings }

/-- What arguments of the wrong form leave behind. -/
def Misuse.report (misuse : Misuse) : Report :=
  { exitCode := 1, failure := some misuse.describe }

/-- A run with the arguments, where `found` is what lies at the place of the
settings file. -/
def run (sources : Sources) (found : Found) (arguments : List Text) : Eval Report :=
  match parse arguments with
  | .error misuse => return misuse.report
  | .ok call => do
    let task := prepare found call
    return task.report (.ok (← task.resolve sources))

/-- What a run leaves behind in any case, also if a fault stops it. -/
def conclude (sources : Sources) (found : Found) (arguments : List Text) (usage : Usage) :
    Report :=
  match parse arguments with
  | .error misuse => misuse.report
  | .ok call =>
    let task := prepare found call
    task.report ((task.resolve sources).outcome usage).1

end Stencil.CommandLine
