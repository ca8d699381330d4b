import Std.Time.Zoned.Database
import Stencil.CommandLine

/-!
# The program

Gives the command line its clock, its random numbers and its settings file.
-/

namespace Stencil.Program

/-- The instant of a time of the system. -/
def instantOf (timestamp : Std.Time.Timestamp) : Instant :=
  let nanos := timestamp.toNanosecondsSinceUnixEpoch.val
  ⟨nanos / nanosPerSecond, (nanos % nanosPerSecond).toNat⟩

/-- The offsets of the zone of the system, or those of UTC if it has none. -/
def systemZone : IO (Instant → Int) := do
  let rules ← try some <$> Std.Time.Database.defaultGetLocalZoneRules catch _ => pure none
  return fun instant =>
    match rules with
    | some rules =>
      let timestamp := Std.Time.Timestamp.ofSecondsSinceUnixEpoch (.ofInt instant.seconds)
      (rules.timezoneAt timestamp).offset.second.val
    | none => 0

/-- A draw that no simple rule leads to from the draws before it. -/
def scramble (seed : UInt64) (position : Nat) : UInt64 :=
  let z := seed + 0x9e3779b97f4a7c15 * (.ofNat position + 1)
  let z := (z ^^^ (z >>> 30)) * 0xbf58476d1ce4e5b9
  let z := (z ^^^ (z >>> 27)) * 0x94d049bb133111eb
  z ^^^ (z >>> 31)

/-- Random numbers seeded by the system. -/
def systemRandom : IO RandomSource := do
  let seed ← IO.getRandomBytes 8
  return .ofStream (scramble (seed.toList.foldl (fun n octet => n * 256 + octet.toUInt64) 0))

/-- A clock that shows the readings one after the other. -/
def clockOf (offsetAt : Instant → Int) (readings : Array Instant) : Clock where
  reading count := readings.getD count ⟨0, 0⟩
  offsetAt := offsetAt

/-- Evaluates with the clock of the system, which is read anew for each reading. How
many readings are asked for shows only in the evaluation, so it is repeated until those
taken so far are enough. -/
def evaluate (offsetAt : Instant → Int) (random : RandomSource)
    (evaluation : Sources → Eval Text) : IO (Except Fault Text) := do
  let mut readings := #[]
  let mut outcome := (evaluation { clock := clockOf offsetAt readings, random }).outcome {}
  while readings.size < outcome.2.readings do
    for _ in [readings.size:outcome.2.readings] do
      readings := readings.push (instantOf (← Std.Time.Timestamp.now))
    outcome := (evaluation { clock := clockOf offsetAt readings, random }).outcome {}
  return outcome.1

/-- The directory for configuration below the home directory. -/
def homeConfiguration : IO (Option String) := do
  return (← IO.getEnv "HOME").map (· ++ "/.config")

/-- The directory for configuration. A relative one in the environment does not
count. -/
def configuration : IO (Option String) := do
  match ← IO.getEnv "XDG_CONFIG_HOME" with
  | some directory =>
    if directory.startsWith "/" then return some directory else homeConfiguration
  | none => homeConfiguration

/-- The place of the settings file: the one that the environment names, or else
the one in the directory for configuration. -/
def settingsPlace : IO (Option String) := do
  match ← IO.getEnv "TOPICLAB_SETTINGS" with
  | some place => return some place
  | none => return (← configuration).map (· ++ "/topiclab/resolver.json")

/-- What lies at the place of the settings file. -/
def lookAt : Option String → IO Found
  | none => return .nothing
  | some place => do
    try
      return .file (← IO.FS.readBinFile place).toList
    catch
      | .noFileOrDirectory .. => return .nothing
      | _ => return .barred

/-- Prints the output of a run or its failure, and gives its exit code. The warnings
are printed before. -/
def finish (report : CommandLine.Report) : IO UInt32 := do
  IO.print (String.ofList report.output)
  if let some failure := report.failure then
    IO.eprintln (String.ofList ("Error: ".toList ++ failure))
  return .ofNat report.exitCode

end Stencil.Program

open Stencil

/-- Runs the command line. -/
def main (arguments : List String) : IO UInt32 := do
  match CommandLine.parse (arguments.map String.toList) with
  | .error misuse => Program.finish misuse.report
  | .ok call =>
    let task := CommandLine.prepare (← Program.lookAt (← Program.settingsPlace)) call
    for warning in task.warnings do
      IO.eprintln (String.ofList (" WARN ".toList ++ warning))
    let result ← Program.evaluate (← Program.systemZone) (← Program.systemRandom) task.resolve
    if let .error .wallClockOutsideCalendar := result then
      IO.eprintln "the wall clock lies outside the calendar"
    Program.finish (task.report result)
