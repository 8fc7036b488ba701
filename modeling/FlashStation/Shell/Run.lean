/-
# Running a command

What the operator wants decides together with the settings which base and which
port are meant; then the command runs. The diagnostic log shows as much as was
asked for, unless the environment has a filter of its own.

Key definitions: `Invocation.run`, `Invocation.log`, `Surroundings`, `Ending`.
-/
import FlashStation.Shell.Images
import FlashStation.Shell.Log
import FlashStation.Shell.Ports

namespace FlashStation

/-- The program's name. -/
def programName : String := "m4gflash"

/-- The program's version. -/
def programVersion : String := "0.2.0"

/-- The line that tells the version, of the program or as a command tells it. -/
def versionLine (command : Option CommandName) : String :=
  let name := (command.map fun c => s!"{programName}-{c.word}").getD programName
  s!"{name} {programVersion}\n"

/-- The base of the catalog if nothing names one. -/
def defaultBase : String := "public"

/-- How the diagnostic log is shown. -/
structure LogStyle where
  /-- Which notes are shown. -/
  filter : LogFilter
  /-- Whether their topics are shown. -/
  withTopic : Bool
  /-- Whether they are shown in colors. -/
  colored : Bool
  deriving DecidableEq, Repr, Inhabited

/-- What appears of a note. -/
def LogStyle.render (style : LogStyle) (n : Note) : String :=
  if !style.filter.shows n then ""
  else if style.colored then n.colored style.withTopic
  else n.plain style.withTopic

namespace Invocation

/-- The last level that is shown. -/
def level (i : Invocation) : Level :=
  if i.quiet then .warn
  else
    match i.verbosity with
    | 0 => .info
    | 1 => .debug
    | _ => .trace

/-- How the diagnostic log is shown, and what is said of that which its filter had to
leave out. -/
def log (i : Invocation) (env : Environment) : LogStyle × String :=
  let (filter, faults) :=
    match env.logFilter with
    | none => (LogFilter.upTo i.level, [])
    | some spec => LogFilter.read spec
  (⟨filter, 2 ≤ i.verbosity, env.wantsColor⟩,
    String.join (faults.map fun fault => s!"warning: {fault}, ignoring it\n"))

/-- The base of the catalog that holds. -/
def base (i : Invocation) (settings : Settings) : String :=
  (i.catalog.or settings.base).getD defaultBase

/-- The port that is wanted. `screen` is given if an operator can be asked. -/
def portWish (i : Invocation) (settings : Settings) (screen : Option Nat) : PortWish where
  port := i.port.or settings.port
  screen := if i.nonInteractive then none else screen

/-- Runs the command under settings. -/
def runWith (i : Invocation) (screen : Option Nat) (settings : Settings) :
    Program Shell (Except CommandFault Report) :=
  match i.command with
  | .listPorts json all => do pure (.ok (← listPorts settings json all))
  | .catalog json => listPackages (i.base settings) json
  | .plan source json => plan (i.base settings) source json i.quiet
  | .reclaim => reclaimPort settings (i.portWish settings screen)

/-- Runs the command. -/
def run (i : Invocation) (env : Environment) (screen : Option Nat) :
    Program Shell (Except CommandFault Report) := do
  Shell.note .debug .program
    s!"{programName} v{programVersion} (verbose level: {Text.decimal i.verbosity})"
  i.runWith screen (← Settings.load i.config (Settings.globalPath env.configHome env.home))

end Invocation

/-- How a command ends: its exit code and what it leaves at the end on the standard
output and the standard error. -/
structure Ending where
  /-- The exit code. -/
  code : Nat
  /-- What goes to the standard output. -/
  out : String
  /-- What goes to the standard error. -/
  err : String
  deriving DecidableEq, Repr, Inhabited

/-- The ending of a command. -/
def Ending.ofResult : Except CommandFault Report → Ending
  | .ok report => ⟨0, report.out, report.err⟩
  | .error fault => ⟨fault.exitCode, "", fault.line ++ "\n"⟩

end FlashStation
