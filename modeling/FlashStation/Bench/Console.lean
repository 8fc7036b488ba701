/-
# Commands on a made-up machine

A command is run with a made-up disk and made-up ports, and with keys that were
typed ahead if there is a terminal. What it writes is gathered; of the standard
error only what follows the last prompt.

Key definitions: `Console`, `Console.serve`, `Transcript`, `Console.run`.
-/
import FlashStation.Bench.Machine
import FlashStation.Place.Web
import FlashStation.Shell.Run

namespace FlashStation.Bench

/-- A terminal: its columns and the keys that were typed. -/
structure Screen where
  /-- The columns; a terminal that does not know them says zero. -/
  width : Nat
  /-- The keys. -/
  keys : List Key
  deriving DecidableEq, Repr, Inhabited

/-- The columns of a terminal that does not know them. -/
def usualColumns : Nat := 80

/-- The columns of a terminal. -/
def Screen.columns (s : Screen) : Nat :=
  if s.width = 0 then usualColumns else s.width

/-- What a command runs on, and what it has written. -/
structure Console where
  /-- The files. -/
  disk : Disk
  /-- The ports that are found; none if they cannot be listed. -/
  found : Option (List DetectedPort)
  /-- The devices. -/
  machine : Machine
  /-- The terminal. -/
  screen : Option Screen
  /-- How the log is shown. -/
  style : LogStyle
  /-- What is on the standard error. -/
  err : String
  /-- The lines of the menu, if there was a prompt. -/
  menu : Option (List String)
  deriving Repr, Inhabited

namespace Console

/-- The mark of the moment at which something is fetched. -/
def stamp : String := "<ms>"

/-- Shows a note, if it is to be shown. -/
def record (c : Console) (n : Note) : Console :=
  { c with err := c.err ++ c.style.render n }

/-- Answers what a command does. -/
def serve : (op : ShellOp) → Console → op.Answer × Console
  | .holds path, c => (c.disk.holds path, c)
  | .read path, c => (c.disk.read path, c)
  | .fetch base path, c => ((base.fetch stamp c.disk .unreachable path).1, c)
  | .ports, c =>
    (match c.found with
      | none => .error "Cannot allocate memory"
      | some found => .ok (found.map (·.info)), c)
  | .prompt labels start, c =>
    let menu := Menu.open labels.length start
    ((c.screen.map (·.keys)).bind menu.answer,
      { c with err := "", menu := some (menu.lines labels) })
  | .system op, c =>
    let (answer, machine) := c.machine.serve op
    let c := { c with machine }
    (answer,
      match op with
      | .log variant message => c.record (Note.ofEntry variant message)
      | .note n => c.record n
      | _ => c)

end Console

/-- What came of a command line. -/
inductive Transcript where
  /-- Help is shown. -/
  | help
  /-- It is shown how a command line is made. -/
  | misuse
  /-- The program ends, after a menu was shown if there was a prompt. -/
  | ran (ending : Ending) (menu : Option (List String))
  deriving DecidableEq, Repr, Inhabited

/-- What came of a command line on a made-up machine. -/
def Console.run (disk : Disk) (found : Option (List DetectedPort)) (machine : Machine)
    (screen : Option Screen) (env : Environment) (words : List String) : Transcript :=
  match CommandLine.read env words with
  | .help _ => .help
  | .misuse => .misuse
  | .version command => .ran ⟨0, versionLine command, ""⟩ none
  | .run i =>
    let (style, warnings) := i.log env
    let console : Console := ⟨disk, found, machine, screen, style, warnings, none⟩
    let (result, c) := (i.run env (screen.map (·.columns))).run serve console
    let ending := Ending.ofResult result
    .ran { ending with err := c.err ++ ending.err } c.menu

end FlashStation.Bench
