/-
# The program

The command line of the station. Files are those of the machine; a serial port is
reached through whatever the system offers, and here it offers none.

Key definitions: `main`.
-/
import FlashStation.Shell.Help
import FlashStation.Shell.Run

namespace FlashStation

/-- The system's fault of reading a file. -/
def readFault : IO.Error → ReadFault
  | .noFileOrDirectory _ _ _ => PathFault.absent.reading
  | fault => .other (toString fault)

/-- The bytes of a file of the machine. -/
def readDisk (path : String) : IO (Except ReadFault (List UInt8)) := do
  try
    let bytes ← IO.FS.readBinFile path
    pure (.ok bytes.toList)
  catch fault => pure (.error (readFault fault))

/-- Shows a note on the standard error, if it is to be shown. -/
def showNote (style : LogStyle) (n : Note) : IO Unit :=
  IO.eprint (style.render n)

/-- Answers what is asked of ports, of which there are none. -/
def serveSystem (style : LogStyle) : (op : SystemOp) → IO op.Answer
  | .openDevice _ _ _ | .clone _ => pure (.error PathFault.absent.text)
  | .setBaud _ _ | .flush _ => pure (.error "Bad file descriptor")
  | .read _ _ => pure (.error .timedOut)
  | .write _ _ => pure (.error .timedOut)
  | .drop _ => pure ()
  | .sleep ms => IO.sleep (UInt32.ofNat ms)
  | .log variant message => showNote style (Note.ofEntry variant message)
  | .note n => showNote style n

/-- Answers what a command does. -/
def serveShell (style : LogStyle) : (op : ShellOp) → IO op.Answer
  | .holds path => do
    match ← readDisk path with
    | .error (.notFound _) => pure false
    | _ => pure true
  | .read path => readDisk path
  | .fetch base path =>
    match base.find path with
    | .error fault => pure (.error fault)
    | .ok (.file file) => do pure ((← readDisk file).mapError (.io file))
    | .ok (.resource _) => pure (.error (.http (base.locate path)))
  | .ports => pure (.ok [])
  | .prompt _ _ => pure none
  | .system op => serveSystem style op

/-- Runs a command line and gives the exit code. -/
def runWords (words : List String) : IO UInt32 := do
  let env ← Environment.lookup fun name => IO.getEnv name
  match CommandLine.read env words with
  | .help command =>
    IO.print (helpText command)
    pure 0
  | .version command =>
    IO.print (versionLine command)
    pure 0
  | .misuse =>
    IO.eprint misuseText
    pure (UInt32.ofNat CommandFault.misuseCode)
  | .run i =>
    let (style, warnings) := i.log env
    IO.eprint warnings
    let ending := Ending.ofResult (← (i.run env none).interpret (serveShell style))
    IO.print ending.out
    IO.eprint ending.err
    pure (UInt32.ofNat ending.code)

end FlashStation

/-- The program. -/
def main (words : List String) : IO UInt32 :=
  FlashStation.runWords words
