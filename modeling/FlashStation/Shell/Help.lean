/-
# Help

What the program says of itself, of each command, and of a command line that makes
no sense.

Key definitions: `helpText`, `misuseText`.
-/
import FlashStation.Shell.Arguments

namespace FlashStation

/-- What a command does. -/
def CommandName.about : CommandName → String
  | .listPorts => "List available serial ports"
  | .catalog => "List the packages of the firmware catalog"
  | .plan => "Resolve and fetch a payload without touching a device"
  | .reclaim => "Release leftover stream locks on a serial port and close it"

/-- What an option is for. -/
def Switch.about : Switch → String
  | .port => "Serial port to use (chosen interactively if not specified)"
  | .catalog => "Firmware catalog base URL or directory"
  | .verbose => "Verbose output level (-v, -vv for increasing detail)"
  | .quiet => "Quiet mode (suppress non-essential output)"
  | .nonInteractive => "Non-interactive mode (fail instead of prompting)"
  | .config => "Path to a configuration file"
  | .json => "Output JSON to stdout"
  | .all => "Include ports outside the vendor allow-list"
  | .package => "Catalog package id"
  | .file => "Local firmware binary"
  | .address => "Flash address of the local binary (hex with 0x, or decimal)"
  | .flashSize => "Flash size passed to the loader"
  | .flashMode => "Flash mode passed to the loader"
  | .flashFreq => "Flash frequency passed to the loader"
  | .eraseAll => "Erase the whole chip before writing"
  | .help => "Print help"
  | .version => "Print version"

/-- An option as it is written. -/
def Switch.usage (s : Switch) : String :=
  let short := (s.short?.map fun c => "-" ++ String.singleton c ++ ", ").getD "    "
  let value := if s.hasValue then " <VALUE>" else ""
  s!"  {short}--{s.long}{value}"

/-- A text, and behind it another that begins at a column. -/
def besideColumn (column : Nat) (left right : String) : String :=
  left ++ String.ofList (List.replicate (column - left.length) ' ') ++ " " ++ right

/-- The lines on some options. -/
def optionLines (switches : List Switch) : List String :=
  "Options:" :: switches.map fun s => besideColumn 30 s.usage s.about

/-- The line that says how a command line is made. -/
def usageLine : Option CommandName → String
  | none => "Usage: m4gflash [OPTIONS] <COMMAND>"
  | some name => s!"Usage: m4gflash {name.word} [OPTIONS]"

/-- The help on the program or on a command. -/
def helpText (command : Option CommandName) : String :=
  let lines : List String :=
    match command with
    | none =>
      ["Serial bootloader flashing front-end", "", usageLine none, "", "Commands:"] ++
        CommandName.all.map (fun name => besideColumn 14 s!"  {name.word}" name.about) ++
        "" :: optionLines Switch.shared
    | some name =>
      [name.about, "", usageLine (some name), ""] ++ optionLines (Switch.ofCommand name)
  String.join (lines.map (· ++ "\n"))

/-- What is said of a command line that makes no sense. -/
def misuseText : String :=
  s!"error: invalid arguments\n\n{usageLine none}\n\nFor more information, try '--help'.\n"

end FlashStation
