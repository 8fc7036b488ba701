/-
# Notes for the diagnostic log

Besides the trail there is a diagnostic log. A note in it has a level and a
topic, which is the part of the program it comes from; entries of the trail
appear in it under a topic of their own.

Key definitions: `Level`, `Topic`, `Note`, `Note.ofEntry`.
-/
import FlashStation.Trail

namespace FlashStation

/-- Levels of notes, the most severe first. -/
inductive Level where
  | error | warn | info | debug | trace
  deriving DecidableEq, Repr, Inhabited

namespace Level

/-- How talkative a level is. -/
def rank : Level → Nat
  | .error => 1
  | .warn => 2
  | .info => 3
  | .debug => 4
  | .trace => 5

/-- A level's name. -/
def text : Level → String
  | .error => "ERROR"
  | .warn => "WARN"
  | .info => "INFO"
  | .debug => "DEBUG"
  | .trace => "TRACE"

end Level

/-- The parts of the program that notes come from. -/
inductive Topic where
  /-- The program as a whole. -/
  | program
  /-- The settings in files. -/
  | settings
  /-- Finding ports. -/
  | devices
  /-- Selecting a port. -/
  | selection
  /-- A port of the machine. -/
  | nativePort
  /-- Bringing a port back to the closed state. -/
  | reclaim
  /-- The catalog. -/
  | catalog
  /-- The trail. -/
  | trail
  deriving DecidableEq, Repr, Inhabited

/-- A topic's name. -/
def Topic.text : Topic → String
  | .program => "m4gflash"
  | .settings => "m4gflash::config"
  | .devices => "m4gflash::device"
  | .selection => "m4gflash::serial"
  | .nativePort => "m4gflash::port::native"
  | .reclaim => "m4gflash::reclaim"
  | .catalog => "m4gflash::firmware::catalog"
  | .trail => "m4gflash::trail"

/-- A note for the diagnostic log. -/
structure Note where
  /-- How severe it is. -/
  level : Level
  /-- The part of the program it comes from. -/
  topic : Topic
  /-- Its text. -/
  message : String
  deriving DecidableEq, Repr, Inhabited

/-- The level at which an entry of the trail appears in the log. -/
def Variant.level : Variant → Level
  | .error => .error
  | .info | .success => .info
  | .trace => .trace

/-- The note of an entry of the trail. -/
def Note.ofEntry (variant : Variant) (message : String) : Note :=
  ⟨variant.level, .trail, message⟩

end FlashStation
