/-
# What commands can reach

A command reads files, fetches below a base, lists the ports of the machine,
asks the operator, uses ports through the system, and leaves notes in the
diagnostic log. Programs that get bytes below a base and programs on one port
are commands too, once it is said which base and which port they mean.

Key definitions: `ShellOp`, `Shell`, `Supply.below`, `Shell.detect`.
-/
import FlashStation.Image.Payload
import FlashStation.Place.Base
import FlashStation.Serial.Provider

namespace FlashStation

/-- What a command can do. -/
inductive ShellOp where
  /-- Whether a path leads to anything. -/
  | holds (path : String)
  /-- The bytes of a file. -/
  | read (path : String)
  /-- The bytes at a path below a base. -/
  | fetch (base : Base) (path : String)
  /-- The ports of the machine. -/
  | ports
  /-- The operator's pick of some items; the cursor is on one of them at first. -/
  | prompt (labels : List String) (start : Nat)
  /-- Use a port. -/
  | system (op : SystemOp)

/-- The answers to what a command does. -/
@[reducible] def ShellOp.Answer : ShellOp → Type
  | .holds _ => Bool
  | .read _ => Except ReadFault (List UInt8)
  | .fetch _ _ => Except FetchFault (List UInt8)
  | .ports => Except String (List PortInfo)
  | .prompt _ _ => Option Nat
  | .system op => op.Answer

/-- The operations of commands. -/
@[reducible] def Shell : Signature := ⟨ShellOp, ShellOp.Answer⟩

/-- Getting bytes below a base. -/
def Supply.below (base : Base) : (op : SupplyOp) → Program Shell op.Answer
  | .locate path => pure (base.locate path)
  | .fetch path => .perform (S := Shell) (.fetch base path)
  | .readLocal path => do
    pure ((← Program.perform (S := Shell) (.read path)).mapError (.io path))
  | .log variant message => .perform (S := Shell) (.system (.log variant message))
  | .note n => .perform (S := Shell) (.system (.note n))

namespace Shell

/-- Adds a note to the diagnostic log. -/
def note (level : Level) (topic : Topic) (message : String) : Program Shell Unit :=
  .perform (S := Shell) (.system (.note ⟨level, topic, message⟩))

/-- Adds an entry to the trail. -/
def log (variant : Variant) (message : String) : Program Shell Unit :=
  .perform (S := Shell) (.system (.log variant message))

/-- Runs a program that gets bytes below a base. -/
def below (base : Base) (p : Program Supply α) : Program Shell α :=
  p.embed (Supply.below base)

/-- Runs a program that uses ports. -/
def onSystem (p : Program System α) : Program Shell α :=
  p.embed fun op => .perform (S := Shell) (.system op)

/-- Notes a port that belongs to a USB device. -/
def noteFound (p : DetectedPort) : Program Shell Unit :=
  match p.info.vid with
  | none => pure ()
  | some vid =>
    let pid := p.info.pid.getD 0
    note .trace .devices (s!"Found USB port: {p.info.name} " ++
      s!"(VID: {Text.hexUpper 4 vid.toNat}, PID: {Text.hexUpper 4 pid.toNat}, Device: {p.kind.tag})")

/-- The ports that are found; none if they cannot be listed. -/
def detect : Program Shell (List DetectedPort) := do
  match ← Program.perform (S := Shell) .ports with
  | .error message => do
    note .debug .devices s!"Failed to enumerate serial ports: {message}"
    pure []
  | .ok infos => do
    let found := infos.map DetectedPort.ofInfo
    Program.each noteFound found
    pure found

end Shell

end FlashStation
