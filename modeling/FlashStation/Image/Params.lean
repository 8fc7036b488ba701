/-
# Flash parameters

The size of the flash chip, the way it is accessed and its clock. Each is one
of a few values that an operator may choose, or a text that a catalog declares
and that is passed on as written. The value `keep`, which leaves alone what the
image says, is a choice of each.

A text means the choice whose spelling it is, blanks around it and the case of
letters ignored.

Key definitions: `Param`, `Param.choose`, `Param.ofManifest`, `Param.checkChoice`,
`FlashParams`.
-/
import FlashStation.Image.Fault
import FlashStation.Text.Blank
import FlashStation.Json.Value

namespace FlashStation

/-- A kind of parameter: what it is called, and the choices with their spellings. -/
class Choices (κ : Type) where
  /-- What the parameter is called in messages. -/
  title : String
  /-- All choices, `keep` first. -/
  all : List κ
  /-- How a choice is written. -/
  spelling : κ → String

/-- The sizes of the flash chip. -/
inductive SizeChoice where
  | keep | mb2 | mb4 | mb8 | mb16 | mb32
  deriving DecidableEq, Repr, Inhabited

/-- The ways to access the flash chip. -/
inductive ModeChoice where
  | keep | qio | qout | dio | dout
  deriving DecidableEq, Repr, Inhabited

/-- The clocks of the flash chip. -/
inductive FreqChoice where
  | keep | mhz40 | mhz80
  deriving DecidableEq, Repr, Inhabited

instance : Choices SizeChoice where
  title := "flash size"
  all := [.keep, .mb2, .mb4, .mb8, .mb16, .mb32]
  spelling
    | .keep => "keep"
    | .mb2 => "2MB"
    | .mb4 => "4MB"
    | .mb8 => "8MB"
    | .mb16 => "16MB"
    | .mb32 => "32MB"

instance : Choices ModeChoice where
  title := "flash mode"
  all := [.keep, .qio, .qout, .dio, .dout]
  spelling
    | .keep => "keep"
    | .qio => "qio"
    | .qout => "qout"
    | .dio => "dio"
    | .dout => "dout"

instance : Choices FreqChoice where
  title := "flash frequency"
  all := [.keep, .mhz40, .mhz80]
  spelling
    | .keep => "keep"
    | .mhz40 => "40m"
    | .mhz80 => "80m"

/-- A parameter's value. -/
inductive Param (κ : Type) where
  /-- A value that an operator may choose. -/
  | known (choice : κ)
  /-- A value as a catalog writes it. -/
  | other (value : String)
  deriving DecidableEq, Repr, Inhabited

namespace Param

variable {κ : Type} [Choices κ]

/-- How a value is written. -/
def text : Param κ → String
  | .known c => Choices.spelling c
  | .other v => v

/-- The choice that a text means, if it means one. -/
def choice? (s : String) : Option κ :=
  (Choices.all (κ := κ)).find? fun c => Text.equalFold (Choices.spelling c) (Text.trim s)

/-- The choice that an operator's text means. -/
def choose (s : String) : Except ChoiceFault (Param κ) :=
  match choice? s with
  | some c => .ok (.known c)
  | none => .error (.badParam (Choices.title κ) s)

/-- The value that a catalog's text means: a choice, or else the text without
the blanks around it. -/
def ofManifest (s : String) : Param κ :=
  match choice? s with
  | some c => .known c
  | none => .other (Text.trim s)

/-- Refuses a value that an operator could not have chosen. -/
def checkChoice : Param κ → Except ChoiceFault Unit
  | .known _ => .ok ()
  | .other v => .error (.badParam (Choices.title κ) v)

/-- A value's JSON form is its text. -/
def toJson (p : Param κ) : Json :=
  .str p.text

/-- Reads a value's JSON form. A text that spells no choice to the letter is
another value; an object with the one member `null` names a choice. -/
def ofJson? : Json → Option (Param κ)
  | .str s =>
    match (Choices.all (κ := κ)).find? fun c => Choices.spelling c == s with
    | some c => some (.known c)
    | none => some (.other s)
  | .obj [(k, .null)] =>
    ((Choices.all (κ := κ)).find? fun c => Choices.spelling c == k).map .known
  | _ => none

end Param

/-- The parameters of a flash. -/
structure FlashParams where
  /-- The size of the flash chip. -/
  size : Param SizeChoice
  /-- The way it is accessed. -/
  mode : Param ModeChoice
  /-- Its clock. -/
  freq : Param FreqChoice
  /-- Whether the whole chip is erased first. -/
  eraseAll : Bool
  deriving DecidableEq, Repr, Inhabited

namespace FlashParams

/-- Leave everything as the image says, and erase only what is written. -/
def keep : FlashParams :=
  ⟨.known .keep, .known .keep, .known .keep, false⟩

/-- Refuses parameters that an operator could not have chosen; the first of
size, mode and clock is reported. -/
def checkChoices (p : FlashParams) : Except ChoiceFault Unit := do
  p.size.checkChoice
  p.mode.checkChoice
  p.freq.checkChoice

end FlashParams

end FlashStation
