/-
# What patterns mean

The flags that hold at a part of a pattern decide which texts fit it. Beyond ASCII
nothing is known of characters but their numbers: neither their case nor their classes
or properties, so a pattern that asks for these is refused. If bytes are meant and not
characters, only what is of ASCII is sure to be text.

Key definitions: `Pattern.Flags`, `Pattern.Tree.shape`, `Pattern.Refusal`,
`Pattern.Shape.read`.
-/
import FlashStation.Pattern.Reader
import FlashStation.Pattern.Shape

namespace FlashStation.Pattern

/-- The flags that hold at a part of a pattern. -/
structure Flags where
  /-- Whether capital and small letters are the same. -/
  anyCase : Bool
  /-- Whether lines have borders of their own. -/
  byLine : Bool
  /-- Whether a point stands for line ends, too. -/
  anyChar : Bool
  /-- Whether characters are meant and not bytes. -/
  characters : Bool
  /-- Whether a carriage return is part of a line end. -/
  carriage : Bool
  deriving DecidableEq, Repr, Inhabited

namespace Flags

/-- The flags at the start of a pattern. -/
def start : Flags := ⟨false, false, false, true, false⟩

/-- Turns a flag on or off. -/
def put (f : Flags) (item : FlagItem) : Flags :=
  match item.flag with
  | .anyCase => { f with anyCase := item.isOn }
  | .byLine => { f with byLine := item.isOn }
  | .anyChar => { f with anyChar := item.isOn }
  | .characters => { f with characters := item.isOn }
  | .carriage => { f with carriage := item.isOn }
  | .short | .spaced => f

end Flags

/-! ### Sets -/

/-- A fault of a part of a pattern. -/
def refuse (cause : Cause) (extent : Extent) : Except Fault α :=
  .error ⟨cause, extent, none⟩

/-- A set with the letters that differ by their case only, if case does not matter. -/
def folded (f : Flags) (extent : Extent) (s : CharSet) : Except Fault CharSet :=
  if !f.anyCase || s.ranges.isEmpty then .ok s
  else if f.characters then refuse .asciiCaseOnly extent
  else .ok s.anyCase

/-- A set or its opposite, after case. A set of bytes must be of ASCII. -/
def closed (f : Flags) (extent : Extent) (isNegated : Bool) (s : CharSet) :
    Except Fault CharSet := do
  let s ← folded f extent s
  let s := if isNegated then s.complement else s
  if !f.characters && !s.isAscii then refuse .noText extent else return s

/-- The character that is written, if it is one where bytes are meant. -/
def Written.plain (f : Flags) (c : Written) : Except Fault Char :=
  if !f.characters && c.isByte && 0x80 ≤ c.char.toNat then refuse .noText c.extent else .ok c.char

/-- The character that is written in a set. -/
def Written.member (f : Flags) (c : Written) : Except Fault Char := do
  let x ← c.plain f
  if !f.characters && 0x80 ≤ x.toNat then refuse .notForBytes c.extent else return x

/-- The name of a property in plain letters: without blanks, minus signs, underscores and
a leading `is`. -/
def plainName (name : String) : String :=
  let s := name.toList
  let s := if (s.take 2).map Text.foldCase = ['i', 's'] then s.drop 2 else s
  String.ofList ((s.filter fun c => c.toNat < 0x80 && c != ' ' && c != '_' && c != '-').map
    Text.foldCase)

/-- Names of values that are looked up before any property. -/
def valueNames : List String := ["cf", "sc", "lc"]

/-- Why the characters with a property are not known. -/
def Property.cause (p : Property) : Cause :=
  if !p.hasValue && valueNames.contains (plainName p.name) then .unknownValue else .unknownProperty

/-- The characters of a class with a letter of its own. -/
def shortSet (f : Flags) (extent : Extent) (kind : NamedClass) (isNegated : Bool) :
    Except Fault CharSet :=
  if f.characters then refuse .asciiClassOnly extent
  else if isNegated then refuse .noText extent
  else .ok kind.set

/-- The characters with a property. -/
def propertySet (f : Flags) (extent : Extent) (p : Property) : Except Fault CharSet :=
  refuse (if f.characters then p.cause else .notForBytes) extent

/-- Puts two sets together. -/
def SetOp.apply (op : SetOp) (a b : CharSet) : CharSet :=
  match op with
  | .inter => a.inter b
  | .diff => a.diff b
  | .symmDiff => a.symmDiff b

mutual

/-- The characters of a set. -/
def SetTree.set (f : Flags) : SetTree → Except Fault CharSet
  | .nothing _ => .ok .empty
  | .char c => CharSet.single <$> c.member f
  | .range _ first last => do
    let low ← first.member f
    let high ← last.member f
    return .ofRanges [(low.toNat, high.toNat)]
  | .named e kind isNegated => closed f e isNegated kind.set
  | .short e kind isNegated => shortSet f e kind isNegated
  | .property e p => propertySet f e p
  | .bracket e isNegated inner => do closed f e isNegated (← inner.set f)
  | .union _ items => SetTree.unionSet f items
  | .both _ op left right => do
    let a ← left.set f
    let b ← right.set f
    let b ← folded f right.extent b
    let a ← folded f left.extent a
    return op.apply a b

/-- The characters of some sets. -/
def SetTree.unionSet (f : Flags) : List SetTree → Except Fault CharSet
  | [] => .ok .empty
  | s :: rest => do
    let a ← s.set f
    let b ← SetTree.unionSet f rest
    return a.union b

end

/-! ### Parts -/

/-- Everything but some line ends. -/
def Flags.point (f : Flags) : CharSet :=
  if f.anyChar then .full
  else if f.carriage then (CharSet.ofRanges [(0x0A, 0x0A), (0x0D, 0x0D)]).complement
  else (CharSet.single '\n').complement

/-- What a border asks for. -/
def Flags.spot (f : Flags) : Border → Spot
  | .lineStart =>
    if f.byLine then (if f.carriage then .carriageStart else .lineStart) else .textStart
  | .lineEnd => if f.byLine then (if f.carriage then .carriageEnd else .lineEnd) else .textEnd
  | .textStart => .textStart
  | .textEnd => .textEnd
  | .word b => .word b (!f.characters)

/-- A character by itself. Where bytes are meant, only letters of ASCII have a case. -/
def Written.shape (f : Flags) (c : Written) : Except Fault Shape := do
  let x ← c.plain f
  let s ← folded f c.extent (.single x)
  return .one s

mutual

/-- The texts that fit a part of a pattern, and the flags behind it. -/
def Tree.shape (f : Flags) : Tree → Except Fault (Shape × Flags)
  | .nothing _ => .ok (.nothing, f)
  | .flags _ items => .ok (.nothing, items.foldl Flags.put f)
  | .char c => do return (← c.shape f, f)
  | .point e => if f.characters then .ok (.one f.point, f) else refuse .noText e
  | .border _ b => .ok (.spot (f.spot b), f)
  | .set s => do return (.one (← s.set f), f)
  | .repetition _ least most inner => do
    let (s, g) ← inner.shape f
    return (s.repeated least most, g)
  | .group _ isNumbered items inner => do
    let (s, _) ← inner.shape (items.foldl Flags.put f)
    return (if isNumbered then .numbered s else s, f)
  | .either _ branches => Tree.shapeOfOne f branches
  | .sequence _ parts => Tree.shapeOfAll f parts

/-- The texts that fit one of several branches. Flags hold for the branches behind, too. -/
def Tree.shapeOfOne (f : Flags) : List Tree → Except Fault (Shape × Flags)
  | [] => .ok (.nothing, f)
  | [t] => t.shape f
  | t :: rest => do
    let (a, f) ← t.shape f
    let (b, f) ← Tree.shapeOfOne f rest
    return (.either a b, f)

/-- The texts that fit several parts, one behind the other. -/
def Tree.shapeOfAll (f : Flags) : List Tree → Except Fault (Shape × Flags)
  | [] => .ok (.nothing, f)
  | [t] => t.shape f
  | t :: rest => do
    let (a, f) ← t.shape f
    let (b, f) ← Tree.shapeOfAll f rest
    return (.both a b, f)

end

/-! ### Patterns -/

/-- Why a pattern is refused. -/
inductive Refusal where
  /-- A part makes no sense. -/
  | fault (f : Fault)
  /-- The pattern is too large. -/
  | tooLarge
  /-- Words are asked for that have other characters than those of ASCII. -/
  | wideWords
  deriving DecidableEq, Repr, Inhabited

/-- What is said of a refusal of a pattern. -/
def Refusal.text (pattern : String) : Refusal → String
  | .fault f => f.text pattern
  | .tooLarge =>
    s!"Compiled regex exceeds size limit of {Text.decimal Shape.sizeLimit} bytes."
  | .wideWords => "error building NFA"

/-- Reads a pattern, and says which texts fit it. -/
def Shape.read (pattern : String) : Except Refusal Shape :=
  match Tree.read pattern >>= Tree.shape .start with
  | .error f => .error (.fault f)
  | .ok (s, _) =>
    if sizeLimit < s.size then .error .tooLarge
    else if s.hasWideWords then .error .wideWords
    else .ok s

end FlashStation.Pattern
