/-
# Reading patterns

A pattern is a list of branches separated by bars. A branch is a sequence of parts,
each of which may be repeated: a character, an escape, a set in brackets, or a pattern
in parentheses. Flags in parentheses hold up to the end of the group they stand in.

Key definitions: `Pattern.Frame`, `Pattern.Parts`, `Pattern.Reader.pattern`,
`Pattern.Tree.read`.
-/
import FlashStation.Pattern.Brackets
import FlashStation.Text.Letter

namespace FlashStation.Pattern

/-- The parts of a branch so far. -/
structure Parts where
  /-- Where the branch begins. -/
  start : Place
  /-- The parts, the last first. -/
  done : List Tree

namespace Parts

/-- One more part. -/
def push (l : Parts) (t : Tree) : Parts := { l with done := t :: l.done }

/-- The branch, which ends at a place. -/
def tree (l : Parts) (stop : Place) : Tree :=
  match l.done with
  | [] => .nothing ⟨l.start, stop⟩
  | [t] => t
  | ts => .sequence ⟨l.start, stop⟩ ts.reverse

end Parts

/-- What is begun and not ended. -/
inductive Frame where
  /-- A group, what stands in front of it, and whether blanks meant nothing there. -/
  | group (before : Parts) (opening : Extent) (isNumbered : Bool) (items : List FlagItem)
      (wasSpaced : Bool)
  /-- Branches, the last first. -/
  | branches (start : Place) (done : List Tree)

/-- Ends a branch because another one follows. -/
def endBranch (frames : List Frame) (parts : Parts) (stop : Place) : List Frame :=
  match frames with
  | .branches start done :: rest => .branches start (parts.tree stop :: done) :: rest
  | _ => .branches parts.start [parts.tree stop] :: frames

/-- Ends the last branch, and puts all branches of the group together. -/
def endBranches (frames : List Frame) (parts : Parts) (stop : Place) : Tree × List Frame :=
  match frames with
  | .branches start done :: rest =>
    (.either ⟨start, stop⟩ (parts.tree stop :: done).reverse, rest)
  | _ => (parts.tree stop, frames)

/-- The flag that a letter stands for. -/
def Flag.ofLetter? : Char → Option Flag
  | 'i' => some .anyCase
  | 'm' => some .byLine
  | 's' => some .anyChar
  | 'U' => some .short
  | 'u' => some .characters
  | 'R' => some .carriage
  | 'x' => some .spaced
  | _ => none

/-- A letter or a minus among flags. -/
structure FlagMark where
  /-- The flag; a minus has none. -/
  flag : Option Flag
  /-- Where it stands. -/
  extent : Extent

/-- The flags that letters mean; those behind a minus are turned off. -/
def FlagItem.ofMarks (isOn : Bool) : List FlagMark → List FlagItem
  | [] => []
  | m :: rest =>
    match m.flag with
    | none => ofMarks false rest
    | some f => ⟨f, isOn⟩ :: ofMarks isOn rest

/-- What flags say of blanks, if they say anything. -/
def spacedBy? (items : List FlagItem) : Option Bool :=
  (items.find? (·.flag == .spaced)).map (·.isOn)

/-- What stands behind an opening parenthesis. -/
inductive Opening where
  /-- Flags for the rest of the group, and the closing parenthesis. -/
  | flags (extent : Extent) (items : List FlagItem)
  /-- A group that is open. -/
  | group (opening : Extent) (isNumbered : Bool) (items : List FlagItem)

/-- Whether the name of a group may have a character. -/
def isNameChar (isFirst : Bool) (c : Char) : Bool :=
  if isFirst then c == '_' || Text.isLetter c
  else c == '_' || c == '.' || c == '[' || c == ']' || Text.isLetterOrNumber c

/-- The characters of a name from the start of a text. -/
def nameOf : List Char → List Char
  | [] => []
  | c :: rest => if isNameChar true c then c :: rest.takeWhile (isNameChar false) else []

/-- The largest number of repetitions that can be written. -/
def countLimit : Nat := 0xFFFFFFFF

/-- How deep groups and sets may be nested. -/
def nestLimit : Nat := 250

namespace Reader

/-- Reads flags up to a colon or a closing parenthesis. -/
def flagMarks : Nat → List FlagMark → Reader (List FlagMark)
  | 0, marks => return marks.reverse
  | fuel + 1, marks => do
    match ← next? with
    | none => failHere .flagsBrokenOff
    | some c =>
      if c = ':' ∨ c = ')' then
        match marks with
        | ⟨none, extent⟩ :: _ => fail .danglingMinus extent
        | _ => return marks.reverse
      else
        let extent ← charExtent
        let flag := if c = '-' then none else Flag.ofLetter? c
        if c != '-' && flag.isNone then fail .unknownFlag extent
        else
          match marks.find? (·.flag == flag) with
          | some m => throw ⟨if flag.isNone then .minusTwice else .flagTwice, extent, some m.extent⟩
          | none =>
            step
            flagMarks fuel (⟨flag, extent⟩ :: marks)

/-- Reads the name of a group up to the sign behind it. -/
def groupName : Reader Unit := do
  let first ← here
  let name := nameOf (← get).rest
  modify (Cursor.steps name.length)
  match ← next? with
  | none => failHere .nameBrokenOff
  | some '>' =>
    let extent : Extent := ⟨first, ← here⟩
    step
    if name.isEmpty then fail .emptyName extent
    else
      let c ← get
      let name := String.ofList name
      match c.names.find? (·.1 == name) with
      | some other => throw ⟨.nameTwice, extent, some other.2⟩
      | none => set { c with names := (name, extent) :: c.names }
  | some _ => failAtChar .badName

/-- Reads what stands behind an opening parenthesis, which is next. -/
def opening : Reader Opening := do
  let first ← charExtent
  stepOn
  let inner ← here
  if ← acceptOneOf ["?=", "?!", "?<=", "?<!"] then
    failFrom .lookAround first.first
  else if ← acceptOneOf ["?P<", "?<"] then
    groupName
    return .group first true []
  else if ← acceptOneOf ["?"] then
    if (← next?).isNone then fail .groupUnclosed first
    else
      let items := FlagItem.ofMarks true (← flagMarks ((← get).rest.length + 1) [])
      let isClosed := (← next?) = some ')'
      step
      if isClosed then
        if items.isEmpty then fail .nothingToRepeat (.at inner)
        else return .flags ⟨first.first, ← here⟩ items
      else return .group first false items
  else return .group first true []

/-- The last part of a branch, which is to be repeated, and the branch without it. -/
def lastPart (parts : Parts) : Reader (Tree × Parts) := do
  match parts.done with
  | [] | .nothing _ :: _ | .flags _ _ :: _ => failHere .nothingToRepeat
  | t :: done => return (t, { parts with done := done })

/-- Reads a sign of repetition, which is next. -/
def repetition (parts : Parts) (least : Nat) (most : Option Nat) : Reader Parts := do
  let (t, before) ← lastPart parts
  step
  if (← next?) = some '?' then step
  return before.push (.repetition ⟨t.extent.first, ← here⟩ least most t)

/-- Reads a number of repetitions. It need not be there, so a fault of it is given back
and does not stop the reader. -/
def count : Reader (Except Fault Nat) := do
  modify Cursor.pastSpace
  let first ← here
  let digits ← takeOn Char.isDigit
  let extent : Extent := ⟨first, ← here⟩
  let _ ← takeOn Text.isBlank
  let n := digits.foldl (fun n d => n * 10 + (Text.digitValue? 10 d).getD 0) 0
  if digits.isEmpty then return .error ⟨.noCount, extent, none⟩
  else if countLimit < n then return .error ⟨.badNumber, extent, none⟩
  else return .ok n

/-- Goes past a character and the blanks behind it; if nothing is left then, a number of
repetitions is not closed. -/
def stepInCount (first : Place) : Reader Unit := do
  stepOn
  if (← next?).isNone then failFrom .countUnclosed first

/-- Reads a number of repetitions in braces, the first of which is next. -/
def countedRepetition (parts : Parts) : Reader Parts := do
  let first ← here
  let (t, before) ← lastPart parts
  stepInCount first
  let low ← count
  if (← next?).isNone then failFrom .countUnclosed first
  else
    let (least, most) ←
      if (← next?) = some ',' then do
        stepInCount first
        if (← next?) = some '\x7d' then pure (← liftM low, none)
        else do
          let least ← liftM low
          let most ← liftM (← count)
          pure (least, some most)
      else do
        let least ← liftM low
        pure (least, some least)
    if (← next?) != some '\x7d' then failFrom .countUnclosed first
    else
      stepOn
      if (← next?) = some '?' then step
      let stop ← here
      if (most.map fun m => decide (m < least)).getD false then fail .countOrder ⟨first, stop⟩
      else return before.push (.repetition ⟨t.extent.first, stop⟩ least most t)

/-- Reads a character or an escape. -/
def atom : Reader Atom := do
  match ← next? with
  | some '\\' => escape
  | c =>
    let extent ← charExtent
    step
    match c with
    | some '.' => return .point extent
    | some '^' => return .border extent .lineStart
    | some '$' => return .border extent .lineEnd
    | _ => return .char ⟨extent, c.getD '\x00', false⟩

/-- Ends a group at its closing parenthesis, which is next. -/
def closeGroup (frames : List Frame) (parts : Parts) : Reader (List Frame × Parts) := do
  match endBranches frames parts (← here) with
  | (inner, .group before opening isNumbered items wasSpaced :: below) =>
    modify fun c => { c.step with isSpaced := wasSpaced }
    return (below, before.push (.group ⟨opening.first, ← here⟩ isNumbered items inner))
  | _ => failAtChar .groupUnopened

/-- Ends a pattern. -/
def finish (frames : List Frame) (parts : Parts) : Reader Tree := do
  match endBranches frames parts (← here) with
  | (_, .group _ opening _ _ _ :: _) => fail .groupUnclosed opening
  | (t, _) => return t

/-- Reads on within a pattern, up to its end. -/
def inside : Nat → List Frame → Parts → Reader Tree
  | 0, frames, parts => finish frames parts
  | fuel + 1, frames, parts => do
    modify Cursor.skipBlanks
    match ← next? with
    | none => finish frames parts
    | some '(' =>
      match ← opening with
      | .flags extent items =>
        modify fun c => { c with isSpaced := (spacedBy? items).getD c.isSpaced }
        inside fuel frames (parts.push (.flags extent items))
      | .group first isNumbered items =>
        let wasSpaced := (← get).isSpaced
        modify fun c => { c with isSpaced := (spacedBy? items).getD wasSpaced }
        inside fuel (.group parts first isNumbered items wasSpaced :: frames) ⟨← here, []⟩
    | some ')' =>
      let (frames, parts) ← closeGroup frames parts
      inside fuel frames parts
    | some '|' =>
      let frames := endBranch frames parts (← here)
      step
      inside fuel frames ⟨← here, []⟩
    | some '[' => inside fuel frames (parts.push (.set (← brackets)))
    | some '?' => inside fuel frames (← repetition parts 0 (some 1))
    | some '*' => inside fuel frames (← repetition parts 0 none)
    | some '+' => inside fuel frames (← repetition parts 1 none)
    | some '\x7b' => inside fuel frames (← countedRepetition parts)
    | some _ => inside fuel frames (parts.push (← atom).tree)

end Reader

/-- Reads a pattern. -/
def Tree.read (s : String) : Except Fault Tree := do
  let (t, _) ← (Reader.inside (s.length + 1) [] ⟨.start, []⟩).run (.ofText s)
  match t.beyond nestLimit with
  | some extent => .error ⟨.tooDeep nestLimit, extent, none⟩
  | none => .ok t

end FlashStation.Pattern
