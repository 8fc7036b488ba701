/-
# Sets in brackets

A set lists characters, ranges and classes between brackets. Sets may stand in sets,
and `&&`, `--` and `~~` put what is on their left together with what is on their
right, from left to right.

Key definitions: `Pattern.SetFrame`, `Pattern.Items`, `Pattern.Reader.brackets`.
-/
import FlashStation.Pattern.Escape

namespace FlashStation.Pattern

/-- What is listed so far. -/
structure Items where
  /-- Where the list begins if nothing is listed. -/
  start : Place
  /-- What is listed, the last first. -/
  done : List SetTree

namespace Items

/-- One more. -/
def push (l : Items) (s : SetTree) : Items := { l with done := s :: l.done }

/-- What is listed as one set. -/
def tree (l : Items) : SetTree :=
  match l.done with
  | [] => .nothing (.at l.start)
  | [s] => s
  | last :: rest =>
    .union ⟨((rest.getLast?.getD last).extent).first, last.extent.stop⟩ l.done.reverse

end Items

/-- What is begun and not ended. -/
inductive SetFrame where
  /-- A bracket, and what is listed in front of it. -/
  | bracket (before : Items) (opening : Extent) (isNegated : Bool)
  /-- A set that is to be put together with the next one. -/
  | op (kind : SetOp) (left : SetTree)

/-- Puts a set together with the one that waits for it, if there is one. -/
def settle (frames : List SetFrame) (right : SetTree) : SetTree × List SetFrame :=
  match frames with
  | .op kind left :: rest => (.both ⟨left.extent.first, right.extent.stop⟩ kind left right, rest)
  | _ => (right, frames)

/-- The innermost bracket that is open. -/
def innermost : List SetFrame → Option Extent
  | [] => none
  | .bracket _ opening _ :: _ => some opening
  | .op _ _ :: rest => innermost rest

namespace Cursor

/-- A class by its name between colons in brackets, and the cursor behind it. -/
def namedClass? (c : Cursor) : Option (SetTree × Cursor) :=
  match c.rest with
  | '[' :: ':' :: rest =>
    let isNegated := rest.head? = some '^'
    let rest := if isNegated then rest.tail else rest
    let name := rest.takeWhile (· != ':')
    match rest.drop name.length, NamedClass.ofName? (String.ofList name) with
    | ':' :: ']' :: _, some kind =>
      let behind := c.steps (name.length + if isNegated then 5 else 4)
      some (.named ⟨c.here, behind.here⟩ kind isNegated, behind)
    | _, _ => none
  | _ => none

end Cursor

namespace Atom

/-- As a part of a set. -/
def item : Atom → Reader SetTree
  | .char c => return .char c
  | .short e kind isNegated => return .short e kind isNegated
  | .property e p => return .property e p
  | .point e | .border e _ => Reader.fail .escapeInSet e

/-- As an end of a range. -/
def rangeEnd : Atom → Reader Written
  | .char c => return c
  | a => Reader.fail .rangeEnd a.extent

end Atom

namespace Reader

/-- Stops because a bracket is open. -/
def unclosed (frames : List SetFrame) : Reader α := do
  fail .setUnclosed ((innermost frames).getD (← charExtent))

/-- Goes past a character and the blanks behind it; if nothing is left then, a bracket is
open. -/
def stepInto (opening : Place) : Reader Unit := do
  stepOn
  if (← next?).isNone then failFrom .setUnclosed opening

/-- Reads minus signs that stand for themselves because they come first. -/
def leadingMinus (opening : Place) : Nat → Items → Reader Items
  | 0, items => return items
  | fuel + 1, items => do
    if (← next?) = some '-' then
      let extent ← charExtent
      stepOn
      if (← next?).isNone then fail .setUnclosed (.at opening)
      leadingMinus opening fuel (items.push (.char ⟨extent, '-', false⟩))
    else return items

/-- Reads an opening bracket, and what has no special meaning because it comes first. -/
def openBracket (before : Items) : Reader (SetFrame × Items) := do
  let opening ← here
  stepInto opening
  let isNegated := (← next?) = some '^'
  if isNegated then stepInto opening
  let items ← leadingMinus opening (← get).rest.length ⟨← here, []⟩
  if items.done.isEmpty && (← next?) = some ']' then
    let extent ← charExtent
    stepInto opening
    return (.bracket before ⟨opening, ← here⟩ isNegated, items.push (.char ⟨extent, ']', false⟩))
  else return (.bracket before ⟨opening, ← here⟩ isNegated, items)

/-- Reads a character or a class of a set. -/
def setAtom : Reader Atom := do
  match ← next? with
  | some '\\' => escape
  | c =>
    let extent ← charExtent
    step
    return .char ⟨extent, c.getD '\x00', false⟩

/-- Reads a character, a class or a range of a set. -/
def setItem (frames : List SetFrame) : Reader SetTree := do
  let first ← setAtom
  modify Cursor.skipBlanks
  let c ← get
  if c.rest.isEmpty then unclosed frames
  else if c.next? != some '-' || c.ahead? = some ']' || c.ahead? = some '-' then first.item
  else
    stepOn
    if (← next?).isNone then unclosed frames
    else
      let last ← setAtom
      let extent : Extent := ⟨first.extent.first, last.extent.stop⟩
      let low ← first.rangeEnd
      let high ← last.rangeEnd
      if high.char < low.char then fail .rangeOrder extent
      else return .range extent low high

/-- Reads on within brackets, up to the one that closes the first. -/
def insideBrackets : Nat → List SetFrame → Items → Reader SetTree
  | 0, _, items => return items.tree
  | fuel + 1, frames, items => do
    modify Cursor.skipBlanks
    let op (kind : SetOp) : Reader SetTree := do
      modify (Cursor.steps 2)
      let (left, below) := settle frames items.tree
      insideBrackets fuel (.op kind left :: below) ⟨← here, []⟩
    match (← get).rest with
    | [] => unclosed frames
    | '[' :: _ =>
      match (← get).namedClass? with
      | some (s, behind) =>
        set behind
        insideBrackets fuel frames (items.push s)
      | none =>
        let (frame, inner) ← openBracket items
        insideBrackets fuel (frame :: frames) inner
    | ']' :: _ =>
      step
      match settle frames items.tree with
      | (inner, .bracket before opening isNegated :: below) =>
        let s : SetTree := .bracket ⟨opening.first, ← here⟩ isNegated inner
        if below.isEmpty then return s else insideBrackets fuel below (before.push s)
      | (inner, _) => return inner
    | '&' :: '&' :: _ => op .inter
    | '-' :: '-' :: _ => op .diff
    | '~' :: '~' :: _ => op .symmDiff
    | _ => insideBrackets fuel frames (items.push (← setItem frames))

/-- Reads a set from its opening bracket on. -/
def brackets : Reader SetTree := do
  let (frame, items) ← openBracket ⟨← here, []⟩
  insideBrackets ((← get).rest.length + 1) [frame] items

end Reader

end FlashStation.Pattern
