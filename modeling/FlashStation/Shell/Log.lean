/-
# What the diagnostic log shows

A filter is a list of rules separated by commas. A rule is a level for every
topic, a beginning of topics, or a beginning and a level with `=` between them; of
the rules that fit a topic the one with the longest beginning counts. Behind a
slash stands a pattern that a part of a message must fit. A rule or a pattern that
makes no sense is reported and left out; without any rule errors are shown and
nothing else.

Key definitions: `LogFilter`, `LogFilter.read`, `LogFilter.shows`, `Note.plain`,
`Note.colored`.
-/
import FlashStation.Note
import FlashStation.Pattern.Meaning
import FlashStation.Text.Pieces
import FlashStation.Text.Plain

namespace FlashStation

/-- A rule: the beginning of the topics that it is for, or none if it is for all,
and the rank of the last level that is shown. -/
structure LogRule where
  /-- The beginning of the topics. -/
  start : Option String
  /-- The rank of the last level; zero shows nothing. -/
  rank : Nat
  deriving DecidableEq, Repr, Inhabited

namespace LogRule

/-- The rank that a word means, in letters of either case. -/
def rank? (word : String) : Option Nat :=
  if Text.equalFold word "off" then some 0
  else
    ([.error, .warn, .info, .debug, .trace].find? fun l =>
      Text.equalFold word (Level.text l)).map Level.rank

/-- The rank that shows everything. -/
def everything : Nat := Level.trace.rank

/-- Reads a rule; a fault is the part that makes no sense. -/
def read (text : String) : Except String LogRule :=
  match Text.split '=' text with
  | [word] =>
    match rank? word with
    | some r => .ok ⟨none, r⟩
    | none => .ok ⟨some word, everything⟩
  | [start, word] =>
    let word := Text.trim word
    if word.isEmpty then .ok ⟨some start, everything⟩
    else
      match rank? word with
      | some r => .ok ⟨some start, r⟩
      | none => .error word
  | _ => .error text

/-- Whether a rule is for a topic. -/
def fits (r : LogRule) (topic : Topic) : Bool :=
  match r.start with
  | none => true
  | some start => Text.startsWith topic.text start

/-- The length of the beginning, in bytes. -/
def size (r : LogRule) : Nat :=
  (r.start.map (·.utf8ByteSize)).getD 0

end LogRule

/-- What the diagnostic log shows. -/
structure LogFilter where
  /-- The rules. -/
  rules : List LogRule
  /-- What a part of a message must fit, if there is such a rule. -/
  pattern : Option Pattern.Shape
  deriving DecidableEq, Repr, Inhabited

namespace LogFilter

/-- The filter that shows the levels up to one. -/
def upTo (level : Level) : LogFilter :=
  ⟨[⟨none, level.rank⟩], none⟩

/-- The rules with one more, which takes the place of one for the same topics. -/
def put (rules : List LogRule) (r : LogRule) : List LogRule :=
  if rules.any (·.start == r.start) then
    rules.map fun q => if q.start == r.start then r else q
  else rules ++ [r]

/-- Reads rules one after the other. -/
def readRules (texts : List String) : List LogRule × List String :=
  texts.foldl (fun (rules, faults) text =>
    match LogRule.read text with
    | .ok r => (put rules r, faults)
    | .error fault => (rules, faults ++ [s!"invalid logging spec '{fault}'"])) ([], [])

/-- The rules of a filter that has none of its own: errors are shown. -/
def orErrors (rules : List LogRule) : List LogRule :=
  if rules.isEmpty then [⟨none, Level.error.rank⟩] else rules

/-- Reads a pattern, and gives its fault if it makes no sense. -/
def readPattern (text : String) : Option Pattern.Shape × List String :=
  match Pattern.Shape.read text with
  | .ok s => (some s, [])
  | .error r => (none, [s!"invalid regex filter - {r.text text}"])

/-- Reads a filter, and gives the faults of what was left out. -/
def read (spec : String) : LogFilter × List String :=
  let readAll (text : String) : List LogRule × List String :=
    readRules (((Text.split ',' text).map Text.trim).filter (!·.isEmpty))
  match Text.split '/' spec with
  | [text] =>
    let (rules, faults) := readAll text
    (⟨orErrors rules, none⟩, faults)
  | [text, patternText] =>
    let (rules, faults) := readAll text
    let (pattern, others) := readPattern patternText
    (⟨orErrors rules, pattern⟩, faults ++ others)
  | _ => (⟨orErrors [], none⟩, [s!"invalid logging spec '{spec}' (too many '/'s)"])

/-- The rule that counts for a topic: of those that fit the longest, and of equally
long ones the last. -/
def ruleFor (f : LogFilter) (topic : Topic) : Option LogRule :=
  (f.rules.filter (·.fits topic)).foldl (fun best r =>
    match best with
    | none => some r
    | some b => if b.size ≤ r.size then some r else some b) none

/-- Whether a note is shown. -/
def shows (f : LogFilter) (n : Note) : Bool :=
  (match f.ruleFor n.topic with
    | none => false
    | some r => n.level.rank ≤ r.rank) &&
    (f.pattern.map (·.occursIn n.message)).getD true

end LogFilter

/-- A level's name in five columns. -/
def Level.column (l : Level) : String :=
  l.text ++ String.ofList (List.replicate (5 - l.text.length) ' ')

/-- A text in a color of a terminal. -/
def inColor (color text : String) : String :=
  s!"{color}{text}\x1b[0m"

/-- The color of a level. -/
def Level.color : Level → String
  | .error => "\x1b[1m\x1b[31m"
  | .warn => "\x1b[33m"
  | .info => "\x1b[32m"
  | .debug => "\x1b[34m"
  | .trace => "\x1b[36m"

/-- The color of the brackets around a level. -/
def bracketColor : String := "\x1b[90m"

/-- The message of a note. Its lines are indented, the first apart. -/
def Note.body (n : Note) : String :=
  Text.join "\n    " (Text.split '\n' n.message)

/-- The topic of a note behind its level, if topics are shown. -/
def Note.label (n : Note) (withTopic : Bool) : String :=
  if withTopic then " " ++ n.topic.text else ""

/-- A note as it appears in the log, in colors. -/
def Note.colored (n : Note) (withTopic : Bool) : String :=
  inColor bracketColor "[" ++ inColor n.level.color n.level.column ++ n.label withTopic ++
    inColor bracketColor "]" ++ s!" {n.body}\n"

/-- A note as it appears in the log without colors. No control sequence is left. -/
def Note.plain (n : Note) (withTopic : Bool) : String :=
  Text.plain s!"[{n.level.column}{n.label withTopic}] {n.body}\n"

end FlashStation
