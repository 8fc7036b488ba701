/-
# Reading TOML

A document is read line by line: a line is blank, a header, or a key with its
value. Lists may go over several lines, tables in braces may not. Values are
nested to a fixed depth at most. Why a document is refused is not told.

Key definitions: `Toml.read?`, `Toml.value`, `Toml.key`.
-/
import FlashStation.Toml.Scalar

namespace FlashStation.Toml

/-- Reads something from the front of a text. -/
abbrev Reader (α : Type) :=
  List Char → Option (α × List Char)

/-- The depth to which lists and tables in braces may be nested, and the number
of names that a key may have. -/
def depthLimit : Nat := 79

/-- A space or a tab. -/
def isSpace (c : Char) : Bool :=
  c == ' ' || c == '\t'

/-- What follows spaces and tabs. -/
def dropSpace (s : List Char) : List Char :=
  s.dropWhile isSpace

/-- Whether a character may stand in a comment and, quotes and backslashes
apart, in a text on one line. -/
def isPrintable (c : Char) : Bool :=
  c == '\t' || (0x20 ≤ c.toNat && c.toNat ≠ 0x7F)

/-- What follows the end of a line. -/
def newline? : List Char → Option (List Char)
  | '\n' :: s => some s
  | '\r' :: '\n' :: s => some s
  | _ => none

/-- What follows spaces, line ends and comments. -/
def skipBlank (inComment : Bool) : List Char → List Char
  | [] => []
  | '\r' :: '\n' :: s => skipBlank false s
  | c :: s =>
    if c = '\n' then skipBlank false s
    else if inComment then (if isPrintable c then skipBlank true s else c :: s)
    else if isSpace c then skipBlank false s
    else if c = '#' then skipBlank true s
    else c :: s

/-- What follows a line: nothing but spaces and a comment may be left on it. -/
def endLine? (s : List Char) : Option (List Char) :=
  let rest :=
    match dropSpace s with
    | '#' :: t => t.dropWhile isPrintable
    | t => t
  if rest.isEmpty then some [] else newline? rest

/-! ### Texts -/

/-- The character of so many hexadecimal digits at the front of a text. -/
def hexChar (width : Nat) : Reader Char := fun s =>
  let digits := s.take width
  if digits.length = width && digits.all fun c => (Text.digitValue? 16 c).isSome then
    let n := digitsValue 16 digits
    if n < 0xD800 || (0xDFFF < n && n < 0x110000) then some (Char.ofNat n, s.drop width) else none
  else none

/-- What stands behind a backslash, as a character. -/
def escape : Reader Char
  | 'b' :: s => some ('\x08', s)
  | 't' :: s => some ('\t', s)
  | 'n' :: s => some ('\n', s)
  | 'f' :: s => some ('\x0c', s)
  | 'r' :: s => some ('\r', s)
  | '"' :: s => some ('"', s)
  | '\\' :: s => some ('\\', s)
  | 'u' :: s => hexChar 4 s
  | 'U' :: s => hexChar 8 s
  | _ => none

/-- A text in double quotes on one line, from behind the opening quote. -/
def basicText : List Char → Option (List Char × List Char)
  | [] => none
  | c :: t =>
    if c = '"' then some ([], t)
    else if c = '\\' then
      match escape t with
      | none => none
      | some (e, rest) =>
        if rest.length ≤ t.length then (basicText rest).map fun r => (e :: r.1, r.2)
        else none
    else if isPrintable c then (basicText t).map fun r => (c :: r.1, r.2)
    else none
termination_by s => s.length

/-- A text in single quotes on one line, from behind the opening quote. -/
def literalText : List Char → Option (List Char × List Char)
  | [] => none
  | c :: t =>
    if c = '\'' then some ([], t)
    else if isPrintable c then (literalText t).map fun r => (c :: r.1, r.2)
    else none

/-- The quotes that end a text over several lines. Three of them do; one or two
more in front of these belong to the text. -/
def closing (quote : Char) (s : List Char) : Option (List Char × List Char) :=
  let n := min (s.takeWhile (· == quote)).length 5
  if 3 ≤ n then some (List.replicate (n - 3) quote, s.drop n) else none

/-- What follows a backslash at the end of a line: all blanks and line ends. -/
def joinLine? (s : List Char) : Option (List Char) :=
  (newline? (dropSpace s)).map fun t =>
    let rec blanks : List Char → List Char
      | [] => []
      | '\r' :: '\n' :: u => blanks u
      | c :: u => if isSpace c || c == '\n' then blanks u else c :: u
    blanks t

/-- A text in three double quotes, from behind the opening ones. -/
def basicLines : List Char → Option (List Char × List Char)
  | [] => none
  | c :: t =>
    match closing '"' (c :: t) with
    | some r => some r
    | none =>
      if c = '\\' then
        match joinLine? t with
        | some rest => if rest.length ≤ t.length then basicLines rest else none
        | none =>
          match escape t with
          | none => none
          | some (e, rest) =>
            if rest.length ≤ t.length then (basicLines rest).map fun r => (e :: r.1, r.2)
            else none
      else
        match newline? (c :: t) with
        | some rest =>
          if rest.length ≤ t.length then (basicLines rest).map fun r => ('\n' :: r.1, r.2)
          else none
        | none =>
          if isPrintable c then (basicLines t).map fun r => (c :: r.1, r.2) else none
termination_by s => s.length

/-- A text in three single quotes, from behind the opening ones. -/
def literalLines : List Char → Option (List Char × List Char)
  | [] => none
  | c :: t =>
    match closing '\'' (c :: t) with
    | some r => some r
    | none =>
      match newline? (c :: t) with
      | some rest =>
        if rest.length ≤ t.length then (literalLines rest).map fun r => ('\n' :: r.1, r.2)
        else none
      | none =>
        if isPrintable c then (literalLines t).map fun r => (c :: r.1, r.2) else none
termination_by s => s.length

/-- A text of any kind. A line end behind three opening quotes does not belong to it. -/
def anyText : Reader String
  | '"' :: '"' :: '"' :: s => (basicLines ((newline? s).getD s)).map fun r => (String.ofList r.1, r.2)
  | '\'' :: '\'' :: '\'' :: s =>
    (literalLines ((newline? s).getD s)).map fun r => (String.ofList r.1, r.2)
  | '"' :: s => (basicText s).map fun r => (String.ofList r.1, r.2)
  | '\'' :: s => (literalText s).map fun r => (String.ofList r.1, r.2)
  | _ => none

/-! ### Keys -/

/-- Whether a character may stand in a name without quotes. -/
def isBare (c : Char) : Bool :=
  c.isAlphanum || c == '_' || c == '-'

/-- One name of a key. -/
def name : Reader String
  | '"' :: s => (basicText s).map fun r => (String.ofList r.1, r.2)
  | '\'' :: s => (literalText s).map fun r => (String.ofList r.1, r.2)
  | s =>
    let bare := s.takeWhile isBare
    if bare.isEmpty then none else some (String.ofList bare, s.dropWhile isBare)

/-- The names of a key, which points separate, and what follows the spaces behind it. -/
def names (s : List Char) : Option (List String × List Char) :=
  match name (dropSpace s) with
  | none => none
  | some (n, rest) =>
    match dropSpace rest with
    | '.' :: more =>
      if more.length < s.length then (names more).map fun r => (n :: r.1, r.2) else none
    | rest => some ([n], rest)
termination_by s.length

/-- A key. -/
def key : Reader (List String) := fun s =>
  (names s).filter fun r => r.1.length ≤ depthLimit

/-! ### Values -/

/-- Whether a character may stand in a word. -/
def isWordChar (c : Char) : Bool :=
  c.isAlphanum || c == '+' || c == '-' || c == '_' || c == '.' || c == ':'

/-- A number, a truth value, or a date and time, between which a space may stand. -/
def word : Reader Toml := fun s =>
  let w := s.takeWhile isWordChar
  let rest := s.dropWhile isWordChar
  match rest with
  | ' ' :: c :: more =>
    if isDate w && c.isDigit then
      let time := (c :: more).takeWhile isWordChar
      (scalar? (w ++ ' ' :: time)).map (·, (c :: more).dropWhile isWordChar)
    else (scalar? w).map (·, rest)
  | _ => (scalar? w).map (·, rest)

/-- The items of a list up to its end. -/
def items (item : Reader Toml) (s : List Char) : Option (List Toml × List Char) :=
  match skipBlank false s with
  | ']' :: rest => some ([], rest)
  | t =>
    match item t with
    | none => none
    | some (v, rest) =>
      match skipBlank false rest with
      | ']' :: rest => some ([v], rest)
      | ',' :: rest =>
        if rest.length < s.length then (items item rest).map fun r => (v :: r.1, r.2) else none
      | _ => none
termination_by s.length

/-- A key, the sign behind it and its value. -/
def pair (item : Reader Toml) : Reader (List String × Toml) := fun s =>
  match key s with
  | some (path, '=' :: rest) => (item (dropSpace rest)).map fun r => ((path, r.1), r.2)
  | _ => none

/-- The pairs of a table in braces up to its end. -/
def pairs (item : Reader Toml) (s : List Char) : Option (List (List String × Toml) × List Char) :=
  match pair item s with
  | none => none
  | some (p, rest) =>
    match dropSpace rest with
    | '\x7d' :: rest => some ([p], rest)
    | ',' :: rest =>
      if rest.length < s.length then (pairs item rest).map fun r => (p :: r.1, r.2) else none
    | _ => none
termination_by s.length

/-- A table in braces, from behind the opening one. -/
def inlineTable (item : Reader Toml) : Reader Toml := fun s =>
  match dropSpace s with
  | '\x7d' :: rest => some (.table .braces [], rest)
  | t => do
    let (ps, rest) ← pairs item t
    let members ← ps.foldlM (fun ms p => putValue p.1 p.2 .braces ms) []
    pure (.table .braces members, rest)

/-- A value, in which values are nested to a depth at most. -/
def value : Nat → Reader Toml
  | depth, s =>
    match s with
    | '"' :: _ | '\'' :: _ => (anyText s).map fun r => (.text r.1, r.2)
    | '[' :: t =>
      match depth with
      | 0 => none
      | depth + 1 => (items (value depth) t).map fun r => (.list r.1, r.2)
    | '\x7b' :: t =>
      match depth with
      | 0 => none
      | depth + 1 => inlineTable (value depth) t
    | _ => word s

/-! ### Documents -/

/-- A document that is being read: what it holds so far, and the table that
keys go to. -/
structure Draft where
  /-- What it holds. -/
  root : Members
  /-- The names that lead to the table of the last header. -/
  current : List String

/-- One line of a document, and what follows it. -/
def line (d : Draft) (s : List Char) : Option (Draft × List Char) :=
  match dropSpace s with
  | '[' :: '[' :: t =>
    match key t with
    | some (path, ']' :: ']' :: rest) => do
      let root ← openElement path d.root
      pure (⟨root, path⟩, ← endLine? rest)
    | _ => none
  | '[' :: t =>
    match key t with
    | some (path, ']' :: rest) => do
      let root ← openTable path d.root
      pure (⟨root, path⟩, ← endLine? rest)
    | _ => none
  | t =>
    match endLine? t with
    | some rest => some (d, rest)
    | none => do
      let ((path, v), rest) ← pair (value depthLimit) t
      let root ← descend false (putValue path v) d.current .header d.root
      pure ({ d with root }, ← endLine? rest)

/-- The lines of a document to its end. -/
def lines (d : Draft) (s : List Char) : Option Members :=
  if s.isEmpty then some d.root
  else
    match line d s with
    | none => none
    | some (d, rest) => if rest.length < s.length then lines d rest else none
termination_by s.length

/-- The members of the table that a document is. A mark of the byte order in
front does not belong to it. -/
def read? (document : String) : Option Members :=
  lines ⟨[], []⟩ (match document.toList with
    | '\uFEFF' :: s => s
    | s => s)

end FlashStation.Toml
