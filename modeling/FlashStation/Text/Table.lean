/-
# Tables of characters

What a standard says of characters is kept in tables. A table has spans of
characters, each with what holds for it; the spans are in ascending order, and no
two of them overlap, so a character is found by halving.

A table is written as words with blanks or line ends between them. A word like
`41-5A` is a span in hexadecimal, and one like `AD` a span of one character. In a
table of classes a word that ends in a colon names the class of the spans behind
it. In a table of replacements a span is followed by `=` and the characters that
come in its place, with points between them: `C0=41.300`. A span of several
characters is replaced by as many characters from a single one on, and a step
behind a slash says which of them are meant: `100-12E/2=101`.

Key definitions: `Text.Span`, `Text.Table`, `Text.Table.find?`, `Text.Table.has`,
`Text.Table.ofSpans`, `Text.Table.ofClasses`, `Text.Table.ofReplacements`,
`Text.Replacement.of?`.
-/
import FlashStation.Text.Numeral

namespace FlashStation.Text

/-- Characters from the first to the last, and what holds for them. -/
structure Span (α : Type) where
  /-- The number of the first character. -/
  first : Nat
  /-- The number of the last character. -/
  last : Nat
  /-- What holds for them. -/
  value : α
  deriving Inhabited

/-- Spans in ascending order. -/
structure Table (α : Type) where
  /-- The spans. -/
  spans : Array (Span α)
  deriving Inhabited

namespace Table

/-- The span of a number among some of the spans of a table. -/
def search (t : Table α) (n low high : Nat) : Option (Span α) :=
  if low < high then
    match t.spans[(low + high) / 2]? with
    | none => none
    | some s =>
      if n < s.first then t.search n low ((low + high) / 2)
      else if s.last < n then t.search n ((low + high) / 2 + 1) high
      else some s
  else none
termination_by high - low

/-- The span of a number. -/
def find? (t : Table α) (n : Nat) : Option (Span α) :=
  t.search n 0 t.spans.size

/-- What holds for a character. -/
def value? (t : Table α) (c : Char) : Option α :=
  (t.find? c.toNat).map (·.value)

/-- Whether a character is in a table. -/
def has (t : Table α) (c : Char) : Bool :=
  (t.find? c.toNat).isSome

/-- A table of some spans, which need no order. -/
def ofList (spans : List (Span α)) : Table α :=
  ⟨(spans.mergeSort fun a b => a.first ≤ b.first).toArray⟩

/-- The words of a text. -/
def words (s : String) : List (List Char) :=
  let close (done : List (List Char)) (word : List Char) : List (List Char) :=
    if word.isEmpty then done else word.reverse :: done
  let (done, word) := s.toList.foldl (fun (done, word) c =>
    if c = ' ' ∨ c = '\n' then (close done word, []) else (done, c :: word)) ([], [])
  (close done word).reverse

/-- The number that hexadecimal digits write. -/
def hexValue (s : List Char) : Nat :=
  s.foldl (fun n c => n * 16 + (digitValue? 16 c).getD 0) 0

/-- What stands before a sign, and what stands behind it, if it occurs. -/
def cutAt (sign : Char) (s : List Char) : List Char × Option (List Char) :=
  match s.dropWhile (· != sign) with
  | [] => (s, none)
  | _ :: behind => (s.takeWhile (· != sign), some behind)

/-- The span that a word writes. -/
def span (word : List Char) (value : α) : Span α :=
  let (first, last) := cutAt '-' word
  ⟨hexValue first, hexValue (last.getD first), value⟩

/-- A table of spans of which nothing else is said. -/
def ofSpans (s : String) : Table Unit :=
  ofList ((words s).map fun w => span w ())

/-- A table of classes. -/
def ofClasses (s : String) : Table String :=
  ofList ((words s).foldl (fun (spans, name) w =>
    if w.getLast? = some ':' then (spans, String.ofList w.dropLast)
    else (span w name :: spans, name)) ([], "")).1

end Table

/-- What comes in the place of the characters of a span. -/
structure Replacement where
  /-- The distance of the characters that are meant. -/
  step : Nat
  /-- What comes in the place of the first of them. -/
  target : List Nat
  deriving Inhabited

/-- What comes in the place of a character, if a span has a replacement for it. -/
def Replacement.of? (s : Span Replacement) (n : Nat) : Option (List Nat) :=
  if (n - s.first) % s.value.step = 0 then
    match s.value.target with
    | [t] => some [t + (n - s.first)]
    | ts => some ts
  else none

namespace Table

/-- The replacement that a word writes. -/
def replacement (word : List Char) : Span Replacement :=
  let (place, target) := cutAt '=' word
  let (place, step) := cutAt '/' place
  let (done, last) := (target.getD []).foldl (fun (done, digits) c =>
    if c = '.' then (hexValue digits.reverse :: done, []) else (done, c :: digits))
    (([], []) : List Nat × List Char)
  span place ⟨(step.map hexValue).getD 1, (hexValue last.reverse :: done).reverse⟩

/-- A table of replacements. -/
def ofReplacements (s : String) : Table Replacement :=
  ofList ((words s).map replacement)

/-- What comes in the place of a character. -/
def replacement? (t : Table Replacement) (n : Nat) : Option (List Nat) :=
  (t.find? n).bind fun s => Replacement.of? s n

end Table

end FlashStation.Text
