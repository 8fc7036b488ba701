/-
# Numbers, dates and times of TOML

A value that is no text, list or table is one word of letters, digits and a few
signs. Words are whole numbers in four bases, numbers with a fraction or an
exponent, dates, times and the truth values. Digits may be separated by single
underscores; a whole number has at most 64 bits, and a number above zero is not too
large for a double.

Key definitions: `Toml.scalar?`, `Toml.isDate`, `Toml.isMoment`.
-/
import FlashStation.Text.Pieces
import FlashStation.Text.Rounding
import FlashStation.Toml.Value

namespace FlashStation.Toml

/-- Digits of a base without the underscores between them, if they are well placed. -/
def plainDigits? (base : Nat) (s : List Char) : Option (List Char) :=
  let groups := Text.pieces '_' s
  if groups.all fun g => !g.isEmpty && g.all fun c => (Text.digitValue? base c).isSome then
    some groups.flatten
  else none

/-- The number that digits of a base write. -/
def digitsValue (base : Nat) (s : List Char) : Nat :=
  s.foldl (fun n c => n * base + (Text.digitValue? base c).getD 0) 0

/-- A word without its sign, and whether that is a minus. -/
def splitSign : List Char → Bool × List Char
  | '+' :: s => (false, s)
  | '-' :: s => (true, s)
  | s => (false, s)

/-- Decimal digits that do not begin with a superfluous zero. -/
def wholeDigits? (s : List Char) : Option (List Char) :=
  (plainDigits? 10 s).filter fun d => d.length = 1 || d.head? != some '0'

/-- One more than the largest whole number. -/
def integerBound : Nat := 0x8000000000000000

/-- A whole number. -/
def integer? (word : List Char) : Option Int :=
  let bounded (n : Nat) : Option Int := if n < integerBound then some n else none
  match word with
  | '0' :: 'x' :: s => (plainDigits? 16 s).bind fun d => bounded (digitsValue 16 d)
  | '0' :: 'o' :: s => (plainDigits? 8 s).bind fun d => bounded (digitsValue 8 d)
  | '0' :: 'b' :: s => (plainDigits? 2 s).bind fun d => bounded (digitsValue 2 d)
  | _ => do
    let (minus, s) := splitSign word
    let n := digitsValue 10 (← wholeDigits? s)
    if minus then (if n ≤ integerBound then some (-(n : Int)) else none) else bounded n

/-- What stands before a character that satisfies a test, and what stands behind it. -/
def cutAt (p : Char → Bool) (s : List Char) : List Char × Option (List Char) :=
  match s.dropWhile fun c => !p c with
  | [] => (s, none)
  | _ :: behind => (s.takeWhile fun c => !p c, some behind)

/-- Whether a word is a number with a fraction, an exponent or both, or one of
the numbers without digits. -/
def isFloat (word : List Char) : Bool :=
  let (minus, s) := splitSign word
  if s = ['i', 'n', 'f'] ∨ s = ['n', 'a', 'n'] then true
  else
    let (mantissa, exponent) := cutAt (fun c => c == 'e' || c == 'E') s
    let (whole, fraction) := cutAt (· == '.') mantissa
    if fraction.isNone && exponent.isNone then false
    else
      let parts : Option (List Char × List Char × Int) := do
        let w ← wholeDigits? whole
        let f ← match fraction with
          | none => some []
          | some f => plainDigits? 10 f
        let e ← match exponent with
          | none => some (0 : Int)
          | some e =>
            let (minus, e) := splitSign e
            (plainDigits? 10 e).map fun d =>
              if minus then -(digitsValue 10 d : Int) else digitsValue 10 d
        pure (w, f, e)
      match parts with
      | none => false
      | some (w, f, e) => minus || !Text.beyondDouble (digitsValue 10 (w ++ f)) (e - f.length)

/-- A number of exactly so many digits between two bounds. -/
def fixed? (width low high : Nat) (s : List Char) : Option Nat :=
  if s.length = width && s.all Char.isDigit then
    let n := digitsValue 10 s
    if low ≤ n && n ≤ high then some n else none
  else none

/-- The number of days of a month. -/
def daysOf (year month : Nat) : Nat :=
  if month = 2 then
    if year % 4 = 0 ∧ (year % 100 ≠ 0 ∨ year % 400 = 0) then 29 else 28
  else if month = 4 ∨ month = 6 ∨ month = 9 ∨ month = 11 then 30
  else 31

/-- Whether a word is a date. -/
def isDate (word : List Char) : Bool :=
  match Text.pieces '-' word with
  | [y, m, d] =>
    match fixed? 4 0 9999 y, fixed? 2 1 12 m with
    | some y, some m => (fixed? 2 1 (daysOf y m) d).isSome
    | _, _ => false
  | _ => false

/-- Whether a word is a time of day. -/
def isTime (word : List Char) : Bool :=
  match Text.pieces ':' word with
  | [h, m, s] =>
    let (whole, fraction) := cutAt (· == '.') s
    (fixed? 2 0 23 h).isSome && (fixed? 2 0 59 m).isSome && (fixed? 2 0 60 whole).isSome &&
      match fraction with
      | none => true
      | some f => !f.isEmpty && f.all Char.isDigit
  | _ => false

/-- Whether a word is the distance of a time zone. -/
def isZone (word : List Char) : Bool :=
  match Text.pieces ':' word with
  | [h, m] => (fixed? 2 0 23 h).isSome && (fixed? 2 0 59 m).isSome
  | _ => false

/-- Whether a word is a time of day, with or without a time zone. -/
def isZonedTime (word : List Char) : Bool :=
  if isTime word then true
  else
    match word.getLast? with
    | some 'Z' | some 'z' => isTime word.dropLast
    | _ =>
      match cutAt (fun c => c == '+' || c == '-') word with
      | (time, some zone) => isTime time && isZone zone
      | _ => false

/-- Whether a word is a date, a time of day, or a date with a time. -/
def isMoment (word : List Char) : Bool :=
  isDate word || isTime word ||
    match cutAt (fun c => c == 'T' || c == 't' || c == ' ') word with
    | (date, some time) => isDate date && isZonedTime time
    | _ => false

/-- The value of a word. -/
def scalar? (word : List Char) : Option Toml :=
  if word = ['t', 'r', 'u', 'e'] then some (.truth true)
  else if word = ['f', 'a', 'l', 's', 'e'] then some (.truth false)
  else
    match integer? word with
    | some n => some (.integer n)
    | none => if isFloat word then some .float else if isMoment word then some .moment else none

end FlashStation.Toml
