/-
# The words of a JSON document

A document is read from its bytes, one word at a time: blanks, literal names,
numbers and quoted texts. The first fault met ends the reading, and it is one
of three: the bytes are no JSON, they end too early, or they are JSON of
another kind than is wanted.

Inside quotes, bytes and escapes stand for bytes; they are text only if they
are well-formed UTF-8, which is checked where a text is wanted and not where it
is passed over.

Key definitions: `Json.Fault`, `Json.quoted`, `Json.number`, `Json.name`.
-/
import FlashStation.Text.Rounding
import FlashStation.Text.Utf8

namespace FlashStation.Json

/-- Why a document is refused. -/
inductive Fault where
  /-- The bytes are no JSON. -/
  | malformed
  /-- The bytes are JSON of another kind than is wanted. -/
  | mistyped
  /-- The bytes end too early. -/
  | truncated
  deriving DecidableEq, Repr, Inhabited

/-- The byte of a character below 128. -/
def code (c : Char) : UInt8 :=
  c.toNat.toUInt8

/-- Blanks between words: space, line feed, carriage return and tab. -/
def isSpace (b : UInt8) : Bool :=
  b == code ' ' || b == code '\n' || b == code '\r' || b == code '\t'

/-- What follows the blanks. -/
def dropSpace (s : List UInt8) : List UInt8 :=
  s.dropWhile isSpace

theorem length_dropSpace_le (s : List UInt8) : (dropSpace s).length ≤ s.length :=
  (List.dropWhile_sublist _).length_le

/-- Whether a byte is a decimal digit. -/
def isDigit (b : UInt8) : Bool :=
  code '0' ≤ b && b ≤ code '9'

/-- The rest of a literal name, byte for byte. -/
def name : List Char → List UInt8 → Except Fault (List UInt8)
  | [], s => .ok s
  | _ :: _, [] => .error .truncated
  | c :: more, b :: s => if b = code c then name more s else .error .malformed

theorem length_of_name {w : List Char} {s r : List UInt8} (h : name w s = .ok r) :
    r.length ≤ s.length := by
  fun_induction name w s with
  | case1 s => simp_all
  | case2 => simp at h
  | case3 c more s ih => have := ih h; simp only [List.length_cons]; omega
  | case4 => simp at h

/-! ### Quoted texts -/

/-- The value of four hexadecimal digits. -/
def hexUnit? (a b c d : UInt8) : Option Nat := do
  let digit (x : UInt8) : Option Nat := Text.digitValue? 16 (Char.ofNat x.toNat)
  pure ((← digit a) * 0x1000 + (← digit b) * 0x100 + (← digit c) * 0x10 + (← digit d))

/-- Four hexadecimal digits, which must all be there. -/
def hexUnit : List UInt8 → Except Fault (Nat × List UInt8)
  | a :: b :: c :: d :: s =>
    match hexUnit? a b c d with
    | some n => .ok (n, s)
    | none => .error .malformed
  | _ => .error .truncated

/-- The character that an escape with one letter stands for. -/
def letterEscape? (b : UInt8) : Option Char :=
  if b = code '"' then some '"'
  else if b = code '\\' then some '\\'
  else if b = code '/' then some '/'
  else if b = code 'b' then some '\x08'
  else if b = code 'f' then some '\x0c'
  else if b = code 'n' then some '\n'
  else if b = code 'r' then some '\r'
  else if b = code 't' then some '\t'
  else none

/-- The second half of a pair of surrogates, which must follow the first at once. -/
def lowSurrogate : List UInt8 → Except Fault (Nat × List UInt8)
  | [] => .error .truncated
  | a :: s =>
    if a ≠ code '\\' then .error .malformed
    else
      match s with
      | [] => .error .truncated
      | b :: s =>
        if b ≠ code 'u' then .error .malformed
        else
          match hexUnit s with
          | .error f => .error f
          | .ok (n, s) => if 0xDC00 ≤ n ∧ n ≤ 0xDFFF then .ok (n, s) else .error .malformed

/-- What stands behind a backslash, as a character. A character outside the
Basic Multilingual Plane is written as a pair of surrogates. -/
def escapedChar : List UInt8 → Except Fault (Char × List UInt8)
  | [] => .error .truncated
  | b :: s =>
    match letterEscape? b with
    | some c => .ok (c, s)
    | none =>
      if b ≠ code 'u' then .error .malformed
      else
        match hexUnit s with
        | .error f => .error f
        | .ok (n, s) =>
          if n < 0xD800 ∨ 0xDFFF < n then .ok (Char.ofNat n, s)
          else if 0xDC00 ≤ n then .error .malformed
          else
            match lowSurrogate s with
            | .error f => .error f
            | .ok (m, s) => .ok (Char.ofNat (0x10000 + (n - 0xD800) * 0x400 + (m - 0xDC00)), s)

theorem length_of_hexUnit {s r : List UInt8} {n : Nat} (h : hexUnit s = .ok (n, r)) :
    r.length < s.length := by
  revert h
  fun_cases hexUnit s with
  | case1 => rintro ⟨⟩; simp only [List.length_cons]; omega
  | case2 | case3 => nofun

theorem length_of_lowSurrogate {s r : List UInt8} {n : Nat} (h : lowSurrogate s = .ok (n, r)) :
    r.length < s.length := by
  revert h
  fun_cases lowSurrogate s with
  | case6 _ _ _ _ _ _ _ read =>
    have shorter := length_of_hexUnit read
    rintro ⟨⟩
    simp only [List.length_cons]
    omega
  | _ => nofun

theorem length_of_escapedChar {s r : List UInt8} {c : Char} (h : escapedChar s = .ok (c, r)) :
    r.length < s.length := by
  revert h
  fun_cases escapedChar s with
  | case2 => rintro ⟨⟩; exact Nat.lt_succ_self _
  | case5 _ _ _ _ _ _ read =>
    have shorter := length_of_hexUnit read
    rintro ⟨⟩
    simp only [List.length_cons]
    omega
  | case8 _ _ _ _ _ _ high _ _ _ _ low =>
    have shorter := length_of_hexUnit high
    have more := length_of_lowSurrogate low
    intro h
    obtain ⟨-, rfl⟩ := Prod.mk.inj (Except.ok.inj h)
    simp only [List.length_cons]
    omega
  | _ => nofun

/-- The bytes that a quoted text stands for, from behind the opening quote, and
what follows the closing one. -/
def quotedBytes : List UInt8 → Except Fault (List UInt8 × List UInt8)
  | [] => .error .truncated
  | b :: s =>
    if b = code '"' then .ok ([], s)
    else if b = code '\\' then
      match _h : escapedChar s with
      | .error f => .error f
      | .ok (c, rest) =>
        (quotedBytes rest).map fun r => (Text.Utf8.encodeChar c ++ r.1, r.2)
    else if b < 0x20 then .error .malformed
    else (quotedBytes s).map fun r => (b :: r.1, r.2)
termination_by s => s.length
decreasing_by
  · have := length_of_escapedChar _h
    simp only [List.length_cons]
    omega
  · simp

/-- A quoted text, from behind the opening quote. -/
def quoted (s : List UInt8) : Except Fault (String × List UInt8) :=
  match quotedBytes s with
  | .error f => .error f
  | .ok (bytes, rest) =>
    match Text.Utf8.decode? bytes with
    | some t => .ok (t, rest)
    | none => .error .malformed

/-- What stands behind a backslash, passed over: an escape with four digits
need not name a character. -/
def passEscape : List UInt8 → Except Fault (List UInt8)
  | [] => .error .truncated
  | b :: s =>
    if (letterEscape? b).isSome then .ok s
    else if b ≠ code 'u' then .error .malformed
    else
      match hexUnit s with
      | .error f => .error f
      | .ok (_, s) => .ok s

theorem length_of_passEscape {s r : List UInt8} (h : passEscape s = .ok r) :
    r.length < s.length := by
  revert h
  fun_cases passEscape s with
  | case2 => rintro ⟨⟩; exact Nat.lt_succ_self _
  | case5 _ _ _ _ _ _ read =>
    have shorter := length_of_hexUnit read
    rintro ⟨⟩
    simp only [List.length_cons]
    omega
  | _ => nofun

/-- What follows a quoted text that is passed over, from behind its opening quote. -/
def passQuoted : List UInt8 → Except Fault (List UInt8)
  | [] => .error .truncated
  | b :: s =>
    if b = code '"' then .ok s
    else if b = code '\\' then
      match _h : passEscape s with
      | .error f => .error f
      | .ok rest => passQuoted rest
    else if b < 0x20 then .error .malformed
    else passQuoted s
termination_by s => s.length
decreasing_by
  · have := length_of_passEscape _h
    simp only [List.length_cons]
    omega
  · simp

theorem length_of_passQuoted {s r : List UInt8} (h : passQuoted s = .ok r) :
    r.length < s.length := by
  fun_induction passQuoted s with
  | case1 => cases h
  | case2 => cases h; simp
  | case3 => cases h
  | case4 s rest hp _ ih =>
    have := ih h
    have := length_of_passEscape hp
    simp only [List.length_cons]; omega
  | case5 => cases h
  | case6 _ _ _ _ _ ih => have := ih h; simp only [List.length_cons]; omega

/-! ### Numbers -/

/-- A number as written: its digits before and behind the point, and its exponent. -/
structure Figures where
  /-- Digits before the point. -/
  whole : List UInt8
  /-- Digits behind the point, if there is a point. -/
  fraction : Option (List UInt8)
  /-- The exponent, if there is one: whether it is negative, and its digits. -/
  exponent : Option (Bool × List UInt8)

/-- At least one digit, and what follows the last; `ended` is the fault if
there is nothing at all. -/
def someDigits (ended : Fault) (s : List UInt8) : Except Fault (List UInt8 × List UInt8) :=
  match s with
  | [] => .error ended
  | b :: _ => if isDigit b then .ok (s.takeWhile isDigit, s.dropWhile isDigit) else .error .malformed

/-- The digits before the point: a zero stands alone. -/
def wholeDigits (ended : Fault) : List UInt8 → Except Fault (List UInt8 × List UInt8)
  | b :: s =>
    if b = code '0' then
      match s with
      | c :: _ => if isDigit c then .error .malformed else .ok ([b], s)
      | [] => .ok ([b], [])
    else someDigits ended (b :: s)
  | [] => .error ended

/-- The point and the digits behind it, if there is a point. -/
def fractionDigits (ended : Fault) (s : List UInt8) :
    Except Fault (Option (List UInt8) × List UInt8) :=
  match s with
  | b :: rest =>
    if b = code '.' then (someDigits ended rest).map fun r => (some r.1, r.2) else .ok (none, s)
  | [] => .ok (none, [])

/-- The exponent, if there is one. -/
def exponentDigits (ended : Fault) (s : List UInt8) :
    Except Fault (Option (Bool × List UInt8) × List UInt8) :=
  match s with
  | b :: rest =>
    if b = code 'e' ∨ b = code 'E' then
      let signed (r : List UInt8 × List UInt8) (minus : Bool) := (some (minus, r.1), r.2)
      match rest with
      | c :: more =>
        if c = code '+' then (someDigits ended more).map (signed · false)
        else if c = code '-' then (someDigits ended more).map (signed · true)
        else (someDigits ended rest).map (signed · false)
      | [] => .error ended
    else .ok (none, s)
  | [] => .ok (none, [])

/-- A number from behind its sign; `ended` is the fault if it breaks off. -/
def figures (ended : Fault) (s : List UInt8) : Except Fault (Figures × List UInt8) :=
  match wholeDigits ended s with
  | .error f => .error f
  | .ok (whole, s) =>
    match fractionDigits ended s with
    | .error f => .error f
    | .ok (fraction, s) =>
      match exponentDigits ended s with
      | .error f => .error f
      | .ok (exponent, s) => .ok (⟨whole, fraction, exponent⟩, s)

theorem length_of_someDigits {e : Fault} {s r d : List UInt8}
    (h : someDigits e s = .ok (d, r)) : r.length < s.length := by
  unfold someDigits at h
  split at h
  · cases h
  · rename_i b t
    split at h
    · rename_i hb
      cases h
      simp only [List.dropWhile_cons, hb, if_true, List.length_cons]
      exact Nat.lt_succ_of_le (List.dropWhile_sublist _).length_le
    · cases h

/-- What is made of some digits ends where they end. -/
theorem length_of_map_someDigits {α : Type} {e : Fault} {s r : List UInt8} {a : α}
    {f : List UInt8 × List UInt8 → α × List UInt8} (h : (someDigits e s).map f = .ok (a, r))
    (keeps : ∀ p, (f p).2 = p.2) : r.length < s.length := by
  cases hs : someDigits e s with
  | error fault =>
    rw [hs] at h
    cases h
  | ok p =>
    rw [hs] at h
    have same : p.2 = r := (keeps p).symm.trans (congrArg Prod.snd (Except.ok.inj h))
    exact same ▸ length_of_someDigits hs

theorem length_of_wholeDigits {e : Fault} {s r d : List UInt8}
    (h : wholeDigits e s = .ok (d, r)) : r.length < s.length := by
  revert h
  fun_cases wholeDigits e s with
  | case2 | case3 => rintro ⟨⟩; exact Nat.lt_succ_self _
  | case4 => exact length_of_someDigits
  | _ => nofun

theorem length_of_fractionDigits {e : Fault} {s r : List UInt8} {d : Option (List UInt8)}
    (h : fractionDigits e s = .ok (d, r)) : r.length ≤ s.length := by
  revert h
  fun_cases fractionDigits e s with
  | case1 =>
    intro h
    exact Nat.le_succ_of_le (Nat.le_of_lt (length_of_map_someDigits h fun _ => rfl))
  | case2 | case3 => rintro ⟨⟩; exact Nat.le_refl _

theorem length_of_exponentDigits {e : Fault} {s r : List UInt8} {d : Option (Bool × List UInt8)}
    (h : exponentDigits e s = .ok (d, r)) : r.length ≤ s.length := by
  revert h
  fun_cases exponentDigits e s with
  | case1 | case2 =>
    intro h
    have shorter := length_of_map_someDigits h fun _ => rfl
    simp only [List.length_cons]
    omega
  | case3 =>
    intro h
    exact Nat.le_succ_of_le (Nat.le_of_lt (length_of_map_someDigits h fun _ => rfl))
  | case4 => nofun
  | case5 | case6 => rintro ⟨⟩; exact Nat.le_refl _

theorem length_of_figures {e : Fault} {s r : List UInt8} {n : Figures}
    (h : figures e s = .ok (n, r)) : r.length < s.length := by
  revert h
  fun_cases figures e s with
  | case4 _ _ whole _ _ fraction _ _ exponent =>
    have first := length_of_wholeDigits whole
    have second := length_of_fractionDigits fraction
    have third := length_of_exponentDigits exponent
    rintro ⟨⟩
    omega
  | _ => nofun

/-! ### Values -/

/-- The value of a decimal digit. -/
def digitValue (b : UInt8) : Nat :=
  b.toNat - '0'.toNat

/-- The number that some decimal digits write. -/
def digitsValue (s : List UInt8) : Nat :=
  s.foldl (fun n b => n * 10 + digitValue b) 0

/-- The number of values of 64 bits. -/
def wordBound : Nat := 0x10000000000000000

/-- Adds digits to a number as long as it has at most 64 bits, and counts those that
are left out from the first that does not fit. -/
def takeDigits (n : Nat) : List UInt8 → Nat × Nat
  | [] => (n, 0)
  | b :: s =>
    if n * 10 + digitValue b < wordBound then takeDigits (n * 10 + digitValue b) s
    else (n, s.length + 1)

/-- A number of at most 64 bits and the power of ten that it is multiplied with. -/
structure Scaled where
  /-- The number that the digits write. -/
  significand : Nat
  /-- The exponent of ten. -/
  power : Int

/-- Figures as a number of 64 bits and a power of ten. Digits before the point that
do not fit count for the power, and those behind it not at all. -/
def Figures.scaled (n : Figures) : Scaled :=
  let (whole, surplus) := takeDigits 0 n.whole
  let behind := n.fraction.getD []
  let (significand, unread) := takeDigits whole behind
  let written : Int :=
    match n.exponent with
    | none => 0
    | some (minus, e) => if minus then -(digitsValue e : Int) else digitsValue e
  ⟨significand, written + surplus - (behind.length - unread : Nat)⟩

/-- The largest power of ten that is below every bound of a double. -/
def lastPower : Nat := 308

/-- Whether a number is too large for a double: the product of the doubles that are
nearest to its two parts is beyond all of them. -/
def Scaled.isTooLarge (x : Scaled) : Bool :=
  match x.power with
  | .negSucc _ => false
  | .ofNat e =>
    x.significand != 0 &&
      (lastPower < e ||
        Text.beyondDouble (Text.toDouble x.significand * Text.toDouble (Nat.pow 10 e)) 0)

/-- The number that some figures write, if it is natural and has at most 64
bits; nothing if it is of another kind. One too large for a double is refused. -/
def Figures.value (n : Figures) : Except Fault (Option Nat) :=
  if n.fraction.isNone && n.exponent.isNone && digitsValue n.whole < wordBound then
    .ok (some (digitsValue n.whole))
  else if n.scaled.isTooLarge then .error .malformed
  else .ok none

end FlashStation.Json
