/-
# Passing over a JSON value

A value that nobody wants is passed over: it has to be JSON, but its texts and
numbers are not looked into, and there is no bound on how deep it is nested.
The lists and objects that are open are kept on a stack, the innermost first.

Key definitions: `Json.skipFrom`, `Json.skip`.
-/
import FlashStation.Json.Lexis

namespace FlashStation.Json

/-- A list or an object that is open. -/
inductive Enclosure where
  /-- A list. -/
  | list
  /-- An object. -/
  | object
  deriving DecidableEq, Repr

/-- The byte that ends a list or an object. -/
def Enclosure.closing : Enclosure → UInt8
  | .list => code ']'
  | .object => code '\x7d'

/-- What is due at a place inside a document. -/
inductive Due where
  /-- A value. -/
  | value
  /-- The name of a member. -/
  | key
  /-- The end of what was opened last, or its first item or member. -/
  | first
  /-- The end of what was opened last, or a comma. -/
  | more
  deriving DecidableEq, Repr

/-- What is due behind the comma in an enclosure. -/
def Enclosure.inside : Enclosure → Due
  | .list => .value
  | .object => .key

/-- A rank that falls when one due thing stands for another at the same place. -/
def Due.rank : Due → Nat
  | .first => 1
  | _ => 0

/-- A value that is no list and no object, passed over. -/
def skipScalar : List UInt8 → Except Fault (List UInt8)
  | [] => .error .truncated
  | b :: s =>
    if b = code 'n' then name ['u', 'l', 'l'] s
    else if b = code 't' then name ['r', 'u', 'e'] s
    else if b = code 'f' then name ['a', 'l', 's', 'e'] s
    else if b = code '"' then passQuoted s
    else if b = code '-' then (figures .malformed s).map (·.2)
    else if isDigit b then (figures .malformed (b :: s)).map (·.2)
    else .error .malformed

/-- The name of a member and the colon behind it, passed over. -/
def skipKey : List UInt8 → Except Fault (List UInt8)
  | [] => .error .truncated
  | b :: s =>
    if b ≠ code '"' then .error .malformed
    else
      match passQuoted s with
      | .error f => .error f
      | .ok s =>
        match dropSpace s with
        | [] => .error .truncated
        | c :: s => if c = code ':' then .ok s else .error .malformed

theorem length_of_skipScalar {s r : List UInt8} (h : skipScalar s = .ok r) :
    r.length < s.length := by
  have key (t : List UInt8) (h : (figures .malformed t).map (·.2) = .ok r) :
      r.length < t.length := by
    cases hs : figures .malformed t with
    | error f => simp [hs, Except.map] at h
    | ok p =>
      have := length_of_figures (n := p.1) (r := p.2) hs
      simp only [hs, Except.map, Except.ok.injEq] at h
      rwa [← h]
  unfold skipScalar at h
  split at h
  · cases h
  · simp only [List.length_cons]
    repeat' split at h
    · exact Nat.lt_succ_of_le (length_of_name h)
    · exact Nat.lt_succ_of_le (length_of_name h)
    · exact Nat.lt_succ_of_le (length_of_name h)
    · exact Nat.lt_succ_of_lt (length_of_passQuoted h)
    · exact Nat.lt_succ_of_lt (key _ h)
    · exact key _ h
    · cases h

theorem length_of_skipKey {s r : List UInt8} (h : skipKey s = .ok r) : r.length < s.length := by
  revert h
  fun_cases skipKey s with
  | case5 _ _ _ t passed _ colon =>
    have shorter := length_of_passQuoted passed
    have spaced := length_dropSpace_le t
    rw [colon, List.length_cons] at spaced
    rintro ⟨⟩
    simp only [List.length_cons]
    omega
  | _ => nofun

/-- Passes over the rest of a value, from a place where `due` is due and the
enclosures of the stack are open, and gives what follows the value. -/
def skipFrom (due : Due) (stack : List Enclosure) (s : List UInt8) :
    Except Fault (List UInt8) :=
  match due, stack with
  | .value, stack =>
    match _h : dropSpace s with
    | [] => .error .truncated
    | b :: t =>
      if b = code '[' then skipFrom .first (.list :: stack) t
      else if b = code '\x7b' then skipFrom .first (.object :: stack) t
      else
        match _h : skipScalar (b :: t) with
        | .error f => .error f
        | .ok r => skipFrom .more stack r
  | .key, stack =>
    match _h : skipKey (dropSpace s) with
    | .error f => .error f
    | .ok r => skipFrom .value stack r
  | .first, [] => .ok s
  | .first, e :: stack =>
    match _h : dropSpace s with
    | [] => .error .truncated
    | b :: t =>
      if b = e.closing then skipFrom .more stack t
      else skipFrom e.inside (e :: stack) s
  | .more, [] => .ok s
  | .more, e :: stack =>
    match _h : dropSpace s with
    | [] => .error .truncated
    | b :: t =>
      if b = code ',' then skipFrom e.inside (e :: stack) t
      else if b = e.closing then skipFrom .more stack t
      else .error .malformed
termination_by (s.length, due.rank)
decreasing_by
  all_goals
    have := length_dropSpace_le s
    first
      | (have shorter := length_of_skipScalar (by assumption); simp_all only [List.length_cons]
         apply Prod.Lex.left; omega)
      | (have shorter := length_of_skipKey (by assumption); apply Prod.Lex.left; omega)
      | (simp_all only [List.length_cons]; apply Prod.Lex.left; omega)
      | (cases e <;> apply Prod.Lex.right <;> decide)

/-- Passes over one value. -/
def skip (s : List UInt8) : Except Fault (List UInt8) :=
  skipFrom .value [] s

end FlashStation.Json
