/-
# Written words read back

The words of a document are written by one side and read by another. What is written for some
characters decodes to them; what is written for a text between quotes is read as that text, and is
passed over by who does not want it; and the digits that are written for a number have that number
for their value.

Key definitions: `Json.Stops`.
Key theorems: `Utf8.decodeChars?_encodeChars`, `Json.quoted_quote`, `Json.passQuoted_quoted`,
`Json.digitsValue_decimal`.
-/
import Mathlib.Data.List.Basic
import FlashStation.Json.Reader
import FlashStation.Json.Value

namespace FlashStation

open Text

/-! ### Characters and bytes -/

namespace Text.Utf8

theorem encodeChars_append (s t : List Char) :
    encodeChars (s ++ t) = encodeChars s ++ encodeChars t :=
  List.flatMap_append

theorem encodeChars_cons (c : Char) (s : List Char) :
    encodeChars (c :: s) = encodeChar c ++ encodeChars s := rfl

/-- A character of ASCII is one byte. -/
theorem encodeChar_ascii {c : Char} (h : c.toNat < 0x80) : encodeChar c = [Json.code c] := by
  simp [encodeChar, h, Json.code]

theorem toNat_toUInt8 {n : Nat} (h : n < 256) : n.toUInt8.toNat = n :=
  UInt8.toNat_ofNat'.trans (Nat.mod_eq_of_lt h)

theorem toUInt8_lt {n : Nat} (h : n < 256) (b : UInt8) : n.toUInt8 < b ↔ n < b.toNat := by
  rw [UInt8.lt_iff_toNat_lt, toNat_toUInt8 h]

/-- A byte that continues a character, by its six bits. -/
theorem isTail_toUInt8 {n : Nat} (h : n < 0x40) : isTail (0x80 + n).toUInt8 = true := by
  simp only [isTail, UInt8.le_iff_toNat_le, toNat_toUInt8 (show 0x80 + n < 256 by omega),
    Bool.and_eq_true, decide_eq_true_eq, UInt8.reduceToNat]
  omega

theorem tailBits_toUInt8 {n : Nat} (h : n < 0x40) : tailBits (0x80 + n).toUInt8 = n := by
  have whole := toNat_toUInt8 (show 0x80 + n < 256 by omega)
  unfold tailBits
  omega

section
variable {a b c d : Nat} (rest : List UInt8)

/-- A byte of ASCII decodes. -/
theorem decodeChars?_one (ha : a < 0x80) :
    decodeChars? (a.toUInt8 :: rest) = (decodeChars? rest).map (Char.ofNat a :: ·) := by
  rw [decodeChars?.eq_def]
  simp only [toUInt8_lt (show a < 256 by omega), UInt8.reduceToNat, ha, if_true,
    toNat_toUInt8 (show a < 256 by omega)]

/-- A sequence of two bytes decodes. -/
theorem decodeChars?_two (ha : 0xC2 ≤ a) (ha' : a < 0xE0) (hb : b < 0x40) :
    decodeChars? (a.toUInt8 :: (0x80 + b).toUInt8 :: rest) =
      (decodeChars? rest).map (Char.ofNat ((a - 0xC0) * 0x40 + b) :: ·) := by
  rw [decodeChars?.eq_def]
  simp only [toUInt8_lt (show a < 256 by omega), UInt8.reduceToNat, show ¬ a < 0x80 by omega,
    show ¬ a < 0xC2 by omega, ha', if_true, if_false, isTail_toUInt8 hb, tailBits_toUInt8 hb,
    toNat_toUInt8 (show a < 256 by omega)]

/-- A sequence of three bytes decodes, unless it is too long for its value or a surrogate. -/
theorem decodeChars?_three (ha : 0xE0 ≤ a) (ha' : a < 0xF0) (hb : b < 0x40) (hc : c < 0x40)
    (long : 0x800 ≤ (a - 0xE0) * 0x1000 + b * 0x40 + c)
    (plain : (a - 0xE0) * 0x1000 + b * 0x40 + c < 0xD800 ∨
      0xDFFF < (a - 0xE0) * 0x1000 + b * 0x40 + c) :
    decodeChars? (a.toUInt8 :: (0x80 + b).toUInt8 :: (0x80 + c).toUInt8 :: rest) =
      (decodeChars? rest).map (Char.ofNat ((a - 0xE0) * 0x1000 + b * 0x40 + c) :: ·) := by
  rw [decodeChars?.eq_def]
  simp only [toUInt8_lt (show a < 256 by omega), UInt8.reduceToNat, show ¬ a < 0x80 by omega,
    show ¬ a < 0xC2 by omega, show ¬ a < 0xE0 by omega, ha', if_true, if_false, isTail_toUInt8 hb,
    isTail_toUInt8 hc, tailBits_toUInt8 hb, tailBits_toUInt8 hc,
    toNat_toUInt8 (show a < 256 by omega)]
  rw [if_pos]
  simp only [Bool.true_and, Bool.and_eq_true, decide_eq_true_eq, Bool.not_eq_true',
    Bool.and_eq_false_iff, decide_eq_false_iff_not]
  omega

/-- A sequence of four bytes decodes, unless it is too long for its value or that too large. -/
theorem decodeChars?_four (ha : 0xF0 ≤ a) (ha' : a < 0xF5) (hb : b < 0x40) (hc : c < 0x40)
    (hd : d < 0x40) (long : 0x10000 ≤ (a - 0xF0) * 0x40000 + b * 0x1000 + c * 0x40 + d)
    (small : (a - 0xF0) * 0x40000 + b * 0x1000 + c * 0x40 + d ≤ 0x10FFFF) :
    decodeChars? (a.toUInt8 :: (0x80 + b).toUInt8 :: (0x80 + c).toUInt8 :: (0x80 + d).toUInt8 ::
        rest) =
      (decodeChars? rest).map
        (Char.ofNat ((a - 0xF0) * 0x40000 + b * 0x1000 + c * 0x40 + d) :: ·) := by
  rw [decodeChars?.eq_def]
  simp only [toUInt8_lt (show a < 256 by omega), UInt8.reduceToNat, show ¬ a < 0x80 by omega,
    show ¬ a < 0xC2 by omega, show ¬ a < 0xE0 by omega, show ¬ a < 0xF0 by omega, ha', if_true,
    if_false, isTail_toUInt8 hb, isTail_toUInt8 hc, isTail_toUInt8 hd, tailBits_toUInt8 hb,
    tailBits_toUInt8 hc, tailBits_toUInt8 hd, toNat_toUInt8 (show a < 256 by omega), long, small,
    decide_true, Bool.and_self]

end

theorem encodeChars_ascii {s : List Char} (h : ∀ c ∈ s, c.toNat < 0x80) :
    encodeChars s = s.map Json.code := by
  induction s with
  | nil => rfl
  | cons c s ih =>
    obtain ⟨first, rest⟩ := List.forall_mem_cons.mp h
    rw [encodeChars_cons, encodeChar_ascii first, ih rest, List.map_cons, List.singleton_append]

/-- The encoding of a character decodes to it, whatever follows. -/
theorem decodeChars?_encodeChar (c : Char) (rest : List UInt8) :
    decodeChars? (encodeChar c ++ rest) = (decodeChars? rest).map (c :: ·) := by
  have valid : c.toNat < 0xD800 ∨ 0xDFFF < c.toNat ∧ c.toNat < 0x110000 := c.valid
  have whole {n : Nat} (h : n = c.toNat) : Char.ofNat n = c := h ▸ Char.ofNat_toNat c
  simp only [encodeChar]
  -- one case for each length of the encoding
  split_ifs with one two three
  · exact (decodeChars?_one rest one).trans (by rw [whole rfl])
  · refine (decodeChars?_two rest ?_ ?_ ?_).trans (by rw [whole]; omega) <;> omega
  · refine (decodeChars?_three rest ?_ ?_ ?_ ?_ ?_ ?_).trans (by rw [whole]; omega) <;> omega
  · refine (decodeChars?_four rest ?_ ?_ ?_ ?_ ?_ ?_ ?_).trans (by rw [whole]; omega) <;> omega

theorem decodeChars?_encodeChars (s : List Char) : decodeChars? (encodeChars s) = some s := by
  induction s with
  | nil => rfl
  | cons c s ih => rw [encodeChars_cons, decodeChars?_encodeChar, ih, Option.map_some]

/-- **What is written for a text decodes to it.** -/
theorem decode?_encode (s : String) : decode? (encode s) = some s := by
  rw [decode?, encode, decodeChars?_encodeChars, Option.map_some, String.ofList_toList]

end Text.Utf8

/-! ### Quoted texts -/

namespace Json

open Utf8

/-- What an escape stands for is read as its character. -/
theorem quotedBytes_escape {s rest : List UInt8} {c : Char} (h : escapedChar s = .ok (c, rest)) :
    quotedBytes (code '\\' :: s) =
      (quotedBytes rest).map fun r => (encodeChar c ++ r.1, r.2) := by
  rw [quotedBytes, if_neg (by decide), if_pos rfl]
  split
  · rename_i f fault
    rw [h] at fault
    cases fault
  · rename_i c' rest' found
    rw [h] at found
    cases found
    rfl

/-- Whether a byte stands for itself between quotes. -/
def IsRaw (b : UInt8) : Prop :=
  b ≠ code '"' ∧ b ≠ code '\\' ∧ ¬ b < 0x20

theorem quotedBytes_raw {w : List UInt8} (raw : ∀ b ∈ w, IsRaw b) (s : List UInt8) :
    quotedBytes (w ++ s) = (quotedBytes s).map fun r => (w ++ r.1, r.2) := by
  induction w with
  | nil =>
    rw [List.nil_append]
    cases quotedBytes s <;> rfl
  | cons b w ih =>
    obtain ⟨quote, slash, control⟩ := raw b List.mem_cons_self
    rw [List.cons_append, quotedBytes, if_neg quote, if_neg slash, if_neg control,
      ih fun b' h => raw b' (List.mem_cons_of_mem _ h)]
    cases quotedBytes s <;> rfl

theorem isRaw_toUInt8 {n : Nat} (byte : n < 256) (control : 0x20 ≤ n) (quote : n ≠ '"'.toNat)
    (slash : n ≠ '\\'.toNat) : IsRaw n.toUInt8 := by
  have differs {m : Nat} (hm : m < 256) (h : n ≠ m) : n.toUInt8 ≠ m.toUInt8 := fun same => h <| by
    rw [← toNat_toUInt8 byte, ← toNat_toUInt8 hm, same]
  refine ⟨differs (by decide) quote, differs (by decide) slash, ?_⟩
  rw [toUInt8_lt byte]
  exact Nat.not_lt.mpr control

/-- A character that needs no escape stands for itself, byte for byte. -/
theorem isRaw_encodeChar {c : Char} (quote : c ≠ '"') (slash : c ≠ '\\') (h : 0x20 ≤ c.toNat) :
    ∀ b ∈ encodeChar c, IsRaw b := by
  have valid : c.toNat < 0xD800 ∨ 0xDFFF < c.toNat ∧ c.toNat < 0x110000 := c.valid
  -- the bytes of a longer encoding are beyond ASCII
  have beyond {n : Nat} (byte : n < 256) (high : 0x80 ≤ n) : IsRaw n.toUInt8 :=
    isRaw_toUInt8 byte (by omega) (Nat.ne_of_gt (Nat.lt_of_lt_of_le (by decide) high))
      (Nat.ne_of_gt (Nat.lt_of_lt_of_le (by decide) high))
  simp only [encodeChar]
  split_ifs <;> simp only [List.forall_mem_cons, List.not_mem_nil, false_implies, implies_true,
    and_true]
  · exact isRaw_toUInt8 (by omega) h (mt Char.toNat_inj.mp quote) (mt Char.toNat_inj.mp slash)
  · exact ⟨beyond (by omega) (by omega), beyond (by omega) (by omega)⟩
  · exact ⟨beyond (by omega) (by omega), beyond (by omega) (by omega), beyond (by omega) (by omega)⟩
  · exact ⟨beyond (by omega) (by omega), beyond (by omega) (by omega), beyond (by omega) (by omega),
      beyond (by omega) (by omega)⟩

/-- Two hexadecimal digits behind two zeros are read as the number they write. -/
theorem hexUnit_hexByte {n : Nat} (h : n < 0x20) (s : List UInt8) :
    hexUnit (code '0' :: code '0' :: ((hexByte n.toUInt8).map code ++ s)) = .ok (n, s) := by
  have units : ∀ n : Fin 0x20, hexUnit? (code '0') (code '0')
      (code (Nat.digitChar (n.val.toUInt8.toNat / 16)))
      (code (Nat.digitChar (n.val.toUInt8.toNat % 16))) = some n.val := by decide
  rw [hexByte, List.map_cons, List.map_cons, List.map_nil, List.cons_append, List.cons_append,
    List.nil_append, hexUnit, units ⟨n, h⟩]

theorem escapedChar_unit {n : Nat} {t s : List UInt8} (h : hexUnit t = .ok (n, s))
    (plain : n < 0xD800) : escapedChar (code 'u' :: t) = .ok (Char.ofNat n, s) := by
  have letter : letterEscape? (code 'u') = none := by decide
  simp only [escapedChar, letter, h, ne_eq, not_true, if_false, plain, true_or, if_true]

theorem digitChar_ascii {n : Nat} (h : n < 16) : (Nat.digitChar n).toNat < 0x80 := by
  have all : ∀ n : Fin 16, (Nat.digitChar n.val).toNat < 0x80 := by decide
  exact all ⟨n, h⟩

theorem hexByte_ascii (b : UInt8) : ∀ c ∈ hexByte b, c.toNat < 0x80 := by
  have small := b.toNat_lt
  rw [hexByte, List.forall_mem_cons, List.forall_mem_singleton]
  exact ⟨digitChar_ascii (by omega), digitChar_ascii (by omega)⟩

/-- What escapes a character is read as that character. -/
theorem quotedBytes_escaped (c : Char) (s : List UInt8) :
    quotedBytes (encodeChars (escape c) ++ s) =
      (quotedBytes s).map fun r => (encodeChar c ++ r.1, r.2) := by
  unfold escape
  split_ifs with quote slash back feed line turn tab control
  · subst quote
    exact quotedBytes_escape rfl
  · subst slash
    exact quotedBytes_escape rfl
  · subst back
    exact quotedBytes_escape rfl
  · subst feed
    exact quotedBytes_escape rfl
  · subst line
    exact quotedBytes_escape rfl
  · subst turn
    exact quotedBytes_escape rfl
  · subst tab
    exact quotedBytes_escape rfl
  · have unit := escapedChar_unit (hexUnit_hexByte control s) (by omega)
    rw [Char.ofNat_toNat] at unit
    rw [encodeChars_append, encodeChars_ascii (hexByte_ascii _)]
    exact quotedBytes_escape unit
  · rw [encodeChars_cons]
    refine (congrArg (quotedBytes <| · ++ s) (List.append_nil _)).trans ?_
    exact quotedBytes_raw (isRaw_encodeChar quote slash (Nat.not_lt.mp control)) s

theorem quotedBytes_quoted (s : List Char) (rest : List UInt8) :
    quotedBytes (encodeChars (s.flatMap escape) ++ code '"' :: rest) =
      .ok (encodeChars s, rest) := by
  induction s with
  | nil =>
    rw [List.flatMap_nil, encodeChars, List.flatMap_nil, List.nil_append, quotedBytes, if_pos rfl]
  | cons c s ih =>
    rw [List.flatMap_cons, encodeChars_append, List.append_assoc, quotedBytes_escaped, ih,
      encodeChars_cons]
    rfl

/-- The bytes of a quoted text behind the opening quote. -/
theorem encodeChars_quote (s : String) (rest : List UInt8) :
    encodeChars (quote s) ++ rest =
      code '"' :: (encodeChars (s.toList.flatMap escape) ++ code '"' :: rest) := by
  rw [quote, encodeChars_cons, encodeChars_append, List.append_assoc, List.append_assoc]
  rfl

/-- **A text that was written between quotes is read as that text.** -/
theorem quoted_quote (s : String) (rest : List UInt8) :
    quoted (encodeChars (s.toList.flatMap escape) ++ code '"' :: rest) = .ok (s, rest) := by
  have text : decode? (encodeChars s.toList) = some s := decode?_encode s
  rw [quoted, quotedBytes_quoted]
  simp only [text]

/-! ### Quoted texts that are passed over -/

theorem passQuoted_escape {s rest : List UInt8} (h : passEscape s = .ok rest) :
    passQuoted (code '\\' :: s) = passQuoted rest := by
  rw [passQuoted, if_neg (by decide), if_pos rfl]
  split
  · rename_i f fault
    rw [h] at fault
    cases fault
  · rename_i rest' found
    rw [h] at found
    cases found
    rfl

theorem passEscape_unit {n : Nat} {t s : List UInt8} (h : hexUnit t = .ok (n, s)) :
    passEscape (code 'u' :: t) = .ok s := by
  have letter : letterEscape? (code 'u') = none := by decide
  simp only [passEscape, letter, h, Option.isSome_none, Bool.false_eq_true, ne_eq, not_true,
    if_false]

/-- The second half of a pair of surrogates is an escape too. -/
theorem lowSurrogate_inv {s rest : List UInt8} {m : Nat} (h : lowSurrogate s = .ok (m, rest)) :
    ∃ t, s = code '\\' :: code 'u' :: t ∧ hexUnit t = .ok (m, rest) := by
  unfold lowSurrogate at h
  split at h
  · cases h
  · rename_i a s
    split_ifs at h with slash
    split at h
    · cases h
    · rename_i b s
      split_ifs at h with letter
      split at h
      · cases h
      · rename_i n t unit
        split_ifs at h
        cases h
        exact ⟨s, by rw [not_not.mp slash, not_not.mp letter], unit⟩

/-- What is read as an escape is passed over, if not as one escape then as two. -/
theorem passQuoted_escapedChar {s rest : List UInt8} {c : Char}
    (h : escapedChar s = .ok (c, rest)) : passQuoted (code '\\' :: s) = passQuoted rest := by
  unfold escapedChar at h
  split at h
  · cases h
  · rename_i b s
    split at h
    · rename_i c' letter
      cases h
      exact passQuoted_escape (by rw [passEscape, letter, Option.isSome_some, if_pos rfl])
    · split_ifs at h with unit?
      obtain rfl := not_not.mp unit?
      split at h
      · cases h
      · rename_i n s' unit
        have first := passQuoted_escape (passEscape_unit unit)
        split_ifs at h
        · cases h
          exact first
        · split at h
          · cases h
          · rename_i m s'' low
            obtain ⟨-, rfl⟩ := Prod.mk.inj (Except.ok.inj h)
            obtain ⟨t, rfl, second⟩ := lowSurrogate_inv low
            exact first.trans (passQuoted_escape (passEscape_unit second))

/-- More bytes in front of what is read leave what follows as it is. -/
theorem map_rest {r : Except Fault (List UInt8 × List UInt8)} {w bytes rest : List UInt8}
    (h : (r.map fun p => (w ++ p.1, p.2)) = .ok (bytes, rest)) : ∃ more, r = .ok (more, rest) := by
  cases r with
  | error f => cases h
  | ok p =>
    cases h
    exact ⟨p.1, rfl⟩

/-- Who wants no text passes over what is read as one. -/
theorem passQuoted_quotedBytes {s rest bytes : List UInt8} (h : quotedBytes s = .ok (bytes, rest)) :
    passQuoted s = .ok rest := by
  fun_induction quotedBytes s generalizing bytes with
  | case1 => cases h
  | case2 =>
    cases h
    rw [passQuoted, if_pos rfl]
  | case3 => cases h
  | case4 s c rest' escaped _ ih =>
    obtain ⟨more, read⟩ := map_rest h
    rw [passQuoted_escapedChar escaped]
    exact ih read
  | case5 => cases h
  | case6 b s quote slash control ih =>
    obtain ⟨more, read⟩ := map_rest (w := [b]) h
    rw [passQuoted, if_neg quote, if_neg slash, if_neg control]
    exact ih read

/-- A quoted text is passed over. -/
theorem passQuoted_quoted (s : List Char) (rest : List UInt8) :
    passQuoted (encodeChars (s.flatMap escape) ++ code '"' :: rest) = .ok rest :=
  passQuoted_quotedBytes (quotedBytes_quoted s rest)

/-! ### Numbers -/

/-- Whether a number could go on with a byte. -/
def continues (b : UInt8) : Bool :=
  isDigit b || b == code '.' || b == code 'e' || b == code 'E'

/-- A number in front of these bytes is at its end. -/
def Stops (s : List UInt8) : Prop :=
  ∀ b ∈ s.head?, continues b = false

theorem Stops.cons {b : UInt8} (h : continues b = false) (s : List UInt8) : Stops (b :: s) := by
  intro b' hb
  rw [List.head?_cons, Option.mem_some_iff] at hb
  exact hb ▸ h

theorem Stops.nil : Stops [] := nofun

/-- A number in decimal, as bytes. -/
def decimal (n : Nat) : List UInt8 :=
  encodeChars (Nat.toDigits 10 n)

theorem decimal_eq (n : Nat) : decimal n = (Nat.toDigits 10 n).map code := by
  refine encodeChars_ascii fun c hc => ?_
  have digit := Nat.isDigit_of_mem_toDigits (by decide) (by decide) hc
  rw [Char.isDigit, Bool.and_eq_true, decide_eq_true_eq, decide_eq_true_eq] at digit
  exact Nat.lt_of_le_of_lt (UInt32.le_iff_toNat_le.mp digit.2) (by decide)

theorem isDigit_digitChar {n : Nat} (h : n < 10) : isDigit (code (Nat.digitChar n)) = true := by
  have all : ∀ n : Fin 10, isDigit (code (Nat.digitChar n.val)) = true := by decide
  exact all ⟨n, h⟩

theorem digitValue_digitChar {n : Nat} (h : n < 10) : digitValue (code (Nat.digitChar n)) = n := by
  have all : ∀ n : Fin 10, digitValue (code (Nat.digitChar n.val)) = n.val := by decide
  exact all ⟨n, h⟩

theorem decimal_small {n : Nat} (h : n < 10) : decimal n = [code (Nat.digitChar n)] := by
  rw [decimal_eq, Nat.toDigits_of_lt_base h, List.map_singleton]

theorem decimal_large {n : Nat} (h : 10 ≤ n) :
    decimal n = decimal (n / 10) ++ [code (Nat.digitChar (n % 10))] := by
  rw [decimal_eq, decimal_eq, Nat.toDigits_of_base_le (by decide) h, List.map_append,
    List.map_singleton]

/-- Every byte of a number in decimal is a digit. -/
theorem isDigit_decimal (n : Nat) : ∀ b ∈ decimal n, isDigit b = true := by
  induction n using Nat.strongRecOn with
  | ind n ih =>
    rcases Nat.lt_or_ge n 10 with small | large
    · rw [decimal_small small, List.forall_mem_singleton]
      exact isDigit_digitChar small
    · rw [decimal_large large, List.forall_mem_append, List.forall_mem_singleton]
      exact ⟨ih _ (by omega), isDigit_digitChar (by omega)⟩

/-- The digits of a number in decimal write that number. -/
theorem digitsValue_decimal (n : Nat) : digitsValue (decimal n) = n := by
  induction n using Nat.strongRecOn with
  | ind n ih =>
    rcases Nat.lt_or_ge n 10 with small | large
    · rw [decimal_small small, digitsValue, List.foldl_cons, List.foldl_nil,
        digitValue_digitChar small, Nat.zero_mul, Nat.zero_add]
    · have high := ih (n / 10) (by omega)
      rw [digitsValue] at high ⊢
      rw [decimal_large large, List.foldl_append, high, List.foldl_cons, List.foldl_nil,
        digitValue_digitChar (by omega)]
      omega

/-- Only the number zero starts with that digit. -/
theorem decimal_cons (n : Nat) : ∃ b s, decimal n = b :: s ∧ (b = code '0' → s = []) := by
  induction n using Nat.strongRecOn with
  | ind n ih =>
    rcases Nat.lt_or_ge n 10 with small | large
    · exact ⟨_, [], decimal_small small, fun _ => rfl⟩
    · obtain ⟨b, s, high, zero⟩ := ih (n / 10) (by omega)
      refine ⟨b, s ++ [code (Nat.digitChar (n % 10))], by rw [decimal_large large, high]; rfl,
        fun lead => ?_⟩
      -- a leading zero would be all that there is of the higher digits
      have none := digitsValue_decimal (n / 10)
      rw [high, zero lead, lead, show digitsValue [code '0'] = 0 from rfl] at none
      omega

theorem Stops.head {b : UInt8} {s : List UInt8} (h : Stops (b :: s)) :
    isDigit b = false ∧ b ≠ code '.' ∧ b ≠ code 'e' ∧ b ≠ code 'E' := by
  have ends := h b rfl
  simpa only [continues, Bool.or_eq_false_iff, beq_eq_false_iff_ne, and_assoc] using ends

/-- The value of these digits is the number, if it has at most 64 bits. -/
theorem value_decimal {n : Nat} (h : n < wordBound) :
    Figures.value ⟨decimal n, none, none⟩ = .ok (some n) := by
  simp only [Figures.value, Option.isNone_none, Bool.true_and, digitsValue_decimal, h, decide_true,
    if_true]

end Json

end FlashStation
