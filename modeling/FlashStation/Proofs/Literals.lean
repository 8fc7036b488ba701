/-
# What an address literal is

A text without the blanks at its ends is one part of it, and there is only one. A numeral is an
optional sign and one or more digits, and the number that it writes is that of its digits, however
many zeros lead them. An address is read from exactly the texts that hold a numeral below the bound,
in hexadecimal behind a mark and in decimal without one; every other text is refused as it was
given.

Key definitions: `Text.Stripped`, `Text.IsDigit`, `Text.Numeral`, `AddressLiteral`.
Key theorems: `Text.stripped_iff`, `Text.readNumeral_ok_iff`, `readAddress_ok_iff`,
`address_grammar`.
-/
import Mathlib.Data.Nat.Digits.Defs
import Mathlib.Data.List.Forall2
import Mathlib.Data.List.TakeWhile
import Mathlib.Tactic.Ring
import FlashStation.Image.Address

namespace FlashStation

namespace Text

/-! ### Without the blanks at the ends -/

/-- No text begins with a blank. -/
def Bare (t : List Char) : Prop :=
  ∀ c ∈ t.head?, isBlank c = false

/-- What is left of a text without the blanks at its ends. -/
def Stripped (s t : List Char) : Prop :=
  ∃ front back, s = front ++ (t ++ back) ∧ (∀ c ∈ front, isBlank c = true) ∧
    (∀ c ∈ back, isBlank c = true) ∧ Bare t ∧ Bare t.reverse

/-- Blanks in front of a text that begins with none are dropped, and nothing else. -/
theorem dropWhile_bare {front t : List Char} (blank : ∀ c ∈ front, isBlank c = true)
    (bare : Bare t) : (front ++ t).dropWhile isBlank = t := by
  rw [List.dropWhile_append_of_pos blank]
  cases t with
  | nil => rfl
  | cons c t => rw [List.dropWhile_cons, bare c rfl, if_neg Bool.false_ne_true]

theorem bare_dropWhile (s : List Char) : Bare (s.dropWhile isBlank) := by
  induction s with
  | nil => exact nofun
  | cons c s ih =>
    rw [List.dropWhile_cons]
    split
    · exact ih
    · rename_i plain
      rintro c' ⟨⟩
      exact Bool.eq_false_iff.mpr plain

/-- A text keeps its beginning when blanks are dropped from its end. -/
theorem Bare.front {t back : List Char} (bare : Bare (t ++ back)) : Bare t := by
  cases t with
  | nil => exact nofun
  | cons c t => exact bare

/-- Without the blanks at its end, a text is what stands before them. -/
theorem trimEndChars_eq {s kept blanks : List Char} (split : s = kept ++ blanks)
    (blank : ∀ c ∈ blanks, isBlank c = true) (bare : Bare kept.reverse) : trimEndChars s = kept := by
  have behind : ∀ c ∈ blanks.reverse, isBlank c = true := fun c hc => blank c (List.mem_reverse.mp hc)
  rw [trimEndChars, split, List.reverse_append, dropWhile_bare behind bare, List.reverse_reverse]

/-- A text is what is left without the blanks at its end, and these blanks. -/
theorem trimEndChars_split (s : List Char) :
    ∃ blanks, s = trimEndChars s ++ blanks ∧ (∀ c ∈ blanks, isBlank c = true) ∧
      Bare (trimEndChars s).reverse := by
  refine ⟨(s.reverse.takeWhile isBlank).reverse, ?_, fun c hc => ?_, ?_⟩
  · rw [trimEndChars, ← List.reverse_append, List.takeWhile_append_dropWhile, List.reverse_reverse]
  · exact List.mem_takeWhile_imp (List.mem_reverse.mp hc)
  · rw [trimEndChars, List.reverse_reverse]
    exact bare_dropWhile s.reverse

/-- What is left without the blanks at the ends is what trimming leaves. -/
theorem Stripped.eq_trimChars {s t : List Char} (h : Stripped s t) : t = trimChars s := by
  obtain ⟨front, back, rfl, frontBlank, backBlank, bare, last⟩ := h
  rw [trimChars, trimStartChars]
  by_cases empty : t = []
  · -- there are only blanks, and those at the end may go with those in front
    subst empty
    have none : Bare [] := fun _ h => nomatch h
    rw [List.nil_append, ← List.append_nil (front ++ back),
      dropWhile_bare (List.forall_mem_append.mpr ⟨frontBlank, backBlank⟩) none]
    rfl
  · have whole : Bare (t ++ back) := by
      obtain ⟨c, t, rfl⟩ := List.exists_cons_of_ne_nil empty
      exact bare
    rw [dropWhile_bare frontBlank whole, trimEndChars_eq rfl backBlank last]

/-- Trimming drops the blanks at the ends, and leaves none there. -/
theorem stripped_trimChars (s : List Char) : Stripped s (trimChars s) := by
  obtain ⟨back, split, backBlank, last⟩ := trimEndChars_split (s.dropWhile isBlank)
  have whole : s = s.takeWhile isBlank ++ s.dropWhile isBlank :=
    List.takeWhile_append_dropWhile.symm
  refine ⟨s.takeWhile isBlank, back, ?_, fun c hc => List.mem_takeWhile_imp hc, backBlank, ?_, last⟩
  · exact whole.trans (congrArg (s.takeWhile isBlank ++ ·) split)
  · exact Bare.front (split ▸ bare_dropWhile s)

/-- **There is one text without the blanks at the ends.** -/
theorem stripped_iff (s t : List Char) : Stripped s t ↔ t = trimChars s :=
  ⟨Stripped.eq_trimChars, fun same => same ▸ stripped_trimChars s⟩

/-! ### Digits -/

/-- A character stands for a value below the base; letters stand for ten and up, small or
capital. -/
def IsDigit (base : Nat) (c : Char) (value : Nat) : Prop :=
  value < base ∧ (c = Nat.digitChar value ∨ c = (Nat.digitChar value).toUpper)

/-- Digits of a base, the highest first, and the number that they write. -/
def Writes (base : Nat) (digits : List Char) (n : Nat) : Prop :=
  ∃ values, List.Forall₂ (IsDigit base) digits values ∧ n = Nat.ofDigits base values.reverse

/-- An optional sign and one or more digits of a base, and the number that they write. -/
def Numeral (base : Nat) (s : List Char) (n : Nat) : Prop :=
  ∃ sign digits, s = sign ++ digits ∧ (sign = [] ∨ sign = ['+']) ∧ digits ≠ [] ∧
    Writes base digits n

theorem digitChar_toNat {value : Nat} (h : value < 16) :
    (value < 10 ∧ (Nat.digitChar value).toNat = '0'.toNat + value ∧
      (Nat.digitChar value).toUpper = Nat.digitChar value) ∨
    (10 ≤ value ∧ (Nat.digitChar value).toNat = 'a'.toNat + value - 10 ∧
      (Nat.digitChar value).toUpper.toNat = 'A'.toNat + value - 10) := by
  have all : ∀ v : Fin 16, (v.val < 10 ∧ (Nat.digitChar v.val).toNat = '0'.toNat + v.val ∧
      (Nat.digitChar v.val).toUpper = Nat.digitChar v.val) ∨
    (10 ≤ v.val ∧ (Nat.digitChar v.val).toNat = 'a'.toNat + v.val - 10 ∧
      (Nat.digitChar v.val).toUpper.toNat = 'A'.toNat + v.val - 10) := by
    decide
  exact all ⟨value, h⟩

/-- A digit is read as the value that it stands for, and nothing else is a digit. -/
theorem digitValue?_eq_some_iff {base : Nat} (h : base ≤ 16) (c : Char) (value : Nat) :
    digitValue? base c = some value ↔ IsDigit base c value := by
  have le (a b : Char) : a ≤ b ↔ a.toNat ≤ b.toNat := UInt32.le_iff_toNat_le
  simp only [digitValue?, Option.filter_eq_some_iff, decide_eq_true_eq, IsDigit, le]
  constructor
  · rintro ⟨read, small⟩
    refine ⟨small, ?_⟩
    have digit := digitChar_toNat (show value < 16 by omega)
    simp only [← Char.toNat_inj, Char.reduceToNat] at read digit ⊢
    split_ifs at read <;> cases read <;> omega
  · rintro ⟨small, same⟩
    refine ⟨?_, small⟩
    have digit := digitChar_toNat (show value < 16 by omega)
    simp only [← Char.toNat_inj, Char.reduceToNat] at same digit ⊢
    split_ifs <;> congr 1 <;> omega

/-- A character is a digit of one value. -/
theorem IsDigit.unique {base : Nat} (h : base ≤ 16) {c : Char} {value value' : Nat}
    (digit : IsDigit base c value) (digit' : IsDigit base c value') : value' = value := by
  rw [← digitValue?_eq_some_iff h] at digit digit'
  exact Option.some.inj (digit'.symm.trans digit)

/-- One more digit in front counts for its place. -/
theorem writes_cons {base : Nat} {c : Char} {digits : List Char} {n : Nat} :
    Writes base (c :: digits) n ↔ ∃ value m, IsDigit base c value ∧ Writes base digits m ∧
      n = value * base ^ digits.length + m := by
  constructor
  · rintro ⟨values, written, rfl⟩
    cases written with
    | @cons _ value _ values first more =>
      refine ⟨value, _, first, ⟨values, more, rfl⟩, ?_⟩
      rw [List.reverse_cons, Nat.ofDigits_append, List.length_reverse, Nat.ofDigits_singleton,
        ← more.length_eq]
      ring
  · rintro ⟨value, m, first, ⟨values, more, rfl⟩, rfl⟩
    refine ⟨value :: values, .cons first more, ?_⟩
    rw [List.reverse_cons, Nat.ofDigits_append, List.length_reverse, Nat.ofDigits_singleton,
      ← more.length_eq]
    ring

/-- **Digits are read as the number that they write**, behind what is read already, if it stays
below the bound. -/
theorem readDigits_ok_iff {base bound : Nat} (h : base ≤ 16) (digits : List Char) {acc : Nat}
    (small : acc < bound) (n : Nat) :
    readDigits base bound acc digits = .ok n ↔
      ∃ m, Writes base digits m ∧ n = acc * base ^ digits.length + m ∧ n < bound := by
  induction digits generalizing acc with
  | nil =>
    rw [readDigits, Except.ok.injEq]
    constructor
    · rintro rfl
      exact ⟨0, ⟨[], .nil, rfl⟩, by simp, small⟩
    · rintro ⟨m, ⟨values, written, rfl⟩, rfl, -⟩
      cases written
      simp
  | cons c digits ih =>
    rw [readDigits]
    cases hc : digitValue? base c with
    | none =>
      refine iff_of_false nofun ?_
      rintro ⟨m, written, -⟩
      obtain ⟨value, -, digit, -⟩ := writes_cons.mp written
      rw [(digitValue?_eq_some_iff h c value).mpr digit] at hc
      cases hc
    | some value =>
      have digit := (digitValue?_eq_some_iff h c value).mp hc
      have place (m : Nat) : acc * base ^ (digits.length + 1) + (value * base ^ digits.length + m) =
          (acc * base + value) * base ^ digits.length + m := by
        ring
      dsimp only
      split_ifs with fits
      · rw [ih fits, List.length_cons]
        constructor
        · rintro ⟨m, written, rfl, below⟩
          exact ⟨_, writes_cons.mpr ⟨value, m, digit, written, rfl⟩, (place m).symm, below⟩
        · rintro ⟨_, whole, rfl, below⟩
          obtain ⟨value', m, digit', written, rfl⟩ := writes_cons.mp whole
          obtain rfl := digit.unique h digit'
          exact ⟨m, written, place m, below⟩
      · -- what reaches the bound here does not fall below it any more
        refine iff_of_false nofun ?_
        rintro ⟨m, written, rfl, below⟩
        obtain ⟨value', m, digit', written, rfl⟩ := writes_cons.mp written
        obtain rfl := digit.unique h digit'
        have one : 1 ≤ base ^ digits.length := Nat.one_le_pow _ _ (Nat.zero_lt_of_lt digit.1)
        rw [List.length_cons, place] at below
        have := Nat.le_mul_of_pos_right (acc * base + value') one
        omega

theorem not_isDigit_plus {base value : Nat} (h : base ≤ 16) : ¬ IsDigit base '+' value := by
  rw [← digitValue?_eq_some_iff h]
  have none : digitValue? base '+' = none := by
    simp [digitValue?]
  rw [none]
  nofun

theorem not_numeral_nil (base n : Nat) : ¬ Numeral base [] n := by
  rintro ⟨sign, digits, empty, -, some, -⟩
  exact some (List.append_eq_nil_iff.mp empty.symm).2

theorem numeral_plus {base : Nat} (h : base ≤ 16) (digits : List Char) (n : Nat) :
    Numeral base ('+' :: digits) n ↔ digits ≠ [] ∧ Writes base digits n := by
  constructor
  · rintro ⟨sign, ds, same, rfl | rfl, some, written⟩
    · rw [List.nil_append] at same
      subst same
      obtain ⟨value, -, digit, -⟩ := writes_cons.mp written
      exact absurd digit (not_isDigit_plus h)
    · cases same
      exact ⟨some, written⟩
  · rintro ⟨some, written⟩
    exact ⟨['+'], digits, rfl, .inr rfl, some, written⟩

theorem numeral_plain {base : Nat} {c : Char} (plain : c ≠ '+') (digits : List Char) (n : Nat) :
    Numeral base (c :: digits) n ↔ Writes base (c :: digits) n := by
  constructor
  · rintro ⟨sign, ds, same, rfl | rfl, -, written⟩
    · exact same ▸ written
    · exact absurd (List.cons.inj same).1 plain
  · exact fun written => ⟨[], _, rfl, .inl rfl, List.cons_ne_nil c digits, written⟩

/-- **A numeral is read as the number that it writes**, if that is below the bound, and no other
text is read. -/
theorem readNumeral_ok_iff {base bound : Nat} (h : base ≤ 16) (pos : 0 < bound) (s : List Char)
    (n : Nat) : readNumeral base bound s = .ok n ↔ Numeral base s n ∧ n < bound := by
  have digits (ds : List Char) :
      readDigits base bound 0 ds = .ok n ↔ Writes base ds n ∧ n < bound := by
    rw [readDigits_ok_iff h ds pos]
    simp only [Nat.zero_mul, Nat.zero_add]
    exact ⟨fun ⟨m, w, e, b⟩ => ⟨e ▸ w, b⟩, fun ⟨w, b⟩ => ⟨n, w, rfl, b⟩⟩
  unfold readNumeral
  split
  · exact iff_of_false nofun fun read => not_numeral_nil base n read.1
  · exact iff_of_false nofun fun read => ((numeral_plus h [] n).mp read.1).1 rfl
  · rename_i ds some
    rw [digits, numeral_plus h, and_iff_right some]
  · rename_i empty _ signed
    cases s with
    | nil => exact absurd rfl empty
    | cons c ds =>
      have plain : c ≠ '+' := fun plus => signed ds (by rw [plus])
      rw [digits, numeral_plain plain]

end Text

/-! ### Addresses -/

/-- A text that begins with the mark of hexadecimal digits. -/
def IsHexMarked (t : List Char) : Prop :=
  ∃ x digits, t = '0' :: x :: digits ∧ (x = 'x' ∨ x = 'X')

/-- A text without blanks at its ends that writes a number, as an address is written. -/
inductive AddressLiteral : List Char → Nat → Prop where
  /-- Hexadecimal digits behind their mark. -/
  | hexadecimal {x : Char} {digits : List Char} {n : Nat} :
      x = 'x' ∨ x = 'X' → Text.Numeral 16 digits n → AddressLiteral ('0' :: x :: digits) n
  /-- Decimal digits without a mark. -/
  | decimal {t : List Char} {n : Nat} :
      ¬ IsHexMarked t → Text.Numeral 10 t n → AddressLiteral t n

theorem addressLiteral_marked {x : Char} (mark : x = 'x' ∨ x = 'X') (digits : List Char) (n : Nat) :
    AddressLiteral ('0' :: x :: digits) n ↔ Text.Numeral 16 digits n := by
  constructor
  · intro literal
    cases literal with
    | hexadecimal _ numeral => exact numeral
    | decimal unmarked _ => exact absurd ⟨x, digits, rfl, mark⟩ unmarked
  · exact .hexadecimal mark

theorem addressLiteral_unmarked {t : List Char} (unmarked : ¬ IsHexMarked t) (n : Nat) :
    AddressLiteral t n ↔ Text.Numeral 10 t n := by
  constructor
  · intro literal
    cases literal with
    | hexadecimal mark _ => exact absurd ⟨_, _, rfl, mark⟩ unmarked
    | decimal _ numeral => exact numeral
  · exact .decimal unmarked

/-- **An address is read from a literal whose number is below the bound**, and from no other
text. -/
theorem readAddress_ok_iff (t : List Char) (n : Nat) :
    readAddress t = .ok n ↔ AddressLiteral t n ∧ n < addressBound := by
  have pos : 0 < addressBound := by decide
  unfold readAddress
  split
  · rw [Text.readNumeral_ok_iff (by decide) pos, addressLiteral_marked (.inl rfl)]
  · rw [Text.readNumeral_ok_iff (by decide) pos, addressLiteral_marked (.inr rfl)]
  · rename_i small capital
    have unmarked : ¬ IsHexMarked t := by
      rintro ⟨x, digits, rfl, rfl | rfl⟩
      · exact small digits rfl
      · exact capital digits rfl
    rw [Text.readNumeral_ok_iff (by decide) pos, addressLiteral_unmarked unmarked]

/-- **An address is read from its literals.** Without the blanks at its ends, which leave one text,
what is read is a literal of a number of 32 bits, as that number; every other text is refused, and
the fault has it as it was given. -/
theorem address_grammar (s : String) :
    ∃ t, (∀ t', Text.Stripped s.toList t' ↔ t' = t) ∧
      (∀ n, (∃ a, parseAddress s = .ok a ∧ a.toNat = n) ↔ AddressLiteral t n ∧ n < 2 ^ 32) ∧
      ((∃ fault, parseAddress s = .error (.badAddress s fault)) ↔
        ¬ ∃ n, AddressLiteral t n ∧ n < 2 ^ 32) := by
  have bound : addressBound = 2 ^ 32 := by decide
  refine ⟨Text.trimChars s.toList, Text.stripped_iff s.toList, ?_⟩
  have reads (n : Nat) := bound ▸ readAddress_ok_iff (Text.trimChars s.toList) n
  rw [parseAddress]
  cases read : readAddress (Text.trimChars s.toList) with
  | error fault =>
    have never (n : Nat) : ¬ (AddressLiteral (Text.trimChars s.toList) n ∧ n < 2 ^ 32) := by
      rw [← reads, read]
      nofun
    exact ⟨fun n => iff_of_false (fun ⟨_, other, _⟩ => nomatch other) (never n),
      iff_of_true ⟨fault, rfl⟩ (fun ⟨n, literal⟩ => never n literal)⟩
  | ok m =>
    have literal := (reads m).mp read
    have whole : (UInt32.ofNat m).toNat = m := UInt32.toNat_ofNat_of_lt' literal.2
    refine ⟨fun n => ?_, iff_of_false (fun ⟨_, other⟩ => nomatch other) (· ⟨m, literal⟩)⟩
    rw [← reads, read, Except.ok.injEq]
    constructor
    · rintro ⟨a, same, rfl⟩
      rw [← Except.ok.inj same, whole]
    · rintro rfl
      exact ⟨_, rfl, whole⟩

end FlashStation
