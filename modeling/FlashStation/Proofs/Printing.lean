/-
# Addresses as they are printed

A printed number is its digits, the highest first and letters capital, with zeros in front up to a
width and no further; there is one such text. An address is shown in three forms: in hexadecimal
behind its mark, without zeros in front or with all eight digits, and in decimal. Each is an address
literal of that address, so what is shown can be typed in again, and a package whose literals are
replaced by what is shown of its addresses comes to the same images.

Key definitions: `Text.Printed`, `AddressShown`, `Package.withAddresses`.
Key theorems: `Text.Printed.unique`, `Text.printed_hexUpper`, `Text.printed_decimal`,
`addressShown_iff`, `AddressShown.reads`, `printed_addresses_read`.
-/
import FlashStation.Proofs.Fetching
import FlashStation.Proofs.Literals
import FlashStation.Station.Flash

namespace FlashStation

namespace Text

/-! ### Printed numbers -/

/-- A number as it is printed in a base: its digits, the highest first and letters capital, with
zeros in front up to a width and no further. -/
structure Printed (base width n : Nat) (s : List Char) : Prop where
  /-- The digits write the number. -/
  writes : Writes base s n
  /-- There is no small letter. -/
  capital : ∀ c ∈ s, c.isLower = false
  /-- There are as many digits as the width says, or more. -/
  wide : width ≤ s.length
  /-- No zero stands in front of more digits than that. -/
  tight : width < s.length → s.head? ≠ some '0'

section
variable {base width n value : Nat} {c : Char} {s t : List Char}

/-- How the sixteen digits look. -/
theorem digitChar_looks (h : value < 16) :
    (Nat.digitChar value).toUpper.isLower = false ∧
      (Nat.digitChar value).toUpper.toUpper = (Nat.digitChar value).toUpper ∧
      isBlank (Nat.digitChar value) = false ∧ isBlank (Nat.digitChar value).toUpper = false ∧
      (Nat.digitChar value = '0' ∨ (Nat.digitChar value).toUpper = '0' → value = 0) ∧
      ((Nat.digitChar value).isLower = false →
        (Nat.digitChar value).toUpper = Nat.digitChar value) := by
  have all : ∀ v : Fin 16, (Nat.digitChar v.val).toUpper.isLower = false ∧
      (Nat.digitChar v.val).toUpper.toUpper = (Nat.digitChar v.val).toUpper ∧
      isBlank (Nat.digitChar v.val) = false ∧ isBlank (Nat.digitChar v.val).toUpper = false ∧
      (Nat.digitChar v.val = '0' ∨ (Nat.digitChar v.val).toUpper = '0' → v.val = 0) ∧
      ((Nat.digitChar v.val).isLower = false →
        (Nat.digitChar v.val).toUpper = Nat.digitChar v.val) := by
    decide
  exact all ⟨value, h⟩

/-- No digit is blank. -/
theorem IsDigit.not_blank (h : base ≤ 16) (digit : IsDigit base c value) : isBlank c = false := by
  obtain ⟨small, rfl | rfl⟩ := digit
  · exact (digitChar_looks (show value < 16 by omega)).2.2.1
  · exact (digitChar_looks (show value < 16 by omega)).2.2.2.1

/-- The digit of zero, and no other, is `0`. -/
theorem IsDigit.eq_zero_iff (h : base ≤ 16) (digit : IsDigit base c value) :
    value = 0 ↔ c = '0' := by
  constructor
  · rintro rfl
    rcases digit.2 with same | same <;> exact same
  · rintro rfl
    exact (digitChar_looks (show value < 16 by have := digit.1; omega)).2.2.2.2.1
      (digit.2.imp Eq.symm Eq.symm)

/-- A digit that is no small letter is the capital one of its value. -/
theorem IsDigit.eq_capital (h : base ≤ 16) (digit : IsDigit base c value)
    (capital : c.isLower = false) : c = (Nat.digitChar value).toUpper := by
  obtain ⟨small, rfl | rfl⟩ := digit
  · exact ((digitChar_looks (show value < 16 by omega)).2.2.2.2.2 capital).symm
  · rfl

/-- The capital form of a digit is a digit of the same value. -/
theorem IsDigit.toUpper (h : base ≤ 16) (digit : IsDigit base c value) :
    IsDigit base c.toUpper value ∧ c.toUpper.isLower = false := by
  obtain ⟨small, rfl | rfl⟩ := digit
  · exact ⟨⟨small, .inr rfl⟩, (digitChar_looks (show value < 16 by omega)).1⟩
  · have looks := digitChar_looks (show value < 16 by omega)
    rw [looks.2.1]
    exact ⟨⟨small, .inr rfl⟩, looks.1⟩

/-- A decimal digit is no small letter. -/
theorem IsDigit.isLower_decimal (digit : IsDigit 10 c value) : c.isLower = false := by
  obtain ⟨small, same⟩ := digit
  have looks := digitChar_looks (show value < 16 by omega)
  have figure : (Nat.digitChar value).toUpper = Nat.digitChar value := by
    rcases digitChar_toNat (show value < 16 by omega) with ⟨-, -, figure⟩ | ⟨large, -⟩
    · exact figure
    · omega
  rw [figure, or_self] at same
  rw [same, ← figure]
  exact looks.1

theorem Writes.toUpper (h : base ≤ 16) (written : Writes base s n) :
    Writes base (s.map Char.toUpper) n := by
  obtain ⟨values, digits, rfl⟩ := written
  refine ⟨values, ?_, rfl⟩
  rw [List.forall₂_map_left_iff]
  exact digits.imp fun c value digit => (digit.toUpper h).1

/-- Only digits write a number. -/
theorem Writes.digit (written : Writes base s n) : ∀ c ∈ s, ∃ value, IsDigit base c value := by
  obtain ⟨values, digits, -⟩ := written
  induction digits with
  | nil => exact List.forall_mem_nil _
  | cons digit _ ih => exact List.forall_mem_cons.mpr ⟨⟨_, digit⟩, ih⟩

/-- There is no blank among digits. -/
theorem Writes.not_blank (h : base ≤ 16) (written : Writes base s n) :
    ∀ c ∈ s, isBlank c = false := by
  intro c hc
  obtain ⟨value, digit⟩ := written.digit c hc
  exact digit.not_blank h

/-- So many digits write a number below the power of the base. -/
theorem Writes.lt_pow (written : Writes base s n) : n < base ^ s.length := by
  induction s generalizing n with
  | nil =>
    obtain ⟨values, digits, rfl⟩ := written
    cases digits
    exact Nat.one_pos
  | cons c s ih =>
    obtain ⟨value, m, digit, more, rfl⟩ := writes_cons.mp written
    have below := ih more
    have carried : (value + 1) * base ^ s.length ≤ base * base ^ s.length :=
      Nat.mul_le_mul_right _ digit.1
    rw [List.length_cons, Nat.pow_succ']
    rw [Nat.add_mul, Nat.one_mul] at carried
    omega

/-- The first digit is `0` if and only if the number could do without it. -/
theorem Writes.lead (h : base ≤ 16) (written : Writes base (c :: s) n) :
    c = '0' ↔ n < base ^ s.length := by
  obtain ⟨value, m, digit, more, rfl⟩ := writes_cons.mp written
  rw [← digit.eq_zero_iff h]
  have below := more.lt_pow
  constructor
  · rintro rfl
    omega
  · intro less
    by_contra some
    have : 1 * base ^ s.length ≤ value * base ^ s.length :=
      Nat.mul_le_mul_right _ (Nat.pos_of_ne_zero some)
    omega

/-- The digits of a number are those of values below the base, and these make up the number. -/
theorem toDigits_eq (h1 : 1 < base) (n : Nat) :
    ∃ values : List Nat, Nat.toDigits base n = values.map Nat.digitChar ∧ (∀ v ∈ values, v < base) ∧
      n = Nat.ofDigits base values.reverse := by
  induction n using Nat.strongRecOn with
  | ind n ih =>
    rcases Nat.lt_or_ge n base with small | large
    · rw [Nat.toDigits_of_lt_base small]
      exact ⟨[n], rfl, List.forall_mem_singleton.mpr small, by simp⟩
    · obtain ⟨values, high, below, whole⟩ := ih (n / base) (Nat.div_lt_self (by omega) h1)
      have last : n % base < base := Nat.mod_lt _ (by omega)
      rw [Nat.toDigits_of_base_le h1 large, high]
      refine ⟨values ++ [n % base], by simp, List.forall_mem_append.mpr
        ⟨below, List.forall_mem_singleton.mpr last⟩, ?_⟩
      rw [List.reverse_append, List.reverse_singleton, List.singleton_append, Nat.ofDigits_cons,
        ← whole, Nat.mod_add_div]

/-- The digits of a number write that number. -/
theorem writes_toDigits (h1 : 1 < base) (n : Nat) : Writes base (Nat.toDigits base n) n := by
  obtain ⟨values, digits, below, whole⟩ := toDigits_eq h1 n
  refine ⟨values, ?_, whole⟩
  rw [digits, List.forall₂_map_left_iff, List.forall₂_same]
  exact fun v hv => ⟨below v hv, .inl rfl⟩

/-- Zeros in front do not count. -/
theorem Writes.zeros (h1 : 1 < base) (written : Writes base s n) (count : Nat) :
    Writes base (List.replicate count '0' ++ s) n := by
  induction count with
  | zero => exact written
  | succ count ih =>
    have zero : IsDigit base '0' 0 := ⟨by omega, .inl rfl⟩
    rw [List.replicate_succ, List.cons_append]
    exact writes_cons.mpr ⟨0, n, zero, ih, by rw [Nat.zero_mul, Nat.zero_add]⟩

/-! #### There is one printed text -/

theorem values_lt {values : List Nat} (digits : List.Forall₂ (IsDigit base) s values) :
    ∀ v ∈ values, v < base := by
  induction digits with
  | nil => exact List.forall_mem_nil _
  | cons digit _ ih => exact List.forall_mem_cons.mpr ⟨digit.1, ih⟩

/-- Digits without small letters are the capital ones of their values. -/
theorem eq_capitals (h : base ≤ 16) {values : List Nat}
    (digits : List.Forall₂ (IsDigit base) s values) (capital : ∀ c ∈ s, c.isLower = false) :
    s = values.map fun v => (Nat.digitChar v).toUpper := by
  induction digits with
  | nil => rfl
  | cons digit _ ih =>
    obtain ⟨first, more⟩ := List.forall_mem_cons.mp capital
    rw [List.map_cons, ← digit.eq_capital h first, ← ih more]

theorem Printed.length_le (h1 : 1 < base) (h : base ≤ 16) (printed : Printed base width n s)
    (other : Printed base width n t) : s.length ≤ t.length := by
  by_contra longer
  have wide := other.wide
  cases s with
  | nil => exact longer (Nat.zero_le _)
  | cons c s =>
    rw [List.length_cons] at longer
    have some : c ≠ '0' := fun zero =>
      printed.tight (by rw [List.length_cons]; omega) (by rw [zero, List.head?_cons])
    rw [Ne, printed.writes.lead h] at some
    have fits := other.writes.lt_pow
    have grows : base ^ t.length ≤ base ^ s.length := Nat.pow_le_pow_right (by omega) (by omega)
    omega

/-- **There is one text that a number is printed as.** -/
theorem Printed.unique (h1 : 1 < base) (h : base ≤ 16) (printed : Printed base width n s)
    (other : Printed base width n t) : s = t := by
  have length : s.length = t.length :=
    Nat.le_antisymm (printed.length_le h1 h other) (other.length_le h1 h printed)
  obtain ⟨values, digits, whole⟩ := printed.writes
  obtain ⟨values', digits', whole'⟩ := other.writes
  have same : values.reverse = values'.reverse := by
    refine Nat.ofDigits_inj_of_len_eq h1 ?_ ?_ ?_ (whole.symm.trans whole')
    · rw [List.length_reverse, List.length_reverse, ← digits.length_eq, ← digits'.length_eq, length]
    · exact fun v hv => values_lt digits v (List.mem_reverse.mp hv)
    · exact fun v hv => values_lt digits' v (List.mem_reverse.mp hv)
  rw [eq_capitals h digits printed.capital, eq_capitals h digits' other.capital,
    List.reverse_injective same]

/-! #### What is printed -/

/-- As many digits as the number has, none of them a small letter, are what is printed. -/
theorem printed_of_length (h1 : 1 < base) (h : base ≤ 16) (written : Writes base s n)
    (capital : ∀ c ∈ s, c.isLower = false) (length : s.length = (Nat.toDigits base n).length) :
    Printed base 1 n s := by
  refine ⟨written, capital, length ▸ Nat.length_toDigits_pos, fun more zero => ?_⟩
  obtain ⟨s, rfl⟩ := List.head?_eq_some_iff.mp zero
  rw [List.length_cons] at length more
  have fits := (written.lead h).mp rfl
  have fewer := (Nat.length_toDigits_le_iff h1 (show 0 < s.length by omega)).mpr fits
  omega

/-- Zeros in front up to a width. -/
theorem Printed.padZeros (h1 : 1 < base) (pos : 1 ≤ width) (printed : Printed base 1 n s) :
    Printed base width n (padZeros width s) := by
  refine ⟨printed.writes.zeros h1 _, List.forall_mem_append.mpr ⟨fun c hc => ?_, printed.capital⟩,
    ?_, fun more => ?_⟩
  · rw [(List.mem_replicate.mp hc).2]
    rfl
  · rw [Text.padZeros, List.length_append, List.length_replicate]
    omega
  · rw [Text.padZeros, List.length_append, List.length_replicate] at more
    have none : width - s.length = 0 := by omega
    rw [Text.padZeros, none, List.replicate_zero, List.nil_append]
    exact printed.tight (by omega)

theorem toList_hexUpper (width n : Nat) :
    (hexUpper width n).toList = Text.padZeros width ((Nat.toDigits 16 n).map Char.toUpper) :=
  String.toList_ofList

/-- **A number in hexadecimal with capital letters is printed up to its width.** -/
theorem printed_hexUpper (pos : 1 ≤ width) (n : Nat) :
    Printed 16 width n (hexUpper width n).toList := by
  have written : Writes 16 (Nat.toDigits 16 n) n := writes_toDigits (by decide) n
  have capital : ∀ c ∈ (Nat.toDigits 16 n).map Char.toUpper, c.isLower = false := by
    intro c hc
    obtain ⟨d, hd, rfl⟩ := List.mem_map.mp hc
    obtain ⟨value, digit⟩ := written.digit d hd
    exact (digit.toUpper (by decide)).2
  have plain := printed_of_length (by decide) (by decide) (written.toUpper (by decide)) capital
    (List.length_map _)
  rw [toList_hexUpper]
  exact plain.padZeros (by decide) pos

/-- **A number in decimal is printed without zeros in front.** -/
theorem printed_decimal (n : Nat) : Printed 10 1 n (decimal n).toList := by
  have written : Writes 10 (Nat.toDigits 10 n) n := writes_toDigits (by decide) n
  rw [decimal, String.toList_ofList]
  refine printed_of_length (by decide) (by decide) written (fun c hc => ?_) rfl
  obtain ⟨value, digit⟩ := written.digit c hc
  exact digit.isLower_decimal

end

/-! ### Words -/

section
variable {sep : Char} {w : List Char}

/-- What stands before the first separator is the first piece. -/
theorem pieces_word (whole : sep ∉ w) (s : List Char) :
    pieces sep (w ++ sep :: s) = w :: pieces sep s := by
  induction w with
  | nil => rw [List.nil_append, pieces, if_pos rfl]
  | cons c w ih =>
    obtain ⟨other, more⟩ := not_or.mp (List.mem_cons.not.mp whole)
    rw [List.cons_append, pieces, if_neg (Ne.symm other), ih more]

end

/-- Trimming keeps a text without blanks as it is. -/
theorem trimChars_of_not_blank {s : List Char} (plain : ∀ c ∈ s, isBlank c = false) :
    trimChars s = s := by
  have bare {t : List Char} (sub : ∀ c ∈ t, c ∈ s) : Bare t := fun c hc =>
    plain c (sub c (List.mem_of_head? hc))
  refine (Stripped.eq_trimChars ⟨[], [], ?_, List.forall_mem_nil _, List.forall_mem_nil _,
    bare fun _ => id, bare fun _ => List.mem_reverse.mp⟩).symm
  rw [List.nil_append, List.append_nil]

end Text

/-! ### Where addresses are shown -/

/-- The word behind the index in a line on a file. -/
def addressWord? (line : String) : Option String :=
  (Text.split ' ' line)[3]?

/-- The text of an address where one is shown. -/
inductive AddressShown (a : UInt32) : String → Prop where
  /-- In the data of a plan. -/
  | data {file : FlashFile} {index : Nat} {members : List (String × Json)} {s : String} :
      file.address = a → fileData (file, index) = .obj members →
      ("address", .str s) ∈ members → AddressShown a s
  /-- In the lines of a plan. -/
  | line {file : FlashFile} {index : Nat} {s : String} :
      file.address = a → addressWord? (fileLine (file, index)) = some s → AddressShown a s
  /-- In the summary of a flash. -/
  | summary {file : FlashedFile} {s : String} :
      file.address = a → addressWord? file.text = some s → AddressShown a s
  /-- In decimal. -/
  | decimal : AddressShown a (Text.decimal a.toNat)

/-- The word behind the index of a line is the text that stands there, if it has no blanks. -/
theorem addressWord?_eq {line shown : String} (index : Nat) (rest : List Char)
    (row : line.toList = "  [".toList ++ ((Text.decimal index).toList ++ ("] ".toList ++
      (shown.toList ++ ' ' :: rest))))
    (plain : ∀ c ∈ shown.toList, Text.isBlank c = false) : addressWord? line = some shown := by
  have whole {s : List Char} (plain : ∀ c ∈ s, Text.isBlank c = false) : ' ' ∉ s := fun blank =>
    absurd (plain _ blank) (by decide)
  have digits : ' ' ∉ (Text.decimal index).toList :=
    whole ((Text.printed_decimal index).writes.not_blank (by decide))
  have bracketed : ' ' ∉ '[' :: ((Text.decimal index).toList ++ [']']) := by
    simpa using digits
  have parts : line.toList = ' ' :: ' ' :: ('[' :: ((Text.decimal index).toList ++ [']']) ++
      ' ' :: (shown.toList ++ ' ' :: rest)) := by
    rw [row]
    simp
  rw [addressWord?, Text.split, parts, Text.pieces, if_pos rfl, Text.pieces, if_pos rfl,
    Text.pieces_word bracketed, Text.pieces_word (whole plain)]
  simp

/-- A text that shows an address in hexadecimal, behind the mark. -/
def HexShown (width : Nat) (a : UInt32) (s : String) : Prop :=
  ∃ digits, s = String.ofList ('0' :: 'x' :: digits) ∧ Text.Printed 16 width a.toNat digits

section
variable {width : Nat} {a : UInt32} {s : String}

theorem hexShown_iff (pos : 1 ≤ width) :
    HexShown width a s ↔ s = "0x" ++ Text.hexUpper width a.toNat := by
  have text : "0x" ++ Text.hexUpper width a.toNat =
      String.ofList ('0' :: 'x' :: (Text.hexUpper width a.toNat).toList) := by
    rw [← String.toList_inj]
    simp
  constructor
  · rintro ⟨digits, rfl, printed⟩
    rw [text, printed.unique (by decide) (by decide) (Text.printed_hexUpper pos a.toNat)]
  · rintro rfl
    exact ⟨_, text, Text.printed_hexUpper pos a.toNat⟩

/-- There is no blank in what is shown in hexadecimal. -/
theorem HexShown.not_blank (h : HexShown width a s) : ∀ c ∈ s.toList, Text.isBlank c = false := by
  obtain ⟨digits, rfl, printed⟩ := h
  rw [String.toList_ofList]
  refine List.forall_mem_cons.mpr ⟨by decide, List.forall_mem_cons.mpr ⟨by decide, ?_⟩⟩
  exact printed.writes.not_blank (by decide)

theorem addressText_shown (a : UInt32) : HexShown 1 a (addressText a) :=
  (hexShown_iff (by decide)).mpr rfl

theorem addressColumn_shown (a : UInt32) : HexShown 8 a (addressColumn a) :=
  (hexShown_iff (by decide)).mpr rfl

end

/-- A line of the summary of a flash shows the address of its file. -/
theorem addressWord?_text (file : FlashedFile) :
    addressWord? file.text = some (addressText file.address) := by
  refine addressWord?_eq file.index ('(' :: ((Text.decimal file.size).toList ++ " bytes)".toList))
    ?_ (addressText_shown file.address).not_blank
  show ("  [" ++ Text.decimal file.index ++ "] " ++ addressText file.address ++ " (" ++
    Text.decimal file.size ++ " bytes)").toList = _
  simp [String.toList_append]

/-- A line of a plan shows the address of its file. -/
theorem addressWord?_fileLine (file : FlashFile) (index : Nat) :
    addressWord? (fileLine (file, index)) = some (addressColumn file.address) := by
  refine addressWord?_eq index
    ('(' :: ((Text.decimal file.data.length).toList ++ " bytes)".toList)) ?_
    (addressColumn_shown file.address).not_blank
  show ("  [" ++ Text.decimal index ++ "] " ++ addressColumn file.address ++ " " ++
    ("(" ++ Text.decimal file.data.length ++ " bytes)")).toList = _
  simp [String.toList_append]

/-- **An address is shown in three forms.** -/
theorem addressShown_iff (a : UInt32) (s : String) :
    AddressShown a s ↔ HexShown 1 a s ∨ HexShown 8 a s ∨ Text.Printed 10 1 a.toNat s.toList := by
  constructor
  · intro shown
    cases shown with
    | @data file _ _ _ own row member =>
      subst own
      cases row
      have same : s = addressText file.address := by simpa using member
      exact .inl (same ▸ addressText_shown file.address)
    | @line file index _ own found =>
      subst own
      rw [addressWord?_fileLine, Option.some.injEq] at found
      exact .inr (.inl (found ▸ addressColumn_shown file.address))
    | @summary file _ own found =>
      subst own
      rw [addressWord?_text, Option.some.injEq] at found
      exact .inl (found ▸ addressText_shown file.address)
    | decimal => exact .inr (.inr (Text.printed_decimal a.toNat))
  · rintro (shown | shown | printed)
    · obtain rfl : s = addressText a := (hexShown_iff (by decide)).mp shown
      exact @AddressShown.summary a ⟨0, a, 0⟩ _ rfl (addressWord?_text _)
    · obtain rfl : s = addressColumn a := (hexShown_iff (by decide)).mp shown
      exact @AddressShown.line a ⟨[], a⟩ 0 _ rfl (addressWord?_fileLine _ 0)
    · have same := printed.unique (by decide) (by decide) (Text.printed_decimal a.toNat)
      rw [String.toList_inj] at same
      exact same ▸ .decimal

/-! ### What is shown is a literal -/

section
variable {a : UInt32} {s : String}

/-- A literal without blanks is read as its address. -/
theorem parseAddress_of_literal (plain : ∀ c ∈ s.toList, Text.isBlank c = false)
    (literal : AddressLiteral s.toList a.toNat) : parseAddress s = .ok a := by
  have small : a.toNat < addressBound := a.toNat_lt_size
  have read := (readAddress_ok_iff s.toList a.toNat).mpr ⟨literal, small⟩
  rw [parseAddress, Text.trimChars_of_not_blank plain, read]
  simp

theorem Text.Printed.numeral {base width n : Nat} {s : List Char} (pos : 1 ≤ width)
    (printed : Text.Printed base width n s) : Text.Numeral base s n := by
  refine ⟨[], s, rfl, .inl rfl, fun none => ?_, printed.writes⟩
  have wide := printed.wide
  rw [none, List.length_nil] at wide
  omega

theorem HexShown.literal {width : Nat} (pos : 1 ≤ width) (h : HexShown width a s) :
    AddressLiteral s.toList a.toNat := by
  obtain ⟨digits, rfl, printed⟩ := h
  rw [String.toList_ofList]
  exact .hexadecimal (.inl rfl) (printed.numeral pos)

/-- Decimal digits bear no mark of hexadecimal ones. -/
theorem Text.Writes.not_hexMarked {n : Nat} {s : List Char} (written : Text.Writes 10 s n) :
    ¬ IsHexMarked s := by
  rintro ⟨x, digits, rfl, mark⟩
  obtain ⟨value, digit⟩ := written.digit x (.tail _ (.head _))
  have read := (Text.digitValue?_eq_some_iff (by decide) x value).mpr digit
  have none : Text.digitValue? 10 x = none := by
    rcases mark with rfl | rfl <;> decide
  rw [none] at read
  cases read

/-- **What is shown of an address is read as that address.** -/
theorem AddressShown.reads (h : AddressShown a s) : parseAddress s = .ok a := by
  rcases (addressShown_iff a s).mp h with shown | shown | printed
  · exact parseAddress_of_literal shown.not_blank (shown.literal (by decide))
  · exact parseAddress_of_literal shown.not_blank (shown.literal (by decide))
  · exact parseAddress_of_literal (printed.writes.not_blank (by decide))
      (.decimal printed.writes.not_hexMarked (printed.numeral (by decide)))

end

/-! ### Packages with other literals -/

/-- A package with other literals for the addresses of its images. -/
def Package.withAddresses (p : Package) (literals : List String) : Package :=
  { p with images := List.zipWith (fun i literal => { i with address := literal }) p.images literals }

/-- Images whose literals are replaced by what is shown of their addresses are placed as before. -/
theorem placed_withAddresses {images : List Image} {placed : List PlacedImage}
    {literals : List String}
    (before : List.Forall₂ (fun i p => p.path = i.path ∧ parseAddress i.address = .ok p.address)
      images placed)
    (shown : List.Forall₂ (fun p s => AddressShown p.address s) placed literals) :
    List.Forall₂ (fun i p => p.path = i.path ∧ parseAddress i.address = .ok p.address)
      (List.zipWith (fun i literal => { i with address := literal }) images literals) placed := by
  induction before generalizing literals with
  | nil => exact .nil
  | cons image _ ih =>
    cases shown with
    | cons literal more => exact .cons ⟨image.1, literal.reads⟩ (ih more)

/-- **What is shown of an address can be typed in again.** An address is shown in hexadecimal with
capital letters, without zeros in front or with eight digits, or in decimal. Each of these texts is
read as the address, and a package that can be written comes to the same images and parameters if
its literals are replaced by texts that show the addresses of its images, each in a form of its
own. -/
theorem printed_addresses_read :
    (∀ a s, AddressShown a s ↔
      HexShown 1 a s ∨ HexShown 8 a s ∨ Text.Printed 10 1 a.toNat s.toList) ∧
    (∀ a s, AddressShown a s → parseAddress s = .ok a) ∧
    ∀ p source, (Choice.catalog (some p)).resolve = .ok source →
      ∃ placed, source = .catalog p placed p.params ∧
        ∀ literals, List.Forall₂ (fun i s => AddressShown i.address s) placed literals →
          (Choice.catalog (some (p.withAddresses literals))).resolve =
            .ok (.catalog (p.withAddresses literals) placed p.params) := by
  refine ⟨addressShown_iff, fun a s => AddressShown.reads, fun p source resolved => ?_⟩
  have resolves := (Choice.resolve_iff _ _).mp resolved
  cases resolves with
  | @catalog _ placed some before =>
    refine ⟨placed, rfl, fun literals shown => ?_⟩
    have after := placed_withAddresses before shown
    have length := before.length_eq.trans after.length_eq.symm
    refine (Choice.resolve_iff _ _).mpr (.catalog (fun none => some ?_) after)
    exact List.length_eq_zero_iff.mp (length.trans (List.length_eq_zero_iff.mpr none))

/-- Three images, each with its address shown in another form than it was written in. -/
theorem mixed_addresses_read :
    let p : Package := ⟨"demo", "Demo", none, none, none, none, none, none,
      [⟨"boot.bin", " 0X0001000 "⟩, ⟨"table.bin", "+32768"⟩, ⟨"app.bin", "0x+1ff"⟩]⟩
    let placed : List PlacedImage :=
      [⟨"boot.bin", 0x1000⟩, ⟨"table.bin", 0x8000⟩, ⟨"app.bin", 0x1FF⟩]
    (Choice.catalog (some p)).resolve = .ok (.catalog p placed p.params) ∧
      (Choice.catalog (some (p.withAddresses ["4096", "0x8000", "0x000001FF"]))).resolve =
        .ok (.catalog (p.withAddresses ["4096", "0x8000", "0x000001FF"]) placed p.params) := by
  intro p placed
  have resolved : (Choice.catalog (some p)).resolve = .ok (.catalog p placed p.params) := rfl
  refine ⟨resolved, ?_⟩
  obtain ⟨shows, -, again⟩ := printed_addresses_read
  obtain ⟨placed', same, again⟩ := again p _ resolved
  cases same
  refine again _ (.cons ?_ (.cons ?_ (.cons ?_ .nil)))
  · exact AddressShown.decimal (a := 4096)
  · exact (shows _ _).mpr (.inl (addressText_shown 0x8000))
  · exact (shows _ _).mpr (.inr (.inl (addressColumn_shown 0x1FF)))

end FlashStation
