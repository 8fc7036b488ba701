/-
# What JSON is

A value is spelled by its words, and blanks may stand in front of each of them. A text is taken as
it stands between its quotes, and a number as its figures: neither has to mean anything to who
passes over it. What spells a value is passed over up to the end of that value, and whatever was
passed over spells one.

Key definitions: `Json.IsBody`, `Json.Figures.Spelled`, `Json.Tree`, `Json.Spells`.
Key theorems: `Json.passQuoted_body`, `Json.figures_spelled`, `Json.skip_spelled`,
`Json.skip_spells`.
-/
import Mathlib.Data.List.DropRight
import FlashStation.Proofs.Words

namespace FlashStation.Json

open Text Utf8

/-! ### Words -/

/-- A literal name is read letter by letter. -/
theorem name_eq_ok {w : List Char} {s r : List UInt8} : name w s = .ok r ↔ s = w.map code ++ r := by
  fun_induction name w s with
  | case1 s => simp
  | case2 c w => simp
  | case3 c w s ih => simpa using ih
  | case4 c w b s differs => simp [differs]

theorem isDigit_ne {b : UInt8} (h : isDigit b = true) {c : Char} (hc : isDigit (code c) = false) :
    b ≠ code c := by
  rintro rfl
  rw [hc] at h
  cases h

/-! ### Texts -/

/-- Some bytes may stand between quotes: each stands for itself or belongs to an escape. -/
inductive IsBody : List UInt8 → Prop where
  /-- Nothing at all. -/
  | nil : IsBody []
  /-- A byte that stands for itself. -/
  | raw {b : UInt8} {k : List UInt8} : IsRaw b → IsBody k → IsBody (b :: k)
  /-- An escape of one letter. -/
  | letter {b : UInt8} {k : List UInt8} : (letterEscape? b).isSome → IsBody k →
      IsBody (code '\\' :: b :: k)
  /-- An escape of four hexadecimal digits. -/
  | unit {a b c d : UInt8} {k : List UInt8} : (hexUnit? a b c d).isSome → IsBody k →
      IsBody (code '\\' :: code 'u' :: a :: b :: c :: d :: k)

/-- Four digits are read, whatever follows. -/
theorem hexUnit_digits {a b c d : UInt8} {n : Nat} (h : hexUnit? a b c d = some n)
    (s : List UInt8) : hexUnit (a :: b :: c :: d :: s) = .ok (n, s) := by
  rw [hexUnit, h]

/-- What may stand between quotes is passed over up to the closing one. -/
theorem passQuoted_body {k : List UInt8} (h : IsBody k) (rest : List UInt8) :
    passQuoted (k ++ code '"' :: rest) = .ok rest := by
  induction h with
  | nil => rw [List.nil_append, passQuoted, if_pos rfl]
  | raw raw _ ih =>
    obtain ⟨quote, slash, control⟩ := raw
    rw [List.cons_append, passQuoted, if_neg quote, if_neg slash, if_neg control, ih]
  | letter letter _ ih =>
    rw [List.cons_append, List.cons_append, passQuoted_escape (by rw [passEscape, if_pos letter]),
      ih]
  | @unit a b c d k digits _ ih =>
    obtain ⟨n, unit⟩ := Option.isSome_iff_exists.mp digits
    exact (passQuoted_escape (passEscape_unit (hexUnit_digits unit _))).trans ih

/-- What is passed over behind a backslash is an escape. -/
theorem IsBody.escape {s rest k : List UInt8} (h : passEscape s = .ok rest) (body : IsBody k)
    {t : List UInt8} (ht : rest = k ++ t) : ∃ k', IsBody (code '\\' :: k') ∧ s = k' ++ t := by
  subst ht
  unfold passEscape at h
  split at h
  · cases h
  · rename_i b s
    split_ifs at h with letter unit
    · cases h
      exact ⟨b :: k, .letter letter body, rfl⟩
    · obtain rfl := not_not.mp unit
      split at h
      · cases h
      · rename_i n s' digits
        cases h
        unfold hexUnit at digits
        split at digits
        · rename_i a b c d s'
          split at digits
          · rename_i n' unit
            cases digits
            exact ⟨_, .unit (Option.isSome_iff_exists.mpr ⟨_, unit⟩) body, rfl⟩
          · cases digits
        · cases digits

/-- What is passed over up to a closing quote may stand between quotes. -/
theorem body_of_passQuoted {s rest : List UInt8} (h : passQuoted s = .ok rest) :
    ∃ k, IsBody k ∧ s = k ++ code '"' :: rest := by
  fun_induction passQuoted s with
  | case1 => cases h
  | case2 =>
    cases h
    exact ⟨[], .nil, rfl⟩
  | case3 => cases h
  | case4 s rest' passed _ ih =>
    obtain ⟨k, body, rfl⟩ := ih h
    obtain ⟨k', body', rfl⟩ := body.escape passed rfl
    exact ⟨_, body', rfl⟩
  | case5 => cases h
  | case6 b s quote slash control ih =>
    obtain ⟨k, body, rfl⟩ := ih h
    exact ⟨b :: k, .raw ⟨quote, slash, control⟩ body, rfl⟩

/-! ### Numbers -/

/-- There is a digit, and nothing but digits. -/
def IsDigits (d : List UInt8) : Prop :=
  d ≠ [] ∧ ∀ b ∈ d, isDigit b = true

/-- Digits may stand in front of the point: a zero only if it is alone. -/
def IsWhole (d : List UInt8) : Prop :=
  IsDigits d ∧ (d.head? = some (code '0') → d = [code '0'])

/-- How the digits behind the point are spelled, if there are any. -/
inductive IsFraction : Option (List UInt8) → List UInt8 → Prop where
  | none : IsFraction none []
  | some {d : List UInt8} : IsDigits d → IsFraction (some d) (code '.' :: d)

/-- How the sign of an exponent is spelled, by whether it is negative. -/
inductive IsSign : Bool → List UInt8 → Prop where
  | none : IsSign false []
  | plus : IsSign false [code '+']
  | minus : IsSign true [code '-']

/-- How an exponent is spelled, if there is one. -/
inductive IsExponent : Option (Bool × List UInt8) → List UInt8 → Prop where
  | none : IsExponent none []
  | some {mark : UInt8} {minus : Bool} {sign d : List UInt8} : mark = code 'e' ∨ mark = code 'E' →
      IsSign minus sign → IsDigits d → IsExponent (some (minus, d)) (mark :: (sign ++ d))

/-- How a number is spelled behind its sign. -/
def Figures.Spelled (n : Figures) (v : List UInt8) : Prop :=
  IsWhole n.whole ∧ ∃ fraction exponent, IsFraction n.fraction fraction ∧
    IsExponent n.exponent exponent ∧ v = n.whole ++ (fraction ++ exponent)

/-- Digits in front of these bytes are at their end. -/
def Parts (s : List UInt8) : Prop :=
  ∀ b ∈ s.head?, isDigit b = false

theorem Parts.cons {b : UInt8} (h : isDigit b = false) (s : List UInt8) : Parts (b :: s) := by
  intro b' hb
  rw [List.head?_cons, Option.mem_some_iff] at hb
  exact hb ▸ h

theorem Stops.parts {s : List UInt8} (h : Stops s) : Parts s := by
  cases s with
  | nil => exact nofun
  | cons b s => exact .cons h.head.1 s

theorem Parts.span {d s : List UInt8} (digits : ∀ b ∈ d, isDigit b = true) (parts : Parts s) :
    (d ++ s).takeWhile isDigit = d ∧ (d ++ s).dropWhile isDigit = s := by
  rw [List.takeWhile_append_of_pos digits, List.dropWhile_append_of_pos digits]
  cases s with
  | nil => simp
  | cons b s => simp [parts b rfl]

section
variable {ended : Fault} {d s v rest : List UInt8}

theorem IsDigits.cons (h : IsDigits d) : ∃ b s, d = b :: s ∧ isDigit b = true := by
  obtain ⟨nonempty, digits⟩ := h
  obtain ⟨b, s, rfl⟩ := List.exists_cons_of_ne_nil nonempty
  exact ⟨b, s, rfl, digits b List.mem_cons_self⟩

variable (ended) in
theorem someDigits_spelled (h : IsDigits d) (parts : Parts rest) :
    someDigits ended (d ++ rest) = .ok (d, rest) := by
  obtain ⟨b, s, rfl, digit⟩ := h.cons
  obtain ⟨taken, dropped⟩ := parts.span h.2
  rw [List.cons_append] at taken dropped ⊢
  rw [someDigits.eq_def]
  simp only [digit, if_true, taken, dropped]

theorem someDigits_spells (h : someDigits ended s = .ok (d, rest)) :
    IsDigits d ∧ s = d ++ rest := by
  unfold someDigits at h
  split at h
  · cases h
  · rename_i b t
    split_ifs at h with digit
    cases h
    exact ⟨⟨by simp [digit], List.all_eq_true.mp List.all_takeWhile⟩,
      List.takeWhile_append_dropWhile.symm⟩

theorem wholeDigits_spelled (h : IsWhole d) (parts : Parts rest) :
    wholeDigits ended (d ++ rest) = .ok (d, rest) := by
  obtain ⟨digits, zero⟩ := h
  obtain ⟨b, s, rfl, -⟩ := digits.cons
  have some := someDigits_spelled ended digits parts
  rw [List.cons_append] at some ⊢
  rw [wholeDigits.eq_def]
  by_cases lead : b = code '0'
  · obtain ⟨-, rfl⟩ := List.cons.inj (zero (congrArg Option.some lead))
    simp only [lead, if_true, List.nil_append]
    cases rest with
    | nil => rfl
    | cons c rest => simp only [parts c rfl, Bool.false_eq_true, if_false]
  · simp only [lead, if_false]
    exact some

theorem wholeDigits_spells (h : wholeDigits ended s = .ok (d, rest)) :
    IsWhole d ∧ s = d ++ rest := by
  have zero : IsWhole [code '0'] :=
    ⟨⟨by simp, List.forall_mem_singleton.mpr (by decide)⟩, fun _ => rfl⟩
  unfold wholeDigits at h
  split at h
  · rename_i b s
    split_ifs at h with lead
    · subst lead
      split at h
      · split_ifs at h
        cases h
        exact ⟨zero, rfl⟩
      · cases h
        exact ⟨zero, rfl⟩
    · obtain ⟨digits, split⟩ := someDigits_spells h
      refine ⟨⟨digits, fun head => absurd ?_ lead⟩, split⟩
      obtain ⟨b', s', rfl, -⟩ := digits.cons
      rw [List.cons_append] at split
      exact (List.cons.inj split).1.trans (Option.some.inj head)
  · cases h

theorem fractionDigits_spelled {fraction : Option (List UInt8)} (h : IsFraction fraction v)
    (parts : Parts rest) (point : ∀ b ∈ rest.head?, b ≠ code '.') :
    fractionDigits ended (v ++ rest) = .ok (fraction, rest) := by
  cases h with
  | none =>
    cases rest with
    | nil => rfl
    | cons b rest => rw [List.nil_append, fractionDigits, if_neg (point b rfl)]
  | some digits =>
    rw [List.cons_append, fractionDigits, if_pos rfl, someDigits_spelled ended digits parts]
    rfl

theorem fractionDigits_spells {fraction : Option (List UInt8)}
    (h : fractionDigits ended s = .ok (fraction, rest)) :
    ∃ v, IsFraction fraction v ∧ s = v ++ rest := by
  unfold fractionDigits at h
  split at h
  · rename_i b s
    split_ifs at h with point
    · subst point
      cases read : someDigits ended s with
      | error f =>
        rw [read] at h
        cases h
      | ok p =>
        rw [read] at h
        cases h
        obtain ⟨digits, rfl⟩ := someDigits_spells read
        exact ⟨_, .some digits, rfl⟩
    · cases h
      exact ⟨[], .none, rfl⟩
  · cases h
    exact ⟨[], .none, rfl⟩

theorem exponentDigits_spelled {exponent : Option (Bool × List UInt8)} (h : IsExponent exponent v)
    (stops : Stops rest) : exponentDigits ended (v ++ rest) = .ok (exponent, rest) := by
  cases h with
  | none =>
    cases rest with
    | nil => rfl
    | cons b rest => rw [List.nil_append, exponentDigits, if_neg (not_or.mpr stops.head.2.2)]
  | @some mark minus sign d mark sign digits =>
    have read := someDigits_spelled ended digits stops.parts
    rw [List.cons_append, exponentDigits, if_pos mark]
    cases sign with
    | none =>
      -- the first digit is no sign
      obtain ⟨b, s, rfl, digit⟩ := digits.cons
      rw [List.cons_append] at read
      have plus : b ≠ code '+' := isDigit_ne digit (by decide)
      have minus : b ≠ code '-' := isDigit_ne digit (by decide)
      simp only [List.nil_append, List.cons_append, plus, minus, if_false, read]
      rfl
    | plus =>
      simp only [List.cons_append, List.nil_append, if_true, read]
      rfl
    | minus =>
      simp only [List.cons_append, List.nil_append, if_true, show code '-' ≠ code '+' by decide,
        if_false, read]
      rfl

theorem exponentDigits_spells {exponent : Option (Bool × List UInt8)}
    (h : exponentDigits ended s = .ok (exponent, rest)) :
    ∃ v, IsExponent exponent v ∧ s = v ++ rest := by
  have signed {mark : UInt8} {minus : Bool} {sign t : List UInt8}
      (hm : mark = code 'e' ∨ mark = code 'E') (hs : IsSign minus sign)
      (h : (someDigits ended t).map (fun r => (some (minus, r.1), r.2)) = .ok (exponent, rest)) :
      ∃ v, IsExponent exponent v ∧ mark :: (sign ++ t) = v ++ rest := by
    cases read : someDigits ended t with
    | error f =>
      rw [read] at h
      cases h
    | ok p =>
      rw [read] at h
      cases h
      obtain ⟨digits, rfl⟩ := someDigits_spells read
      exact ⟨_, .some hm hs digits, by simp⟩
  unfold exponentDigits at h
  split at h
  · rename_i b s
    split_ifs at h with mark
    · split at h
      · rename_i c more
        split_ifs at h with plus minus
        · subst plus
          exact signed mark .plus h
        · subst minus
          exact signed mark .minus h
        · exact signed mark .none h
      · cases h
    · cases h
      exact ⟨[], .none, rfl⟩
  · cases h
    exact ⟨[], .none, rfl⟩

/-- An exponent does not go on with what stands in front of it. -/
theorem IsExponent.parts {exponent : Option (Bool × List UInt8)} (h : IsExponent exponent v)
    (stops : Stops rest) : Parts (v ++ rest) ∧ ∀ b ∈ (v ++ rest).head?, b ≠ code '.' := by
  cases h with
  | none =>
    refine ⟨stops.parts, fun b hb => ?_⟩
    cases rest with
    | nil => cases hb
    | cons c rest =>
      obtain rfl := Option.mem_some_iff.mp hb
      exact stops.head.2.1
  | some mark =>
    rw [List.cons_append]
    rcases mark with rfl | rfl <;>
      exact ⟨.cons (by decide) _, fun b hb => Option.mem_some_iff.mp hb ▸ by decide⟩

variable (ended) in
/-- **A number is read as it is spelled**, up to where no number could go on. -/
theorem figures_spelled {n : Figures} (h : n.Spelled v) (stops : Stops rest) :
    figures ended (v ++ rest) = .ok (n, rest) := by
  obtain ⟨digits, behind, power⟩ := n
  obtain ⟨whole, fraction, exponent, isFraction, isExponent, rfl⟩ := h
  obtain ⟨parts, point⟩ := isExponent.parts stops
  have front : Parts (fraction ++ (exponent ++ rest)) := by
    cases isFraction with
    | none => exact parts
    | some digits => exact .cons (by decide) _
  rw [List.append_assoc, List.append_assoc]
  simp only [figures, wholeDigits_spelled whole front,
    fractionDigits_spelled isFraction parts point, exponentDigits_spelled isExponent stops]

/-- What is read as a number is spelled as one. -/
theorem figures_spells {n : Figures} (h : figures ended s = .ok (n, rest)) :
    ∃ v, n.Spelled v ∧ s = v ++ rest := by
  unfold figures at h
  split at h
  · cases h
  · rename_i whole s1 first
    split at h
    · cases h
    · rename_i fraction s2 second
      split at h
      · cases h
      · rename_i exponent s3 third
        cases h
        obtain ⟨isWhole, rfl⟩ := wholeDigits_spells first
        obtain ⟨v2, isFraction, rfl⟩ := fractionDigits_spells second
        obtain ⟨v3, isExponent, rfl⟩ := exponentDigits_spells third
        exact ⟨_, ⟨isWhole, v2, v3, isFraction, isExponent, rfl⟩, by simp⟩

/-- A number starts with a digit. -/
theorem Figures.Spelled.cons {n : Figures} (h : n.Spelled v) :
    ∃ b s, v = b :: s ∧ isDigit b = true := by
  obtain ⟨whole, fraction, exponent, -, -, rfl⟩ := h
  obtain ⟨b, s, start, digit⟩ := whole.1.cons
  exact ⟨b, _, by rw [start]; rfl, digit⟩

end

/-! ### Values -/

/-- What a document says, as it is written: its texts as they stand between the quotes, and its
members in their order, even if two have one name. -/
inductive Tree where
  /-- The value `null`. -/
  | null
  /-- A truth value. -/
  | bool (b : Bool)
  /-- A number, by whether it has a sign, and its figures. -/
  | number (minus : Bool) (figures : Figures)
  /-- A text. -/
  | text (body : List UInt8)
  /-- A list. -/
  | list (items : List Tree)
  /-- An object. -/
  | object (members : List (List UInt8 × Tree))

/-- A part of a document that has a beginning and an end. -/
inductive Part where
  /-- A value. -/
  | value (t : Tree)
  /-- The items of a list, from the first or from behind another, and the end of the list. -/
  | items (first : Bool) (ts : List Tree)
  /-- The members of an object, from the first or from behind another, and the end of the object. -/
  | members (first : Bool) (ms : List (List UInt8 × Tree))

/-- The sign of a number. -/
def sign : Bool → List UInt8
  | true => [code '-']
  | false => []

/-- A comma stands behind what was there before. -/
def Follows (first : Bool) (s rest : List UInt8) : Prop :=
  if first then s = rest else dropSpace s = code ',' :: rest

/-- The name of a member, as it stands between its quotes, and the colon behind it. -/
def Titled (k s rest : List UInt8) : Prop :=
  IsBody k ∧ ∃ s', dropSpace s = code '"' :: (k ++ code '"' :: s') ∧ dropSpace s' = code ':' :: rest

/-- **A part of a document is spelled by the front of some bytes**, and the others are behind it. -/
inductive Spells : Part → List UInt8 → List UInt8 → Prop where
  | null {s rest : List UInt8} : dropSpace s = ['n', 'u', 'l', 'l'].map code ++ rest →
      Spells (.value .null) s rest
  | bool {b : Bool} {s rest : List UInt8} : dropSpace s = (boolText b).map code ++ rest →
      Spells (.value (.bool b)) s rest
  | number {minus : Bool} {n : Figures} {v s rest : List UInt8} : n.Spelled v →
      dropSpace s = sign minus ++ (v ++ rest) → Spells (.value (.number minus n)) s rest
  | text {k s rest : List UInt8} : IsBody k → dropSpace s = code '"' :: (k ++ code '"' :: rest) →
      Spells (.value (.text k)) s rest
  | list {ts : List Tree} {s s' rest : List UInt8} : dropSpace s = code '[' :: s' →
      Spells (.items true ts) s' rest → Spells (.value (.list ts)) s rest
  | object {ms : List (List UInt8 × Tree)} {s s' rest : List UInt8} :
      dropSpace s = code '\x7b' :: s' → Spells (.members true ms) s' rest →
      Spells (.value (.object ms)) s rest
  | noItem {first : Bool} {s rest : List UInt8} : dropSpace s = code ']' :: rest →
      Spells (.items first []) s rest
  | item {first : Bool} {t : Tree} {ts : List Tree} {s s1 s2 rest : List UInt8} :
      Follows first s s1 → Spells (.value t) s1 s2 → Spells (.items false ts) s2 rest →
      Spells (.items first (t :: ts)) s rest
  | noMember {first : Bool} {s rest : List UInt8} : dropSpace s = code '\x7d' :: rest →
      Spells (.members first []) s rest
  | member {first : Bool} {k : List UInt8} {t : Tree} {ms : List (List UInt8 × Tree)}
      {s s1 s2 s3 rest : List UInt8} : Follows first s s1 → Titled k s1 s2 →
      Spells (.value t) s2 s3 → Spells (.members false ms) s3 rest →
      Spells (.members first ((k, t) :: ms)) s rest

/-- The kinds of values. -/
inductive Kind where
  | null | truth | number | text | list | object
  deriving DecidableEq

/-- The kind of a value. -/
def Tree.kind : Tree → Kind
  | .null => .null
  | .bool _ => .truth
  | .number _ _ => .number
  | .text _ => .text
  | .list _ => .list
  | .object _ => .object

/-- The kind of the values that start with a byte. -/
def Kind.of? (b : UInt8) : Option Kind :=
  if b = code 'n' then some .null
  else if b = code 't' ∨ b = code 'f' then some .truth
  else if b = code '"' then some .text
  else if b = code '[' then some .list
  else if b = code '\x7b' then some .object
  else if b = code '-' ∨ isDigit b = true then some .number
  else none

theorem Kind.of?_digit {b : UInt8} (h : isDigit b = true) : Kind.of? b = some .number := by
  have other {c : Char} (hc : isDigit (code c) = false) : b ≠ code c := isDigit_ne h hc
  rw [Kind.of?, if_neg (other (by decide)),
    if_neg (not_or.mpr ⟨other (by decide), other (by decide)⟩), if_neg (other (by decide)),
    if_neg (other (by decide)), if_neg (other (by decide)), if_pos (Or.inr h)]

section
variable {t : Tree} {ts : List Tree} {ms : List (List UInt8 × Tree)} {p : Part}
  {s rest : List UInt8}

/-- What a value starts with tells of which kind it is. -/
theorem Spells.starts (h : Spells (.value t) s rest) :
    ∃ b s', dropSpace s = b :: s' ∧ Kind.of? b = some t.kind := by
  cases h with
  | null start => exact ⟨_, _, start, rfl⟩
  | @bool b _ _ start => cases b <;> exact ⟨_, _, start, rfl⟩
  | @number minus n v _ _ spelled start =>
    obtain ⟨b, v, rfl, digit⟩ := spelled.cons
    cases minus
    · exact ⟨_, _, start, Kind.of?_digit digit⟩
    · exact ⟨_, _, start, rfl⟩
  | text _ start => exact ⟨_, _, start, rfl⟩
  | list start => exact ⟨_, _, start, rfl⟩
  | object start => exact ⟨_, _, start, rfl⟩

/-- A byte that starts values of another kind, or none, does not start the value. -/
theorem Kind.ne_of_starts {b : UInt8} {c : Char} (h : Kind.of? b = some t.kind)
    (other : Kind.of? (code c) ≠ some t.kind) : b ≠ code c := by
  rintro rfl
  exact other h

/-- No value starts with a blank. -/
theorem Kind.isSpace_of_starts {b : UInt8} (h : Kind.of? b = some t.kind) : isSpace b = false := by
  simp only [isSpace, Bool.or_eq_false_iff, beq_eq_false_iff_ne]
  exact ⟨⟨⟨Kind.ne_of_starts h nofun, Kind.ne_of_starts h nofun⟩, Kind.ne_of_starts h nofun⟩,
    Kind.ne_of_starts h nofun⟩

/-- What is behind a word is shorter. -/
theorem length_lt_of_dropSpace {w : List UInt8} (h : dropSpace s = w ++ rest) (word : w ≠ []) :
    rest.length < s.length := by
  have shorter := length_dropSpace_le s
  have nonempty := List.length_pos_of_ne_nil word
  rw [h, List.length_append] at shorter
  omega

theorem Follows.length_le {first : Bool} (h : Follows first s rest) : rest.length ≤ s.length := by
  cases first with
  | true => exact Nat.le_of_eq (congrArg List.length (show s = rest from h).symm)
  | false => exact Nat.le_of_lt (length_lt_of_dropSpace (w := [code ',']) h (by simp))

theorem Titled.length_lt {k : List UInt8} (h : Titled k s rest) : rest.length < s.length := by
  obtain ⟨-, s', start, colon⟩ := h
  have name : s'.length < s.length :=
    length_lt_of_dropSpace (w := code '"' :: (k ++ [code '"'])) (by simp [start]) (by simp)
  exact Nat.lt_trans (length_lt_of_dropSpace (w := [code ':']) colon (by simp)) name

/-- A part is at least one byte. -/
theorem Spells.length_lt (h : Spells p s rest) : rest.length < s.length := by
  induction h with
  | null start => exact length_lt_of_dropSpace start (by simp)
  | @bool b _ _ start => exact length_lt_of_dropSpace start (by cases b <;> simp [boolText])
  | @number minus n v _ _ spelled start =>
    obtain ⟨b, v, rfl, -⟩ := spelled.cons
    rw [← List.append_assoc] at start
    exact length_lt_of_dropSpace start (by simp)
  | @text k _ rest _ start =>
    exact length_lt_of_dropSpace (w := code '"' :: (k ++ [code '"'])) (by simp [start]) (by simp)
  | list start _ ih =>
    exact Nat.lt_trans ih (length_lt_of_dropSpace (w := [code '[']) start (by simp))
  | object start _ ih =>
    exact Nat.lt_trans ih (length_lt_of_dropSpace (w := [code '\x7b']) start (by simp))
  | noItem ends => exact length_lt_of_dropSpace (w := [code ']']) ends (by simp)
  | noMember ends => exact length_lt_of_dropSpace (w := [code '\x7d']) ends (by simp)
  | item follows _ _ value more =>
    exact Nat.lt_of_lt_of_le (Nat.lt_trans more value) follows.length_le
  | member follows titled _ _ value more =>
    exact Nat.lt_of_lt_of_le (Nat.lt_trans (Nat.lt_trans more value) titled.length_lt)
      follows.length_le

theorem dropSpace_dropSpace (s : List UInt8) : dropSpace (dropSpace s) = dropSpace s :=
  List.dropWhile_idempotent _ _

/-- Blanks in front of a value belong to it. -/
theorem spells_dropSpace : Spells (.value t) (dropSpace s) rest ↔ Spells (.value t) s rest := by
  have blanks {s s' : List UInt8} (same : dropSpace s = dropSpace s')
      (h : Spells (.value t) s rest) : Spells (.value t) s' rest := by
    cases h with
    | null start => exact .null (same ▸ start)
    | bool start => exact .bool (same ▸ start)
    | number spelled start => exact .number spelled (same ▸ start)
    | text body start => exact .text body (same ▸ start)
    | list start items => exact .list (same ▸ start) items
    | object start members => exact .object (same ▸ start) members
  exact ⟨blanks (dropSpace_dropSpace s), blanks (dropSpace_dropSpace s).symm⟩

/-- No number goes on with a blank. -/
theorem continues_space {b : UInt8} (h : isSpace b = true) : continues b = false := by
  simp only [isSpace, Bool.or_eq_true, beq_iff_eq] at h
  rcases h with ((rfl | rfl) | rfl) | rfl <;> decide

/-- A number in front of blanks is at its end if it could not go on behind them. -/
theorem Stops.of_dropSpace (h : Stops (dropSpace s)) : Stops s := by
  cases s with
  | nil => exact .nil
  | cons b s =>
    by_cases space : isSpace b = true
    · exact .cons (continues_space space) s
    · rwa [dropSpace, List.dropWhile_cons_of_neg space] at h

/-- The last value of a list is at its end, as is any in front of a comma. -/
theorem Spells.items_stop (h : Spells (.items false ts) s rest) : Stops s := by
  refine .of_dropSpace ?_
  cases h with
  | noItem ends => exact ends ▸ .cons (by decide) _
  | item follows => exact (show dropSpace s = _ from follows) ▸ .cons (by decide) _

theorem Spells.members_stop (h : Spells (.members false ms) s rest) : Stops s := by
  refine .of_dropSpace ?_
  cases h with
  | noMember ends => exact ends ▸ .cons (by decide) _
  | member follows => exact (show dropSpace s = _ from follows) ▸ .cons (by decide) _

end

/-! ### Values on their own -/

/-- Some bytes have something in front of `rest` that would be in front of whatever else. -/
def Fronts (part : List UInt8 → List UInt8 → Prop) (s rest : List UInt8) : Prop :=
  ∃ v, s = v ++ rest ∧ ∀ rest', part (v ++ rest') rest'

section
variable {part part' whole : List UInt8 → List UInt8 → Prop} {s s' rest k : List UInt8}

theorem Fronts.imp (h : Fronts part s rest) (wider : ∀ s rest, part s rest → whole s rest) :
    Fronts whole s rest := by
  obtain ⟨v, split, fronts⟩ := h
  exact ⟨v, split, fun rest' => wider _ _ (fronts rest')⟩

/-- One thing stands in front of another. -/
theorem Fronts.seq (h : Fronts part s s') (h' : Fronts part' s' rest) :
    Fronts (fun s rest => ∃ s', part s s' ∧ part' s' rest) s rest := by
  obtain ⟨v, rfl, first⟩ := h
  obtain ⟨u, rfl, second⟩ := h'
  refine ⟨v ++ u, (List.append_assoc v u rest).symm, fun rest' => ⟨u ++ rest', ?_, second rest'⟩⟩
  rw [List.append_assoc]
  exact first _

/-- A word stands behind blanks. -/
theorem fronts_word {w : List UInt8} (h : dropSpace s = w ++ rest) (word : w ≠ []) :
    Fronts (fun s rest => dropSpace s = w ++ rest) s rest := by
  obtain ⟨b, w, rfl⟩ := List.exists_cons_of_ne_nil word
  have first : isSpace b = false := by
    have head := List.head_dropWhile_not isSpace (l := s)
      (by simp [show s.dropWhile isSpace = _ from h])
    simpa only [show s.dropWhile isSpace = _ from h, List.cons_append, List.head_cons] using head
  refine ⟨s.takeWhile isSpace ++ b :: w, ?_, fun rest' => ?_⟩
  · rw [List.append_assoc, ← h]
    exact List.takeWhile_append_dropWhile.symm
  · show (s.takeWhile isSpace ++ b :: w ++ rest').dropWhile isSpace = _
    rw [List.append_assoc,
      List.dropWhile_append_of_pos (List.all_eq_true.mp List.all_takeWhile), List.cons_append,
      List.dropWhile_cons, first, if_neg Bool.false_ne_true]

theorem Follows.fronts {first : Bool} (h : Follows first s rest) :
    Fronts (Follows first) s rest := by
  cases first with
  | true => exact ⟨[], h, fun _ => rfl⟩
  | false => exact fronts_word (w := [code ',']) h (by simp)

theorem Titled.fronts (h : Titled k s rest) : Fronts (Titled k) s rest := by
  obtain ⟨body, s', start, colon⟩ := h
  have word : dropSpace s = code '"' :: (k ++ [code '"']) ++ s' := by simp [start]
  have name := fronts_word word (by simp)
  exact (name.seq (fronts_word (w := [code ':']) colon (by simp))).imp
    fun s rest ⟨s', start, colon⟩ => ⟨body, s', by simpa using start, colon⟩

/-- **A part is spelled on its own**, whatever is behind it. -/
theorem Spells.fronts {p : Part} (h : Spells p s rest) : Fronts (Spells p) s rest := by
  induction h with
  | null start => exact (fronts_word start (by simp)).imp fun _ _ => .null
  | @bool b _ _ start =>
    exact (fronts_word start (by cases b <;> simp [boolText])).imp fun _ _ => .bool
  | @number minus n v _ _ spelled start =>
    obtain ⟨b, v, rfl, -⟩ := id spelled.cons
    rw [← List.append_assoc] at start
    exact (fronts_word start (by simp)).imp fun _ _ start =>
      .number spelled (by rw [start, List.append_assoc])
  | @text k s rest body start =>
    have word : dropSpace s = code '"' :: (k ++ [code '"']) ++ rest := by simp [start]
    exact (fronts_word word (by simp)).imp fun _ _ start => .text body (by simpa using start)
  | list start _ ih =>
    exact ((fronts_word (w := [code '[']) start (by simp)).seq ih).imp
      fun _ _ ⟨_, start, items⟩ => .list start items
  | object start _ ih =>
    exact ((fronts_word (w := [code '\x7b']) start (by simp)).seq ih).imp
      fun _ _ ⟨_, start, members⟩ => .object start members
  | noItem ends => exact (fronts_word (w := [code ']']) ends (by simp)).imp fun _ _ => .noItem
  | noMember ends =>
    exact (fronts_word (w := [code '\x7d']) ends (by simp)).imp fun _ _ => .noMember
  | item follows _ _ value more =>
    exact (follows.fronts.seq (value.seq more)).imp
      fun _ _ ⟨_, follows, _, value, more⟩ => .item follows value more
  | member follows titled _ _ value more =>
    exact (follows.fronts.seq (titled.fronts.seq (value.seq more))).imp
      fun _ _ ⟨_, follows, _, titled, _, value, more⟩ => .member follows titled value more

end

/-! ### Passing over a value -/

section
variable {stack : List Enclosure} {s t r : List UInt8} {b : UInt8} {e : Enclosure}

theorem skipFrom_value (h : dropSpace s = b :: t) :
    skipFrom .value stack s =
      if b = code '[' then skipFrom .first (.list :: stack) t
      else if b = code '\x7b' then skipFrom .first (.object :: stack) t
      else (skipScalar (b :: t)).bind (skipFrom .more stack) := by
  rw [skipFrom]
  split
  · rename_i none
    rw [h] at none
    cases none
  · rename_i b t' here
    rw [h] at here
    cases here
    refine ite_congr rfl (fun _ => rfl) fun _ => ite_congr rfl (fun _ => rfl) fun _ => ?_
    split <;> simp only [*] <;> rfl

theorem skipFrom_key (h : skipKey (dropSpace s) = .ok r) :
    skipFrom .key stack s = skipFrom .value stack r := by
  conv_lhs => rw [skipFrom]
  split
  · rename_i f fault
    rw [h] at fault
    cases fault
  · rename_i r' found
    rw [h] at found
    cases found
    rfl

theorem skipFrom_first (h : dropSpace s = b :: t) :
    skipFrom .first (e :: stack) s =
      if b = e.closing then skipFrom .more stack t else skipFrom e.inside (e :: stack) s := by
  rw [skipFrom]
  split
  · rename_i none
    rw [h] at none
    cases none
  · rename_i b t' here
    rw [h] at here
    cases here
    rfl

theorem skipFrom_more (h : dropSpace s = b :: t) :
    skipFrom .more (e :: stack) s =
      if b = code ',' then skipFrom e.inside (e :: stack) t
      else if b = e.closing then skipFrom .more stack t
      else .error .malformed := by
  rw [skipFrom]
  split
  · rename_i none
    rw [h] at none
    cases none
  · rename_i b t' here
    rw [h] at here
    cases here
    rfl

/-- A single word is passed over on its own. -/
theorem skipFrom_scalar (h : skipScalar (dropSpace s) = .ok r) :
    skipFrom .value stack s = skipFrom .more stack r := by
  cases start : dropSpace s with
  | nil =>
    rw [start] at h
    cases h
  | cons b t =>
    rw [start] at h
    have list : b ≠ code '[' := by
      rintro rfl
      cases h
    have object : b ≠ code '\x7b' := by
      rintro rfl
      cases h
    rw [skipFrom_value start, if_neg list, if_neg object, h]
    rfl

/-- What is due in an enclosure, in front of its first part or behind another. -/
def Due.within (first : Bool) : Due :=
  if first then .first else .more

theorem skipFrom_follows {first : Bool} {s' : List UInt8} (h : Follows first s s')
    (start : dropSpace s' = b :: t) (goes : b ≠ e.closing) :
    skipFrom (.within first) (e :: stack) s = skipFrom e.inside (e :: stack) s' := by
  cases first with
  | true =>
    obtain rfl : s = s' := h
    rw [Due.within, if_pos rfl, skipFrom_first start, if_neg goes]
  | false =>
    have comma : dropSpace s = code ',' :: s' := h
    rw [Due.within, if_neg Bool.false_ne_true, skipFrom_more comma, if_pos rfl]

theorem skipFrom_closing {first : Bool} (h : dropSpace s = e.closing :: r) :
    skipFrom (.within first) (e :: stack) s = skipFrom .more stack r := by
  have comma : e.closing ≠ code ',' := by cases e <;> decide
  cases first with
  | true => rw [Due.within, if_pos rfl, skipFrom_first h, if_pos rfl]
  | false =>
    rw [Due.within, if_neg Bool.false_ne_true, skipFrom_more h, if_neg comma, if_pos rfl]

end

/-- What is due at the beginning of a part. -/
def Part.due : Part → Due
  | .value _ => .value
  | .items first _ | .members first _ => .within first

/-- What is open at the beginning of a part, if `stack` is open behind its end. -/
def Part.stack : Part → List Enclosure → List Enclosure
  | .value _, stack => stack
  | .items _ _, stack => .list :: stack
  | .members _ _, stack => .object :: stack

theorem skipKey_titled {k s rest : List UInt8} (h : Titled k s rest) :
    skipKey (dropSpace s) = .ok rest := by
  obtain ⟨body, s', start, colon⟩ := h
  rw [start, skipKey, if_neg (not_not.mpr rfl), passQuoted_body body]
  simp only [colon, if_true]

theorem skipScalar_number {minus : Bool} {n : Figures} {v rest : List UInt8} (h : n.Spelled v)
    (stops : Stops rest) : skipScalar (sign minus ++ (v ++ rest)) = .ok rest := by
  have read := figures_spelled .malformed h stops
  cases minus with
  | true =>
    show (figures .malformed (v ++ rest)).map (·.2) = .ok rest
    rw [read]
    rfl
  | false =>
    obtain ⟨b, v, rfl, digit⟩ := h.cons
    rw [List.cons_append] at read
    rw [sign, List.nil_append, List.cons_append, skipScalar, if_neg (isDigit_ne digit (by decide)),
      if_neg (isDigit_ne digit (by decide)), if_neg (isDigit_ne digit (by decide)),
      if_neg (isDigit_ne digit (by decide)), if_neg (isDigit_ne digit (by decide)), if_pos digit,
      read]
    rfl

/-- A part is passed over up to its end, whatever is open around it. -/
theorem Spells.skipFrom_part {p : Part} {s rest : List UInt8} (h : Spells p s rest)
    (stops : Stops rest) (stack : List Enclosure) :
    skipFrom p.due (p.stack stack) s = skipFrom .more stack rest := by
  induction h generalizing stack with
  | null start => exact skipFrom_scalar (start ▸ name_eq_ok.mpr rfl)
  | @bool b _ _ start =>
    cases b <;> exact skipFrom_scalar (start ▸ name_eq_ok.mpr rfl)
  | number spelled start => exact skipFrom_scalar (start ▸ skipScalar_number spelled stops)
  | text body start => exact skipFrom_scalar (start ▸ passQuoted_body body _)
  | list start _ ih => exact (skipFrom_value start).trans (ih stops stack)
  | object start _ ih => exact (skipFrom_value start).trans (ih stops stack)
  | noItem ends => exact skipFrom_closing ends
  | @item first t ts s s1 s2 rest follows value more ihValue ihMore =>
    obtain ⟨b, u, start, kind⟩ := value.starts
    calc skipFrom (.within first) (.list :: stack) s
        = skipFrom .value (.list :: stack) s1 := skipFrom_follows follows start
          (Kind.ne_of_starts kind nofun)
      _ = skipFrom .more (.list :: stack) s2 := ihValue more.items_stop (.list :: stack)
      _ = skipFrom .more stack rest := ihMore stops stack
  | noMember ends => exact skipFrom_closing ends
  | @member first k t ms s s1 s2 s3 rest follows titled value more ihValue ihMore =>
    obtain ⟨-, _, start, -⟩ := id titled
    calc skipFrom (.within first) (.object :: stack) s
        = skipFrom .key (.object :: stack) s1 := skipFrom_follows follows start (by decide)
      _ = skipFrom .value (.object :: stack) s2 := skipFrom_key (skipKey_titled titled)
      _ = skipFrom .more (.object :: stack) s3 := ihValue more.members_stop (.object :: stack)
      _ = skipFrom .more stack rest := ihMore stops stack

/-- **What spells a value is passed over up to its end.** -/
theorem skip_spelled {t : Tree} {s rest : List UInt8} (h : Spells (.value t) s rest)
    (stops : Stops rest) : skip s = .ok rest := by
  have passed := h.skipFrom_part stops []
  exact passed.trans (by rw [skipFrom])

/-! ### What was passed over -/

/-- The rest of an enclosure is spelled by the front of some bytes. -/
def Enclosure.Ends (first : Bool) (s rest : List UInt8) : Enclosure → Prop
  | .list => ∃ ts, Spells (.items first ts) s rest
  | .object => ∃ ms, Spells (.members first ms) s rest

/-- The rest of each open enclosure is spelled, one behind the other. -/
def Closed : List Enclosure → List UInt8 → List UInt8 → Prop
  | [], s, rest => s = rest
  | e :: stack, s, rest => ∃ s', e.Ends false s s' ∧ Closed stack s' rest

/-- What is due is spelled, and the rest of each open enclosure behind it. -/
def Due.Met : Due → List Enclosure → List UInt8 → List UInt8 → Prop
  | .value, stack, s, rest => ∃ t s', Spells (.value t) s s' ∧ Closed stack s' rest
  | .key, stack, s, rest =>
    ∃ k t s1 s2, Titled k s s1 ∧ Spells (.value t) s1 s2 ∧ Closed stack s2 rest
  | .first, [], s, rest => s = rest
  | .first, e :: stack, s, rest => ∃ s', e.Ends true s s' ∧ Closed stack s' rest
  | .more, stack, s, rest => Closed stack s rest

section
variable {e : Enclosure} {stack : List Enclosure} {first : Bool} {s s' rest : List UInt8}

theorem Enclosure.ends_closing (h : dropSpace s = e.closing :: rest) : e.Ends first s rest := by
  cases e with
  | list => exact ⟨[], .noItem h⟩
  | object => exact ⟨[], .noMember h⟩

/-- One more part of an enclosure stands in front of the rest of it. -/
theorem Due.Met.inside (h : e.inside.Met (e :: stack) s' rest) (follows : Follows first s s') :
    ∃ s'', e.Ends first s s'' ∧ Closed stack s'' rest := by
  cases e with
  | list =>
    obtain ⟨t, s1, value, s2, ⟨ts, more⟩, closed⟩ := h
    exact ⟨s2, ⟨_, .item follows value more⟩, closed⟩
  | object =>
    obtain ⟨k, t, s1, s2, titled, value, s3, ⟨ms, more⟩, closed⟩ := h
    exact ⟨s3, ⟨_, .member follows titled value more⟩, closed⟩

theorem titled_of_skipKey (h : skipKey (dropSpace s) = .ok rest) : ∃ k, Titled k s rest := by
  cases start : dropSpace s with
  | nil =>
    rw [start] at h
    cases h
  | cons b t =>
    rw [start, skipKey] at h
    split_ifs at h with quote
    obtain rfl := not_not.mp quote
    split at h
    · cases h
    · rename_i s1 passed
      split at h
      · cases h
      · rename_i c s2 colon
        split_ifs at h with sign
        cases h
        obtain ⟨k, body, rfl⟩ := body_of_passQuoted passed
        exact ⟨k, body, s1, start, sign ▸ colon⟩

/-- A word that was passed over is a value. -/
theorem spells_of_skipScalar (h : skipScalar (dropSpace s) = .ok rest) :
    ∃ t, Spells (.value t) s rest := by
  have figured {v : List UInt8} (h : (figures .malformed v).map (·.2) = .ok rest) :
      ∃ n u, Figures.Spelled n u ∧ v = u ++ rest := by
    cases read : figures .malformed v with
    | error f =>
      rw [read] at h
      cases h
    | ok p =>
      rw [read] at h
      cases h
      exact ⟨p.1, figures_spells read⟩
  cases start : dropSpace s with
  | nil =>
    rw [start] at h
    cases h
  | cons b u =>
    rw [start, skipScalar] at h
    split_ifs at h with null true false quote minus digit
    · exact ⟨.null, .null (by rw [start, name_eq_ok.mp h, null]; rfl)⟩
    · exact ⟨.bool .true, .bool (by rw [start, name_eq_ok.mp h, true]; rfl)⟩
    · exact ⟨.bool .false, .bool (by rw [start, name_eq_ok.mp h, false]; rfl)⟩
    · obtain ⟨k, body, rfl⟩ := body_of_passQuoted h
      exact ⟨.text k, .text body (by rw [start, quote])⟩
    · obtain ⟨n, v, spelled, rfl⟩ := figured h
      exact ⟨.number .true n, .number spelled (by rw [start, minus]; rfl)⟩
    · obtain ⟨n, v, spelled, written⟩ := figured h
      exact ⟨.number .false n, .number spelled (by rw [start, written]; rfl)⟩

end

/-- What was passed over from a place meets what was due there. -/
theorem met_of_skipFrom {due : Due} {stack : List Enclosure} {s rest : List UInt8}
    (h : skipFrom due stack s = .ok rest) : due.Met stack s rest := by
  fun_induction skipFrom due stack s with
  | case1 | case4 | case6 | case9 | case13 | case16 => cases h
  | case2 stack s t start ih =>
    obtain ⟨s', ⟨ts, items⟩, closed⟩ := ih h
    exact ⟨_, s', .list start items, closed⟩
  | case3 stack s t start _ ih =>
    obtain ⟨s', ⟨ms, members⟩, closed⟩ := ih h
    exact ⟨_, s', .object start members, closed⟩
  | case5 stack s b t start _ _ r passed ih =>
    obtain ⟨v, value⟩ := spells_of_skipScalar (start ▸ passed)
    exact ⟨v, r, value, ih h⟩
  | case7 stack s r passed ih =>
    obtain ⟨k, titled⟩ := titled_of_skipKey passed
    obtain ⟨t, s', value, closed⟩ := ih h
    exact ⟨k, t, r, s', titled, value, closed⟩
  | case8 | case12 => exact Except.ok.inj h
  | case10 s e stack t ends ih => exact ⟨t, e.ends_closing ends, ih h⟩
  | case11 s e stack b t _ _ ih => exact (ih h).inside (show Follows true s s from rfl)
  | case14 s e stack t comma ih => exact (ih h).inside (show Follows false s t from comma)
  | case15 s e stack t ends _ ih => exact ⟨t, e.ends_closing ends, ih h⟩

/-- **Whatever was passed over spells a value.** -/
theorem skip_spells {s rest : List UInt8} (h : skip s = .ok rest) :
    ∃ t, Spells (.value t) s rest := by
  obtain ⟨t, s', value, closed⟩ := met_of_skipFrom h
  exact ⟨t, (show s' = rest from closed) ▸ value⟩

end FlashStation.Json
