/-
# The normal form of a flash parameter

A text spells a choice if, without the blanks at its ends and apart from the case of the letters `A`
to `Z`, it is the choice's spelling. No text spells two choices. What a catalog's text stands for is
the choice that it spells, or else the text without the blanks at its ends; an operator's text is
accepted if it spells a choice, and refused as it was typed otherwise. The values that texts stand
for are the normal ones: writing such a value as a text or as JSON and reading it again gives the
value back.

Key definitions: `Text.SameLetter`, `Choices.Spells`, `Param.Normal`, `Param.NormalForms`,
`Package.SpellsChoices`.
Key theorems: `Choices.choice?_eq_some_iff`, `Param.normal_iff`, `Param.normalForms`,
`Package.params_offered_iff`, `parameters_have_normal_forms`.
-/
import FlashStation.Proofs.Fetching
import FlashStation.Proofs.Layouts
import FlashStation.Proofs.Literals
import FlashStation.Proofs.Segments

namespace FlashStation

namespace Text

/-! ### The case of letters -/

/-- Two characters are the same, or one is a letter from `A` to `Z` and the other its small form. -/
def SameLetter (c d : Char) : Prop :=
  c = d ∨ (c.isUpper ∧ d.toNat = c.toNat + 32) ∨ (d.isUpper ∧ c.toNat = d.toNat + 32)

theorem isUpper_iff (c : Char) : c.isUpper = true ↔ 65 ≤ c.toNat ∧ c.toNat ≤ 90 :=
  decide_eq_true_iff

/-- Making letters small makes the same letters equal, and no others. -/
theorem foldCase_eq_iff (c d : Char) : foldCase c = foldCase d ↔ SameLetter c d := by
  have ext (c d : Char) : c = d ↔ c.toNat = d.toNat := Char.toNat_inj.symm
  rw [SameLetter, ext, ext c d, foldCase_toNat, foldCase_toNat, isUpper_iff, isUpper_iff]
  split <;> split <;> omega

/-- Texts are equal when the case of letters is ignored if they have the same letters. -/
theorem equalFold_iff (a b : String) :
    equalFold a b = true ↔ List.Forall₂ SameLetter a.toList b.toList := by
  rw [equalFold, beq_iff_eq, ← List.forall₂_eq_eq_eq, List.forall₂_map_left_iff,
    List.forall₂_map_right_iff]
  simp only [foldCase_eq_iff]

/-- What is left without the blanks at the ends is left as it is. -/
theorem Stripped.again {s t : List Char} (h : Stripped s t) : Stripped t t := by
  obtain ⟨_, _, -, -, -, first, last⟩ := h
  exact ⟨[], [], (List.append_nil t).symm, nofun, nofun, first, last⟩

end Text

/-! ### What a text spells -/

namespace Choices

variable {κ : Type} [Choices κ] {c d : κ} {v : String}

/-- Without the blanks at its ends, and apart from the case of letters, a text is the spelling of a
choice. -/
def Spells (c : κ) (v : String) : Prop :=
  ∃ t, Text.Stripped v.toList t ∧ List.Forall₂ Text.SameLetter (spelling c).toList t

theorem spells_iff (c : κ) (v : String) :
    Spells c v ↔ Text.equalFold (spelling c) (Text.trim v) = true := by
  rw [Text.equalFold_iff, Text.trim, String.toList_ofList]
  simp [Spells, Text.stripped_iff]

/-- The blanks at the ends of a text do not change what it spells. -/
theorem spells_stripped {w : String} (h : Text.Stripped v.toList w.toList) :
    Spells c w ↔ Spells c v := by
  have left (t : List Char) : Text.Stripped w.toList t ↔ Text.Stripped v.toList t := by
    rw [Text.stripped_iff, Text.stripped_iff, ← h.eq_trimChars, ← h.again.eq_trimChars]
  simp [Spells, left]

end Choices

/-- All choices are listed, and their spellings are without blanks at their ends and can be told
apart when the case of letters is ignored. -/
class Choices.Lawful (κ : Type) [Choices κ] : Prop where
  mem_all : ∀ c : κ, c ∈ Choices.all
  bare : ∀ c ∈ Choices.all (κ := κ), Text.trim (Choices.spelling c) = Choices.spelling c
  apart : ∀ c ∈ Choices.all (κ := κ), ∀ d ∈ Choices.all,
    Text.equalFold (Choices.spelling c) (Choices.spelling d) = true → c = d

instance : Choices.Lawful SizeChoice where
  mem_all c := by cases c <;> decide
  bare := by decide
  apart := by decide

instance : Choices.Lawful ModeChoice where
  mem_all c := by cases c <;> decide
  bare := by decide
  apart := by decide

instance : Choices.Lawful FreqChoice where
  mem_all c := by cases c <;> decide
  bare := by decide
  apart := by decide

section
variable {κ : Type} [Choices κ]

namespace Choices

variable [Lawful κ] {c d : κ} {v : String}

theorem bare_spelling (c : κ) :
    Text.Stripped (spelling c).toList (spelling c).toList := by
  rw [Text.stripped_iff, ← String.ofList_inj, String.ofList_toList]
  exact (Lawful.bare c (Lawful.mem_all c)).symm

/-- A text spells one choice at most. -/
theorem Spells.unique (hc : Spells c v) (hd : Spells d v) : c = d := by
  rw [spells_iff] at hc hd
  have same := (beq_iff_eq.mp hc).trans (beq_iff_eq.mp hd).symm
  exact Lawful.apart c (Lawful.mem_all c) d (Lawful.mem_all d) (beq_iff_eq.mpr same)

/-- A choice is spelled by its spelling. -/
theorem spells_spelling (c : κ) : Spells c (spelling c) :=
  ⟨_, bare_spelling c, List.forall₂_same.mpr fun _ _ => .inl rfl⟩

/-- **The choice that is found is the one that the text spells.** -/
theorem choice?_eq_some_iff : Param.choice? v = some c ↔ Spells c v := by
  rw [spells_iff]
  constructor
  · intro found
    have folded := List.find?_some found
    exact folded
  · intro spelled
    cases found : Param.choice? (κ := κ) v with
    | none => exact absurd spelled (List.find?_eq_none.mp found c (Lawful.mem_all c))
    | some d =>
      have folded := List.find?_some found
      have other : Spells d v := (spells_iff d v).mpr folded
      rw [other.unique ((spells_iff c v).mpr spelled)]

theorem choice?_eq_none_iff : Param.choice? (κ := κ) v = none ↔ ∀ c : κ, ¬ Spells c v := by
  rw [Option.eq_none_iff_forall_ne_some]
  exact forall_congr' fun c => not_congr choice?_eq_some_iff

/-- The choice whose spelling is written to the letter is found. -/
theorem find?_spelling (c : κ) :
    ((all (κ := κ)).find? fun d => spelling d == spelling c) = some c := by
  cases found : (all (κ := κ)).find? fun d => spelling d == spelling c with
  | none =>
    have other := List.find?_eq_none.mp found c (Lawful.mem_all c)
    exact absurd (beq_self_eq_true _) other
  | some d =>
    have written := List.find?_some found
    have same : spelling d = spelling c := beq_iff_eq.mp written
    have spelled : Spells c (spelling d) := same ▸ spells_spelling c
    rw [(spells_spelling d).unique spelled]

end Choices

namespace Param

/-! ### Normal values -/

/-- A value that a text can stand for: a choice, or a text without blanks at its ends that spells
no choice. -/
inductive Normal : Param κ → Prop where
  | known (c : κ) : Normal (.known c)
  | other {w : String} (bare : Text.Stripped w.toList w.toList)
      (unknown : ∀ c : κ, ¬ Choices.Spells c w) : Normal (.other w)

section
variable {v w : String} {c : κ} {p : Param κ}

theorem ofManifest_spelled (h : choice? v = some c) : ofManifest v = .known c := by
  rw [ofManifest, h]

theorem ofManifest_unknown (h : choice? (κ := κ) v = none) :
    (ofManifest v : Param κ) = .other (Text.trim v) := by
  rw [ofManifest, h]

/-- An operator may choose what a text of a catalog stands for if that text could have been typed
in, and it is then what the text stands for. -/
theorem choose_ok_iff :
    choose v = .ok p ↔ (ofManifest v : Param κ).checkChoice = .ok () ∧ p = ofManifest v := by
  unfold choose
  cases found : choice? (κ := κ) v with
  | some d => simp [ofManifest_spelled found, checkChoice, eq_comm]
  | none => simp [ofManifest_unknown found, checkChoice]

variable [Choices.Lawful κ]

theorem ofManifest_known_iff : ofManifest v = .known c ↔ Choices.Spells c v := by
  rw [← Choices.choice?_eq_some_iff]
  cases found : choice? (κ := κ) v with
  | some d => rw [ofManifest_spelled found, known.injEq, Option.some.injEq]
  | none => simp [ofManifest_unknown found]

theorem ofManifest_other_iff : (ofManifest v : Param κ) = .other w ↔
    Text.Stripped v.toList w.toList ∧ ∀ c : κ, ¬ Choices.Spells c v := by
  rw [← Choices.choice?_eq_none_iff, Text.stripped_iff, ← String.ofList_inj, String.ofList_toList]
  cases found : choice? (κ := κ) v with
  | some d => simp [ofManifest_spelled found]
  | none => simp [ofManifest_unknown found, Text.trim, eq_comm]

theorem choose_error_iff {fault : ChoiceFault} : choose (κ := κ) v = .error fault ↔
    (∀ c : κ, ¬ Choices.Spells c v) ∧ fault = .badParam (Choices.title κ) v := by
  rw [← Choices.choice?_eq_none_iff]
  unfold choose
  cases found : choice? (κ := κ) v with
  | some d => simp
  | none => simp [eq_comm]

theorem ofManifest_normal (v : String) : (ofManifest v : Param κ).Normal := by
  cases stands : (ofManifest v : Param κ) with
  | known c => exact .known c
  | other w =>
    obtain ⟨stripped, unknown⟩ := ofManifest_other_iff.mp stands
    exact .other stripped.again fun c => mt (Choices.spells_stripped stripped).mp (unknown c)

/-- A normal value is what its own text stands for. -/
theorem Normal.ofManifest_text (normal : p.Normal) : ofManifest p.text = p := by
  cases normal with
  | known c => exact ofManifest_known_iff.mpr (Choices.spells_spelling c)
  | other bare unknown => exact ofManifest_other_iff.mpr ⟨bare, unknown⟩

/-- **The normal values are those that texts stand for.** -/
theorem normal_iff : p.Normal ↔ ∃ v, ofManifest v = p := by
  constructor
  · intro normal
    exact ⟨p.text, normal.ofManifest_text⟩
  · rintro ⟨v, rfl⟩
    exact ofManifest_normal v

/-- No normal value is written like a choice without being it. -/
theorem Normal.ofJson_text (normal : p.Normal) : ofJson? (.str p.text) = some p := by
  unfold ofJson?
  cases normal with
  | known c => simp only [text, Choices.find?_spelling]
  | @other w bare unknown =>
    have none : (Choices.all (κ := κ)).find? (fun d => Choices.spelling d == w) = none := by
      refine List.find?_eq_none.mpr fun d _ same => unknown d ?_
      exact beq_iff_eq.mp same ▸ Choices.spells_spelling d
    simp only [text, none]

end

/-- What holds of the texts of a kind of parameter, and of the values that they stand for. -/
structure NormalForms (κ : Type) [Choices κ] : Prop where
  /-- A text stands for the choice that it spells, -/
  known : ∀ (v : String) (c : κ), ofManifest v = .known c ↔ Choices.Spells c v
  /-- or, if it spells none, for itself without the blanks at its ends. -/
  other : ∀ v w : String, (ofManifest v : Param κ) = .other w ↔
    Text.Stripped v.toList w.toList ∧ ∀ c : κ, ¬ Choices.Spells c v
  /-- An operator's text is accepted if what it stands for is a choice, and comes to that choice; -/
  accepted : ∀ (v : String) (p : Param κ), choose v = .ok p ↔
    (ofManifest v : Param κ).checkChoice = .ok () ∧ p = ofManifest v
  /-- it is refused as it was typed otherwise. -/
  refused : ∀ (v : String) (fault : ChoiceFault), choose (κ := κ) v = .error fault ↔
    (∀ c : κ, ¬ Choices.Spells c v) ∧ fault = .badParam (Choices.title κ) v
  /-- The text of a value stands for that value. -/
  stable : ∀ v : String, ofManifest (ofManifest v : Param κ).text = (ofManifest v : Param κ)
  /-- An operator may type the text of a choice, -/
  retyped : ∀ (v : String) (c : κ), ofManifest v = .known c →
    choose (ofManifest v : Param κ).text = .ok (ofManifest v : Param κ)
  /-- and may type the text of no other value. -/
  barred : ∀ v w : String, (ofManifest v : Param κ) = .other w →
    choose (κ := κ) (ofManifest v : Param κ).text = .error (.badParam (Choices.title κ) w)
  /-- A value that is written as JSON, in either layout, is read back. -/
  restored : ∀ (v : String) (l : Json.Layout), ∃ s,
    Json.document Json.text (Json.printed l 0 (ofManifest v : Param κ).toJson) = .ok s ∧
      ofJson? (.str s) = some (ofManifest v : Param κ)

/-- **The values of lawful choices have normal forms.** -/
theorem normalForms (κ : Type) [Choices κ] [Choices.Lawful κ] : NormalForms κ where
  known _ _ := ofManifest_known_iff
  other _ _ := ofManifest_other_iff
  accepted _ _ := choose_ok_iff
  refused _ _ := choose_error_iff
  stable v := (ofManifest_normal v).ofManifest_text
  retyped v c stands := by
    have again := (ofManifest_normal (κ := κ) v).ofManifest_text
    refine choose_ok_iff.mpr ⟨?_, again.symm⟩
    rw [again, stands, checkChoice]
  barred v w stands := by
    obtain ⟨stripped, unknown⟩ := ofManifest_other_iff.mp stands
    rw [stands, text]
    exact choose_error_iff.mpr
      ⟨fun c => mt (Choices.spells_stripped stripped).mp (unknown c), rfl⟩
  restored v l := by
    have read := (Json.Reads.text (ofManifest v : Param κ).text).document l 0 .nil
    rw [List.append_nil] at read
    exact ⟨_, read, (ofManifest_normal v).ofJson_text⟩

/-- A parameter that may be left out is a choice if what is declared of it spells one. -/
theorem declared_known_iff [Choices.Lawful κ] (declared : Option String) (keep : κ) :
    (∃ c, (declared.map ofManifest).getD (.known keep) = .known c) ↔
      ∀ s ∈ declared, ∃ c : κ, Choices.Spells c s := by
  cases declared with
  | none => simp
  | some s => simp [ofManifest_known_iff]

end Param

end

/-! ### Parameters of packages -/

/-- Every parameter that a package declares spells a choice. -/
def Package.SpellsChoices (p : Package) : Prop :=
  (∀ s ∈ p.flashSize, ∃ c : SizeChoice, Choices.Spells c s) ∧
    (∀ s ∈ p.flashMode, ∃ c : ModeChoice, Choices.Spells c s) ∧
    ∀ s ∈ p.flashFreq, ∃ c : FreqChoice, Choices.Spells c s

theorem Package.params_offered_iff (p : Package) : p.params.Offered ↔ p.SpellsChoices :=
  and_congr (Param.declared_known_iff _ _)
    (and_congr (Param.declared_known_iff _ _) (Param.declared_known_iff _ _))

/-- A file with the parameters of a package can be written if these spell choices and its address
can be read. -/
theorem Package.params_accepted_iff (p : Package) (file address : String) (source : Source) :
    (Choice.custom ⟨some file, address, p.params⟩).resolve = .ok source ↔
      p.SpellsChoices ∧ ∃ a, parseAddress address = .ok a ∧ source = .custom file a p.params := by
  rw [Choice.resolve_iff, ← p.params_offered_iff]
  constructor
  · intro resolves
    cases resolves with
    | custom there offered read =>
      cases there
      exact ⟨offered, _, read, rfl⟩
  · rintro ⟨offered, a, read, rfl⟩
    exact .custom rfl offered read

/-- **Flash parameters have one normal form.** For each kind, every text stands for one value, the
choice that it spells or else the text itself without the blanks at its ends; an operator's text is
accepted if and only if its value passes the check of choices; and a value is given back by its own
text and by its JSON form. So the parameters of a package are accepted for a file if and only if
every one that it declares spells a choice. -/
theorem parameters_have_normal_forms :
    Param.NormalForms SizeChoice ∧ Param.NormalForms ModeChoice ∧ Param.NormalForms FreqChoice ∧
      (∀ p : Package, p.params.checkChoices = .ok () ↔ p.SpellsChoices) ∧
      ∀ (p : Package) (file address : String) (source : Source),
        (Choice.custom ⟨some file, address, p.params⟩).resolve = .ok source ↔
          p.SpellsChoices ∧ ∃ a, parseAddress address = .ok a ∧
            source = .custom file a p.params := by
  refine ⟨Param.normalForms _, Param.normalForms _, Param.normalForms _, fun p => ?_,
    Package.params_accepted_iff⟩
  rw [FlashParams.checked_iff, ← p.params_offered_iff]
  constructor
  · intro checked
    cases checked with
    | offered offered => exact offered
  · exact .offered

end FlashStation
