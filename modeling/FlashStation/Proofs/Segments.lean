/-
# Segments of paths

A path is taken apart at its separators and walked along piece by piece. A slash at the end of its
text is one more piece, which is empty, and the walk ends in a directory: it is the walk without it,
with an empty segment behind it if there was none. Plain names are walked along as they are, one
segment each, and their texts stand behind the directory where they start.

Key definitions: `Url.OpenEnd`, `Url.slashed`, `Url.Closed`, `PlainName`.
Key theorems: `Url.pathPieces_slash`, `Url.walk_slash`, `Url.pathFromRoot_slash`,
`Url.pathFromRoot_closed`, `Url.walk_plain`, `Url.pathText_plain`.
-/
import Mathlib.Data.List.Basic
import FlashStation.Place.Url

namespace FlashStation

open Text

namespace Url

/-! ### Pieces -/

/-- A text does not end with a separator. -/
def OpenEnd (special : Bool) (s : List Char) : Prop :=
  ∀ c, s.getLast? = some c → isSlash special c = false

section
variable {special : Bool} {s t : List Char} {c : Char}

@[simp] theorem isSlash_slash : isSlash special '/' = true := rfl

theorem OpenEnd.tail (h : OpenEnd special (c :: s)) : OpenEnd special s := by
  intro d last
  cases s with
  | nil => cases last
  | cons e s => exact h d last

/-- What is left of a text that does not end with a separator does not end with one. -/
theorem OpenEnd.suffix (h : OpenEnd special s) (ends : t <:+ s) : OpenEnd special t := by
  obtain ⟨front, rfl⟩ := ends
  intro d last
  refine h d ?_
  rw [List.getLast?_append, last, Option.some_or]

theorem OpenEnd.not_all (h : OpenEnd special s) (some? : s ≠ []) :
    ∃ d ∈ s, isSlash special d = false := by
  have last := List.getLast?_eq_some_getLast some?
  exact ⟨_, List.getLast_mem some?, h _ last⟩

theorem pathPieces_ne_nil (special : Bool) (s : List Char) : pathPieces special s ≠ [] := by
  cases s with
  | nil => nofun
  | cons c s =>
    rw [pathPieces]
    split
    · nofun
    · split <;> nofun

/-- A slash at the end is one more piece. -/
theorem pathPieces_slash (s : List Char) :
    pathPieces special (s ++ ['/']) = pathPieces special s ++ [[]] := by
  induction s with
  | nil => rfl
  | cons c s ih =>
    rw [List.cons_append, pathPieces, pathPieces, ih]
    by_cases slash : isSlash special c = true
    · rw [if_pos slash, if_pos slash, List.cons_append]
    · obtain ⟨first, more, same⟩ := List.exists_cons_of_ne_nil (pathPieces_ne_nil special s)
      rw [if_neg slash, if_neg slash, same]
      rfl

/-- A piece ends at the first separator. -/
theorem pathPieces_cut (h : ∀ c ∈ t, isSlash special c = false) (s : List Char) :
    pathPieces special (t ++ '/' :: s) = t :: pathPieces special s := by
  induction t with
  | nil => rfl
  | cons c t ih =>
    obtain ⟨first, rest⟩ := List.forall_mem_cons.mp h
    rw [List.cons_append, pathPieces, if_neg (by rw [first]; nofun), ih rest]

/-- A text without a separator is one piece. -/
theorem pathPieces_one (h : ∀ c ∈ t, isSlash special c = false) : pathPieces special t = [t] := by
  induction t with
  | nil => rfl
  | cons c t ih =>
    obtain ⟨first, rest⟩ := List.forall_mem_cons.mp h
    rw [pathPieces, if_neg (by rw [first]; nofun), ih rest]

/-- The last piece of a text is empty only if there is nothing behind the last separator. -/
theorem pathPieces_last (some? : s ≠ []) (h : OpenEnd special s) :
    ∃ pieces piece, pathPieces special s = pieces ++ [piece] ∧ piece ≠ [] := by
  induction s with
  | nil => exact absurd rfl some?
  | cons c s ih =>
    rw [pathPieces]
    by_cases one : s = []
    · subst one
      have alone : isSlash special c = false := h c rfl
      rw [if_neg (by rw [alone]; nofun)]
      exact ⟨[], [c], rfl, nofun⟩
    · obtain ⟨pieces, piece, same, real⟩ := ih one h.tail
      rw [same]
      by_cases slash : isSlash special c = true
      · rw [if_pos slash]
        exact ⟨[] :: pieces, piece, rfl, real⟩
      · rw [if_neg slash]
        cases pieces with
        | nil => exact ⟨[], c :: piece, rfl, nofun⟩
        | cons first pieces => exact ⟨(c :: first) :: pieces, piece, rfl, real⟩

end

/-! ### Walks -/

/-- The segments of a directory: there is an empty one at the end. -/
def slashed (l : List String) : List String :=
  if l.getLast? = some "" then l else l ++ [""]

/-- Segments without a last name: there is nothing behind the last slash. -/
def Closed (l : List String) : Prop :=
  l.getLast?.getD "" = ""

section
variable {f special : Bool} {d : List String} {pieces : List (List Char)} {piece : List Char}
  {segment : String}

theorem slashed_snoc (h : segment ≠ "") : slashed (d ++ [segment]) = d ++ [segment] ++ [""] := by
  rw [slashed, List.getLast?_concat, if_neg (by simpa using h)]

@[simp] theorem slashed_empty : slashed (d ++ [""]) = d ++ [""] := by
  rw [slashed, List.getLast?_concat, if_pos rfl]

theorem closed_snoc : Closed (d ++ [""]) := by
  rw [Closed, List.getLast?_concat, Option.getD_some]

theorem closed_slashed (l : List String) : Closed (slashed l) := by
  unfold slashed
  split
  · rename_i last
    rw [Closed, last, Option.getD_some]
  · exact closed_snoc

theorem slashed_slashed (l : List String) : slashed (slashed l) = slashed l := by
  by_cases last : l.getLast? = some ""
  · have same : slashed l = l := if_pos last
    rw [same, same]
  · have more : slashed l = l ++ [""] := if_neg last
    rw [more, slashed_empty]

/-- An encoded text is empty only if there was none. -/
theorem percentEncode_ne_nil {reserved s : List Char} (h : s ≠ []) :
    percentEncode reserved s ≠ [] := by
  have bytes (c : Char) : (Utf8.encodeChar c).flatMap percentByte ≠ [] := by
    have some? : Utf8.encodeChar c ≠ [] := by
      simp only [Utf8.encodeChar]
      split
      · nofun
      · split
        · nofun
        · split <;> nofun
    obtain ⟨b, rest, same⟩ := List.exists_cons_of_ne_nil some?
    rw [same]
    nofun
  obtain ⟨c, s, rfl⟩ := List.exists_cons_of_ne_nil h
  intro none
  have first : percentChar reserved c = [] := (List.append_eq_nil_iff.mp none).1
  unfold percentChar at first
  split at first
  · exact bytes c first
  · cases first

/-- An empty segment below a directory. -/
theorem below_empty : below f d "" = d ++ [""] := by
  have drive : isDrive "" = false := by decide
  rw [below, drive, Bool.and_false, if_neg nofun]

/-- The last segment below a directory is a name if it was one. -/
theorem below_last (h : segment ≠ "") :
    ∃ d' name, below f d segment = d' ++ [name] ∧ name ≠ "" := by
  unfold below
  split
  · refine ⟨[], _, rfl, fun none => ?_⟩
    have letters := congrArg String.toList none
    rw [String.toList_ofList] at letters
    exact absurd letters (List.append_ne_nil_of_right_ne_nil _ nofun)
  · exact ⟨d, segment, rfl, h⟩

/-- A walk along nothing but an empty piece. -/
theorem walk_empty : walk f d [[]] = d ++ [""] := by
  have up : isDoubleDot "" = false := by decide
  have here : isDot "" = false := by decide
  have empty : String.ofList (percentEncode pathReserved []) = "" := rfl
  rw [walk, empty, up, here, if_neg nofun, if_neg nofun, below_empty, walk]

/-- **A slash at the end closes a walk**, if its last piece is not empty. -/
theorem walk_slash (real : piece ≠ []) :
    walk f d (pieces ++ [piece] ++ [[]]) = slashed (walk f d (pieces ++ [piece])) := by
  induction pieces generalizing d with
  | nil =>
    have name : String.ofList (percentEncode pathReserved piece) ≠ "" := by
      simpa [← String.toList_inj] using percentEncode_ne_nil real
    simp only [List.nil_append, List.singleton_append]
    rw [walk, walk]
    simp only [List.isEmpty_cons, List.isEmpty_nil, Bool.false_eq_true, if_true, if_false, walk]
    split
    · exact walk_empty.trans slashed_empty.symm
    · split
      · exact walk_empty.trans slashed_empty.symm
      · obtain ⟨d', last, same, some?⟩ := below_last (f := f) (d := d) name
        rw [same, slashed_snoc some?]
        exact walk_empty
  | cons first pieces ih =>
    have more (l : List (List Char)) : (pieces ++ [piece] ++ l).isEmpty = false := by simp
    have more' : (pieces ++ [piece]).isEmpty = false := by simp
    simp only [List.cons_append]
    rw [walk, walk]
    simp only [more, more', Bool.false_eq_true, if_false, ih]
    split
    · rfl
    · split <;> rfl

/-- A walk along pieces of which the last is empty ends in a directory. -/
theorem walk_closed (pieces : List (List Char)) : Closed (walk f d (pieces ++ [[]])) := by
  induction pieces generalizing d with
  | nil =>
    rw [List.nil_append, walk_empty]
    exact closed_snoc
  | cons first pieces ih =>
    rw [List.cons_append, walk]
    split
    · exact ih
    · split <;> exact ih

/-- A slash at the end of a text closes the walk along its pieces. -/
theorem walk_pathPieces_slash {s : List Char} (some? : s ≠ []) (h : OpenEnd special s) :
    walk f d (pathPieces special (s ++ ['/'])) = slashed (walk f d (pathPieces special s)) := by
  obtain ⟨pieces, piece, same, real⟩ := pathPieces_last some? h
  rw [pathPieces_slash, same, walk_slash real]

theorem walk_pathPieces_closed (s : List Char) :
    Closed (walk f d (pathPieces special (s ++ ['/']))) := by
  rw [pathPieces_slash]
  exact walk_closed _

/-- **A slash at the end of a text closes its path.** -/
theorem pathFromRoot_slash {s : List Char} (h : OpenEnd special s) :
    pathFromRoot f special (s ++ ['/']) = slashed (pathFromRoot f special s) := by
  cases s with
  | nil =>
    have closed : pathFromRoot f special ['/'] = [""] := walk_empty
    rw [List.nil_append, closed]
    cases special <;> rfl
  | cons c s =>
    rw [List.cons_append, pathFromRoot, pathFromRoot]
    by_cases slash : isSlash special c = true
    · have some? : s ≠ [] := by
        rintro rfl
        have open' := h c rfl
        rw [slash] at open'
        cases open'
      rw [if_pos slash, if_pos slash]
      exact walk_pathPieces_slash some? h.tail
    · rw [if_neg slash, if_neg slash, ← List.cons_append]
      exact walk_pathPieces_slash nofun h

/-- A path whose text ends with a slash is that of a directory, and so is the path without text. -/
theorem pathFromRoot_closed {s : List Char} (h : s = [] ∨ ∃ t, s = t ++ ['/']) :
    Closed (pathFromRoot f special s) := by
  rcases h with rfl | ⟨t, rfl⟩
  · cases special <;> rfl
  · cases t with
    | nil =>
      have closed : pathFromRoot f special ['/'] = [""] := walk_empty
      rw [List.nil_append, closed]
      rfl
    | cons c t =>
      rw [List.cons_append, pathFromRoot]
      split
      · exact walk_pathPieces_closed _
      · rw [← List.cons_append]
        exact walk_pathPieces_closed _

end

end Url

/-! ### Plain names -/

/-- The characters of plain names: letters and digits of ASCII, `-`, `_` and `.`. -/
def isNameChar (c : Char) : Bool :=
  c.isAlphanum || c == '-' || c == '_' || c == '.'

/-- A name of a file or a directory that means nothing else. -/
structure PlainName (name : String) : Prop where
  some? : name ≠ ""
  chars : ∀ c ∈ name.toList, isNameChar c = true
  notHere : name ≠ "."
  notUp : name ≠ ".."

section
variable {c : Char} {name : String}

instance : Decidable (PlainName name) :=
  decidable_of_iff (name ≠ "" ∧ name.toList.all isNameChar = true ∧ name ≠ "." ∧ name ≠ "..")
    ⟨fun ⟨some?, chars, here, up⟩ => ⟨some?, List.all_eq_true.mp chars, here, up⟩,
      fun h => ⟨h.some?, List.all_eq_true.mpr h.chars, h.notHere, h.notUp⟩⟩

/-- A character of a plain name is none that no plain name has. -/
theorem isNameChar_ne (h : isNameChar c = true) {d : Char} (other : isNameChar d = false) :
    c ≠ d := by
  rintro rfl
  rw [h] at other
  cases other

theorem isNameChar_printable (h : isNameChar c = true) : 0x20 < c.toNat ∧ c.toNat ≤ 0x7E := by
  simp only [isNameChar, Bool.or_eq_true, beq_iff_eq] at h
  obtain ((letter | rfl) | rfl) | rfl := h
  · rcases Bool.or_eq_true_iff.mp letter with alpha | digit
    · rcases Bool.or_eq_true_iff.mp alpha with upper | lower
      · obtain ⟨least, most⟩ := of_decide_eq_true upper
        have bounds : 'A'.toNat ≤ c.toNat ∧ c.toNat ≤ 'Z'.toNat := ⟨least, most⟩
        simp only [Char.reduceToNat] at bounds
        omega
      · obtain ⟨least, most⟩ := Bool.and_eq_true_iff.mp lower
        have bounds : 'a'.toNat ≤ c.toNat ∧ c.toNat ≤ 'z'.toNat :=
          ⟨of_decide_eq_true least, of_decide_eq_true most⟩
        simp only [Char.reduceToNat] at bounds
        omega
    · have bounds := Char.isDigit_iff_toNat.mp digit
      simp only [Char.reduceToNat] at bounds
      omega
  all_goals decide

/-- The letters from `A` to `Z` are made small, and no other character is changed. -/
theorem foldCase_toNat (c : Char) :
    (foldCase c).toNat = if 65 ≤ c.toNat ∧ c.toNat ≤ 90 then c.toNat + 32 else c.toNat := by
  have capital : ('A' ≤ c ∧ c ≤ 'Z') ↔ 65 ≤ c.toNat ∧ c.toNat ≤ 90 := Iff.rfl
  unfold foldCase
  by_cases h : 65 ≤ c.toNat ∧ c.toNat ≤ 90
  · have valid : (c.toNat + 32).isValidChar := .inl (by omega)
    rw [if_pos (capital.mpr h), if_pos h, Char.ofNat, dif_pos valid]
    rfl
  · rw [if_neg (mt capital.mp h), if_neg h]

/-- Only a letter is changed by making letters small. -/
theorem foldCase_eq {d : Char} (h : foldCase c = d) (other : d.toNat < 'a'.toNat) : c = d := by
  have number := foldCase_toNat c
  rw [h] at number
  rw [← Char.toNat_inj]
  simp only [Char.reduceToNat] at other
  split at number <;> omega

namespace PlainName

variable (plain : PlainName name)
include plain

theorem no_slash (special : Bool) : ∀ c ∈ name.toList, Url.isSlash special c = false := by
  intro c hc
  have slash : c ≠ '/' := isNameChar_ne (plain.chars c hc) rfl
  have backslash : c ≠ '\\' := isNameChar_ne (plain.chars c hc) rfl
  simp [Url.isSlash, slash, backslash]

/-- A plain name is written as it is. -/
theorem encode : percentEncode Url.pathReserved name.toList = name.toList := by
  have each : ∀ c ∈ name.toList, percentChar Url.pathReserved c = [c] := by
    intro c hc
    have char := plain.chars c hc
    have printable : isUnprintable c = false := by
      have bounds := isNameChar_printable char
      unfold isUnprintable
      simp only [Bool.or_eq_false_iff, decide_eq_false_iff_not]
      omega
    have free : Url.pathReserved.contains c = false := by
      have none : ∀ d ∈ Url.pathReserved, isNameChar d = false := by
        simp [Url.pathReserved, Url.fragmentReserved, isNameChar]
      rw [List.contains_eq_mem, decide_eq_false_iff_not]
      exact fun reserved => isNameChar_ne char (none c reserved) rfl
    rw [percentChar, printable, free]
    rfl
  unfold percentEncode
  generalize name.toList = s at each
  induction s with
  | nil => rfl
  | cons c s ih =>
    obtain ⟨first, rest⟩ := List.forall_mem_cons.mp each
    rw [List.flatMap_cons, first, ih rest, List.singleton_append]

/-- A plain name with its letters made small is no word with a percent sign. -/
theorem folded_percent (word : String) (percent : '%' ∈ word.toList) :
    String.ofList (name.toList.map foldCase) ≠ word := by
  rintro rfl
  rw [String.toList_ofList] at percent
  obtain ⟨c, hc, same⟩ := List.mem_map.mp percent
  exact isNameChar_ne (plain.chars c hc) rfl (foldCase_eq same (by decide))

omit plain in
/-- A name with its letters made small is no word without letters, unless it is that word. -/
theorem folded_plain (word : String) (small : ∀ d ∈ word.toList, d.toNat < 'a'.toNat)
    (other : name ≠ word) : String.ofList (name.toList.map foldCase) ≠ word := by
  rintro rfl
  rw [String.toList_ofList] at small
  have kept : ∀ c ∈ name.toList, foldCase c = id c := fun c hc =>
    (foldCase_eq rfl (small _ (List.mem_map_of_mem hc))).symm
  rw [List.map_congr_left kept, List.map_id, String.ofList_toList] at other
  exact other rfl

theorem not_dot : Url.isDot name = false := by
  have dot := folded_plain "." (by simp) plain.notHere
  have code := plain.folded_percent "%2e" (by decide)
  simp [Url.isDot, dot, code]

theorem not_doubleDot : Url.isDoubleDot name = false := by
  have dots := folded_plain ".." (by simp) plain.notUp
  have second := plain.folded_percent ".%2e" (by decide)
  have first := plain.folded_percent "%2e." (by decide)
  have both := plain.folded_percent "%2e%2e" (by decide)
  simp [Url.isDoubleDot, dots, second, first, both]

theorem not_drive : Url.isDrive name = false := by
  have marks : ∀ c ∈ name.toList, (c == ':' || c == '|') = false := by
    intro c hc
    have colon : c ≠ ':' := isNameChar_ne (plain.chars c hc) rfl
    have bar : c ≠ '|' := isNameChar_ne (plain.chars c hc) rfl
    simp [colon, bar]
  unfold Url.isDrive
  split
  · rename_i letter mark same
    rw [marks mark (by rw [same]; simp), Bool.and_false]
  · rfl

end PlainName

end

namespace Url

section
variable {f special : Bool} {d names : List String}

theorem toList_join_cons (name next : String) (names : List String) :
    (Text.join "/" (name :: next :: names)).toList =
      name.toList ++ '/' :: (Text.join "/" (next :: names)).toList := by
  simp [Text.join]

/-- The text of plain names is taken apart into them. -/
theorem pathPieces_plain (some? : names ≠ []) (plain : ∀ name ∈ names, PlainName name) :
    pathPieces special (Text.join "/" names).toList = names.map String.toList := by
  induction names with
  | nil => exact absurd rfl some?
  | cons name names ih =>
    obtain ⟨first, rest⟩ := List.forall_mem_cons.mp plain
    cases names with
    | nil => exact pathPieces_one (first.no_slash special)
    | cons next names =>
      rw [toList_join_cons, pathPieces_cut (first.no_slash special), ih nofun rest]
      rfl

/-- **Plain names are walked along as they are.** -/
theorem walk_plain (plain : ∀ name ∈ names, PlainName name) :
    walk f d (names.map String.toList) = d ++ names := by
  induction names generalizing d with
  | nil => exact (List.append_nil d).symm
  | cons name names ih =>
    obtain ⟨first, rest⟩ := List.forall_mem_cons.mp plain
    have written : String.ofList (percentEncode pathReserved name.toList) = name := by
      rw [first.encode, String.ofList_toList]
    have last : below f d name = d ++ [name] := by
      rw [below, first.not_drive, Bool.and_false, if_neg nofun]
    rw [List.map_cons, walk, written, first.not_doubleDot, first.not_dot, if_neg nofun,
      if_neg nofun, last, ih rest, List.append_assoc, List.singleton_append]

/-! ### Texts of paths -/

theorem join_slash (some? : names ≠ []) :
    String.join (names.map ("/" ++ ·)) = "/" ++ Text.join "/" names := by
  induction names with
  | nil => exact absurd rfl some?
  | cons name names ih =>
    cases names with
    | nil => simp [Text.join]
    | cons next names =>
      have behind : Text.join "/" (name :: next :: names) =
          name ++ "/" ++ Text.join "/" (next :: names) := rfl
      rw [List.map_cons, String.join_cons, ih nofun, behind]
      simp only [String.append_assoc]

theorem pathText_segments (hasHost : Bool) (l : List String) :
    pathText hasHost (.segments l) =
      (if !hasHost && 1 < l.length && l.head? = some "" then "/." else "") ++
        String.join (l.map ("/" ++ ·)) := by
  simp only [pathText]
  split
  · rfl
  · exact String.empty_append.symm

/-- **The text of plain names stands behind their directory.** -/
theorem pathText_plain (hasHost : Bool) (some? : names ≠ [])
    (plain : ∀ name ∈ names, PlainName name) :
    pathText hasHost (.segments (d ++ names)) =
      pathText hasHost (.segments (d ++ [""])) ++ Text.join "/" names := by
  have mark : (1 < (d ++ names).length && decide ((d ++ names).head? = some "")) =
      (1 < (d ++ [""]).length && decide ((d ++ [""]).head? = some "")) := by
    cases d with
    | cons first d =>
      have several (l : List String) (h : l ≠ []) : 1 < (first :: d ++ l).length := by
        have length := List.length_pos_of_ne_nil h
        rw [List.length_append, List.length_cons]
        omega
      rw [decide_eq_true (several names some?), decide_eq_true (several [""] nofun)]
      rfl
    | nil =>
      obtain ⟨name, more, rfl⟩ := List.exists_cons_of_ne_nil some?
      have real := (plain name List.mem_cons_self).some?
      simp [real]
  have texts : String.join ((d ++ names).map ("/" ++ ·)) =
      String.join ((d ++ [""]).map ("/" ++ ·)) ++ Text.join "/" names := by
    rw [List.map_append, String.join_append, join_slash some?, List.map_append,
      String.join_append, String.append_assoc]
    rfl
  rw [pathText_segments, pathText_segments, Bool.and_assoc, Bool.and_assoc, mark, texts,
    String.append_assoc]

end

end Url

end FlashStation
