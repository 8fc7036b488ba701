/-
# Slashes at the end of addresses

What becomes of an address when its text gets one more slash at its end. Its scheme, its user, its
host and its port are read from what stands before the slash, and the slash is left over for the
path. So a text that was an address with the slash is one without it, and both differ only in the
path, which the slash closes: it is then that of a directory.

If the text has a query or a fragment, the slash belongs to that and the path stays as it is. If it
ends with a slash, the path is that of a directory already. The cases follow the kinds of addresses:
those of files, those with an authority, and those without one.

Key definitions: `UrlPath.slashed`, `UrlPath.IsClosed`, `Url.Marked`, `Url.ofPlace`,
`Url.filePlace`, `Url.Kind`.
Key theorems: `Url.ofAuthority_slash`, `Url.ofScheme_slash`, `Url.ofScheme_closed`,
`Url.parse_slash`, `Url.parse_closed`, `Url.parse_marked`.
-/
import Mathlib.Data.List.TakeWhile
import FlashStation.Place.Base
import FlashStation.Proofs.Segments

namespace FlashStation

open Text

/-- The path of a directory: there is a slash at its end. -/
def UrlPath.slashed : UrlPath → UrlPath
  | .opaqueText t => if t = "" then .segments [""] else .opaqueText (t ++ "/")
  | .segments l => .segments (Url.slashed l)

/-- Nothing stands behind the last slash of a path. Of one that is not looked into it is only said
that there is something in it. -/
def UrlPath.IsClosed : UrlPath → Prop
  | .opaqueText t => t ≠ ""
  | .segments l => Url.Closed l

namespace Url

/-! ### Texts with one more character -/

section
variable {s w : List Char} {c sep : Char}

/-- A control character or a space, which does not belong to a text at its ends. -/
def isEdge (c : Char) : Bool := c.toNat ≤ 0x20

/-- Neither a tab nor a line end, which do not belong to a text anywhere. -/
def isKept (c : Char) : Bool := c ≠ '\t' ∧ c ≠ '\n' ∧ c ≠ '\r'

/-- A text without what does not belong to it at its ends. -/
def inside (s : List Char) : List Char :=
  ((s.dropWhile isEdge).reverse.dropWhile isEdge).reverse

/-- What does not belong to a text at its end. -/
def behind (s : List Char) : List Char :=
  ((s.dropWhile isEdge).reverse.takeWhile isEdge).reverse

theorem clean_def (s : List Char) : clean s = (inside s).filter isKept := rfl

theorem inside_append_behind (s : List Char) : inside s ++ behind s = s.dropWhile isEdge := by
  rw [inside, behind, ← List.reverse_append, List.takeWhile_append_dropWhile, List.reverse_reverse]

theorem isEdge_of_mem_behind (h : c ∈ behind s) : isEdge c = true :=
  List.mem_takeWhile_imp (List.mem_reverse.mp h)

theorem not_isEdge (h : 0x20 < c.toNat) : isEdge c = false :=
  decide_eq_false (by omega)

theorem isKept_of_lt (h : 0x20 < c.toNat) : isKept c = true := by
  refine decide_eq_true ⟨?_, ?_, ?_⟩ <;> rintro rfl <;> exact absurd h (by decide)

/-- A character beyond the blank ones always belongs to a text. -/
theorem mem_clean (h : 0x20 < c.toNat) : c ∈ clean s ↔ c ∈ s := by
  have apart {t : List Char} (edges : ∀ d ∈ t, isEdge d = true) : c ∉ t := by
    intro member
    have edge := edges c member
    rw [not_isEdge h] at edge
    cases edge
  have back : c ∉ behind s := apart fun d hd => isEdge_of_mem_behind hd
  have front : c ∉ s.takeWhile isEdge := apart fun d hd => List.mem_takeWhile_imp hd
  calc c ∈ clean s
      ↔ c ∈ inside s := by rw [clean_def, List.mem_filter, and_iff_left (isKept_of_lt h)]
    _ ↔ c ∈ s.dropWhile isEdge := by rw [← inside_append_behind, List.mem_append, or_iff_left back]
    _ ↔ c ∈ s := by
        rw [← or_iff_right (b := c ∈ s.dropWhile isEdge) front, ← List.mem_append,
          List.takeWhile_append_dropWhile]

/-- A text without blanks is clean. -/
theorem clean_eq (h : ∀ c ∈ s, 0x20 < c.toNat) : clean s = s := by
  have none {t : List Char} (ht : ∀ c ∈ t, c ∈ s) : t.dropWhile isEdge = t := by
    cases t with
    | nil => rfl
    | cons c t =>
      have first := not_isEdge (h c (ht c List.mem_cons_self))
      exact List.dropWhile_cons_of_neg (by rw [first]; nofun)
  rw [clean_def, inside, none fun c hc => hc, none fun c hc => List.mem_reverse.mp hc,
    List.reverse_reverse, List.filter_eq_self]
  exact fun c hc => isKept_of_lt (h c hc)

theorem dropWhile_snoc (s : List Char) (h : 0x20 < c.toNat) :
    (s ++ [c]).dropWhile isEdge = s.dropWhile isEdge ++ [c] := by
  have last : ¬ isEdge c = true := by rw [not_isEdge h]; nofun
  rw [List.dropWhile_append]
  split
  · rename_i none
    rw [List.dropWhile_cons_of_neg last, List.isEmpty_iff.mp none, List.nil_append]
  · rfl

/-- One more character at the end of a text comes after the blanks that were left out there. -/
theorem clean_snoc (s : List Char) (h : 0x20 < c.toNat) :
    clean (s ++ [c]) = clean s ++ (behind s).filter isKept ++ [c] := by
  have last : ¬ isEdge c = true := by rw [not_isEdge h]; nofun
  have whole : inside (s ++ [c]) = s.dropWhile isEdge ++ [c] := by
    rw [inside, dropWhile_snoc s h, List.reverse_append, List.reverse_singleton,
      List.singleton_append, List.dropWhile_cons_of_neg last, List.reverse_cons,
      List.reverse_reverse]
  rw [clean_def, clean_def, whole, ← inside_append_behind, List.filter_append, List.filter_append,
    List.filter_cons_of_pos (isKept_of_lt h), List.filter_nil]

/-! ### Marks -/

theorem cut_none (h : sep ∉ s) : cut sep s = (s, none) := by
  have nothing : s.dropWhile (· != sep) = [] := by
    refine List.dropWhile_eq_nil_iff.mpr fun c hc => bne_iff_ne.mpr ?_
    rintro rfl
    exact h hc
  unfold cut
  rw [nothing]

theorem cut_some (h : sep ∉ s) (t : List Char) : cut sep (s ++ sep :: t) = (s, some t) := by
  have all : ∀ c ∈ s, (c != sep) = true := by
    intro c hc
    refine bne_iff_ne.mpr ?_
    rintro rfl
    exact h hc
  have stop : ¬ (sep != sep) = true := by rw [bne_self_eq_false]; nofun
  unfold cut
  rw [List.dropWhile_append_of_pos all, List.takeWhile_append_of_pos all,
    List.dropWhile_cons_of_neg (p := (· != sep)) stop,
    List.takeWhile_cons_of_neg (p := (· != sep)) stop, List.append_nil]

/-- What follows the end of a text does not change what is cut off before the end. -/
theorem cut_append (h : sep ∈ s) (w : List Char) :
    cut sep (s ++ w) = ((cut sep s).1, (cut sep s).2.map (· ++ w)) ∧
      (cut sep s).2.isSome = true := by
  obtain ⟨a, b, rfl, first⟩ := List.eq_append_cons_of_mem h
  rw [List.append_assoc, List.cons_append, cut_some first, cut_some first]
  exact ⟨rfl, rfl⟩

/-- A text has a query or a fragment. -/
def Marked (s : List Char) : Prop := '?' ∈ s ∨ '#' ∈ s

instance : Decidable (Marked s) := inferInstanceAs (Decidable (_ ∨ _))

/-- A text without marks is all front. -/
theorem parts_unmarked (h : ¬ Marked s) : Parts.of s = ⟨s, none, none⟩ := by
  obtain ⟨query, fragment⟩ := not_or.mp h
  unfold Parts.of
  rw [cut_none fragment]
  simp only
  rw [cut_none query]

/-- Two texts have the same front, and both have a query or none, and a fragment or none. -/
structure Parts.Alike (p q : Parts) : Prop where
  front : p.front = q.front
  query : p.query.isSome = q.query.isSome
  fragment : p.fragment.isSome = q.fragment.isSome

/-- What follows the marks of a text does not change what stands before them. -/
theorem parts_marked (h : Marked s) (w : List Char) (plain : '#' ∉ w) :
    (Parts.of (s ++ w)).Alike (Parts.of s) := by
  by_cases fragment : '#' ∈ s
  · obtain ⟨same, found⟩ := cut_append fragment w
    unfold Parts.of
    rw [same]
    exact ⟨rfl, rfl, Option.isSome_map ..⟩
  · have query := h.resolve_right fragment
    have free : '#' ∉ s ++ w := fun member => (List.mem_append.mp member).elim fragment plain
    obtain ⟨same, found⟩ := cut_append query w
    unfold Parts.of
    rw [cut_none fragment, cut_none free]
    simp only
    rw [same]
    exact ⟨rfl, Option.isSome_map .., rfl⟩

/-! ### Schemes -/

/-- A slash at the end of a text does not change its scheme. -/
theorem scheme?_slash (s : List Char) :
    scheme? (s ++ ['/']) = (scheme? s).map fun p => (p.1, p.2 ++ ['/']) := by
  cases s with
  | nil => rfl
  | cons c s =>
    rw [List.cons_append]
    unfold scheme?
    simp only
    split
    · rw [← List.cons_append]
      by_cases colon : ':' ∈ c :: s
      · obtain ⟨a, b, same, first⟩ := List.eq_append_cons_of_mem colon
        rw [same, List.append_assoc, List.cons_append, cut_some first, cut_some first]
        simp only
        split <;> rfl
      · have free : ':' ∉ c :: s ++ ['/'] := fun member =>
          (List.mem_append.mp member).elim colon (by decide)
        rw [cut_none colon, cut_none free]
        rfl
    · rfl

end

/-! ### Authorities -/

section
variable {α β ε : Type} {x : Except ε α}

theorem bind_ok_iff {f : α → Except ε β} {b : β} :
    x.bind f = .ok b ↔ ∃ a, x = .ok a ∧ f a = .ok b := by
  cases x <;> simp [Except.bind]

theorem map_ok_iff {f : α → β} {b : β} : x.map f = .ok b ↔ ∃ a, x = .ok a ∧ f a = b := by
  cases x <;> simp [Except.map]

end

section
variable {scheme : String} {parts parts' : Parts} {s t : List Char} {special : Bool} {u root : Url}

/-- The authority at the front of a text. -/
def authority (special : Bool) (s : List Char) : List Char :=
  s.takeWhile fun c => !isSlash special c

/-- What follows the authority. -/
def afterAuthority (special : Bool) (s : List Char) : List Char :=
  s.drop (authority special s).length

/-- The address that an authority alone makes, once the user was split off. -/
def ofPlace (scheme : String) (place : String × String × List Char) : Except UrlFault Url := do
  let special := isSpecial scheme
  let (username, password, place) := place
  let (hostText, portText) := splitPort false place
  if hostText.isEmpty &&
      (special || portText.isSome || !username.isEmpty || !password.isEmpty) then
    throw .emptyHost
  let host ← Host.parse special hostText
  let port ← parsePort scheme portText
  pure {
    scheme, username, password, port
    host := some host
    path := .segments []
    query := none
    fragment := none }

/-- **An address is made from its authority and from what stands behind it.** -/
theorem ofAuthority_eq (scheme : String) (parts : Parts) (s : List Char) :
    ofAuthority scheme parts s =
      let special := isSpecial scheme
      let rest := afterAuthority special s
      (splitUser (authority special s)
        (!rest.isEmpty || parts.query.isSome || parts.fragment.isSome)).bind fun place =>
          (ofPlace scheme place).map fun u => { u with
            path := .segments (pathFromRoot false special rest)
            query := parts.queryFor scheme
            fragment := parts.fragmentText } := by
  unfold ofAuthority
  refine congrArg (Except.bind _) (funext fun place => ?_)
  obtain ⟨username, password, place⟩ := place
  unfold ofPlace
  simp only [bind, pure, Except.bind, Except.pure, throw, throwThe, MonadExceptOf.throw]
  split
  · rfl
  · cases Host.parse (isSpecial scheme) (splitPort false place).1 with
    | error fault => rfl
    | ok host => cases parsePort scheme (splitPort false place).2 <;> rfl

theorem ofPlace_scheme {place : String × String × List Char} (h : ofPlace scheme place = .ok u) :
    u.scheme = scheme := by
  unfold ofPlace at h
  simp only [bind, pure, Except.bind, Except.pure, throw, throwThe, MonadExceptOf.throw] at h
  split at h
  · cases h
  · cases host : Host.parse (isSpecial scheme) (splitPort false place.2.2).1 with
    | error fault => simp [host] at h
    | ok host' =>
      cases port : parsePort scheme (splitPort false place.2.2).2 with
      | error fault => simp [host, port] at h
      | ok port' =>
        simp only [host, port, Except.ok.injEq] at h
        rw [← h]

theorem ofAuthority_ok : ofAuthority scheme parts s = .ok u ↔
    let rest := afterAuthority (isSpecial scheme) s
    ∃ place v, splitUser (authority (isSpecial scheme) s)
        (!rest.isEmpty || parts.query.isSome || parts.fragment.isSome) = .ok place ∧
      ofPlace scheme place = .ok v ∧
      { v with
        path := .segments (pathFromRoot false (isSpecial scheme) rest)
        query := parts.queryFor scheme
        fragment := parts.fragmentText } = u := by
  rw [ofAuthority_eq]
  simp only [bind_ok_iff, map_ok_iff]
  constructor
  · rintro ⟨place, split, v, made, rfl⟩
    exact ⟨place, v, split, made, rfl⟩
  · rintro ⟨place, v, split, made, rfl⟩
    exact ⟨place, split, v, made, rfl⟩

/-- An authority that is accepted with something behind it is accepted with nothing behind it. -/
theorem splitUser_more {place : String × String × List Char} (h : splitUser s true = .ok place)
    (more : Bool) : splitUser s more = .ok place := by
  unfold splitUser at h ⊢
  split at h
  · rename_i has
    simp only [has, if_true]
    simp only at h
    split at h
    · cases h
    · rename_i free
      cases more with
      | true => rw [if_neg free]; exact h
      | false => rw [Bool.and_false, if_neg nofun]; exact h
  · rename_i hasNot
    simp only [hasNot]
    exact h

/-- A special address has a host. -/
theorem ofAuthority_nothing (h : isSpecial scheme = true) :
    ofAuthority scheme parts [] ≠ .ok u := by
  intro ok
  obtain ⟨place, v, split, made, _⟩ := ofAuthority_ok.mp ok
  obtain rfl : ("", "", []) = place := Except.ok.inj split
  unfold ofPlace at made
  rw [h] at made
  cases made

theorem authority_slash (s : List Char) : authority special (s ++ ['/']) = authority special s := by
  have stop : ¬ (!isSlash special '/') = true := by rw [isSlash_slash]; nofun
  unfold authority
  rw [List.takeWhile_append, List.takeWhile_cons_of_neg (p := fun c => !isSlash special c) stop,
    List.append_nil]
  split
  · rename_i all
    have whole := List.takeWhile_prefix (l := s) fun c => !isSlash special c
    exact (whole.eq_of_length all).symm
  · rfl

theorem afterAuthority_slash (s : List Char) :
    afterAuthority special (s ++ ['/']) = afterAuthority special s ++ ['/'] := by
  have short : (authority special s).length ≤ s.length := (List.takeWhile_prefix _).length_le
  rw [afterAuthority, authority_slash, List.drop_append_of_le_length short]
  rfl

/-- **A slash behind an address with an authority closes its path.** -/
theorem ofAuthority_slash {front front' : List Char} (h : OpenEnd (isSpecial scheme) s)
    (ok : ofAuthority scheme ⟨front, none, none⟩ (s ++ ['/']) = .ok root) :
    ∃ u, ofAuthority scheme ⟨front', none, none⟩ s = .ok u ∧
      root = { u with path := u.path.slashed } := by
  have rest : OpenEnd (isSpecial scheme) (afterAuthority (isSpecial scheme) s) :=
    h.suffix (List.drop_suffix _ _)
  have more : (!(afterAuthority (isSpecial scheme) s ++ ['/']).isEmpty) = true := by simp
  obtain ⟨place, v, split, made, rfl⟩ := ofAuthority_ok.mp ok
  simp only [authority_slash, afterAuthority_slash, more, Bool.true_or] at split
  refine ⟨_, ofAuthority_ok.mpr ⟨place, v, splitUser_more split _, made, rfl⟩, ?_⟩
  simp only [afterAuthority_slash, pathFromRoot_slash rest]
  rfl

/-- The path of an address that ends with its authority or with a slash is closed. -/
theorem ofAuthority_closed (ends : s = [] ∨ ∃ t, s = t ++ ['/'])
    (ok : ofAuthority scheme parts s = .ok root) : root.path.IsClosed := by
  obtain ⟨place, v, _, _, rfl⟩ := ofAuthority_ok.mp ok
  refine pathFromRoot_closed ?_
  rcases ends with rfl | ⟨t, rfl⟩
  · exact .inl rfl
  · exact .inr ⟨_, afterAuthority_slash t⟩

/-! ### Files -/

/-- The host and the path of a file, from what follows the scheme. -/
def filePlace (s : List Char) : Except UrlFault (Host × List String) :=
  let slashes := (s.takeWhile (isSlash true)).length
  if 2 ≤ slashes then
    let behind := s.drop 2
    if isDrive (String.ofList (authority true behind)) then
      .ok (.name "", pathFromRoot true true behind)
    else (fileHost (authority true behind)).map fun host =>
      (host, pathFromRoot true true (afterAuthority true behind))
  else if slashes = 1 then .ok (.name "", pathFromRoot true true s)
  else if s.isEmpty then .ok (.name "", [""])
  else .ok (.name "", walk true [] (pathPieces true s))

/-- **An address of a file is made from its host and its path.** -/
theorem ofFile_eq (parts : Parts) (s : List Char) :
    ofFile none parts s = (filePlace s).map fun place =>
      ofFilePath place.1 place.2 (parts.queryFor "file") parts.fragmentText := by
  unfold ofFile filePlace
  simp only
  split
  · split
    · rename_i drive
      rw [if_pos (show isDrive (String.ofList (authority true (s.drop 2))) = true from drive)]
      rfl
    · rename_i drive
      rw [if_neg (show ¬ isDrive (String.ofList (authority true (s.drop 2))) = true from drive)]
      unfold authority afterAuthority
      cases fileHost ((s.drop 2).takeWhile fun c => !isSlash true c) <;> rfl
  · split
    · rfl
    · split
      · rfl
      · split <;> rfl

/-- A slash at the end of a text is not one of those at its front. -/
theorem slashes_slash (some? : s ≠ []) (h : OpenEnd special s) :
    (s ++ ['/']).takeWhile (isSlash special) = s.takeWhile (isSlash special) := by
  rw [List.takeWhile_append]
  split
  · rename_i all
    obtain ⟨c, hc, free⟩ := h.not_all some?
    have whole := (List.takeWhile_prefix (l := s) (isSlash special)).eq_of_length all
    rw [← whole] at hc
    rw [List.mem_takeWhile_imp hc] at free
    cases free
  · rfl

theorem slashes_le : (s.takeWhile (isSlash special)).length ≤ s.length :=
  (List.takeWhile_prefix _).length_le

/-- What is left of a text that ends with a slash. -/
theorem drop_slash (s : List Char) (n : Nat) :
    (s ++ ['/']).drop n = [] ∨ ∃ t, (s ++ ['/']).drop n = t ++ ['/'] := by
  rcases Nat.lt_or_ge s.length n with beyond | within
  · refine .inl (List.drop_eq_nil_of_le ?_)
    rw [List.length_append, List.length_singleton]
    omega
  · exact .inr ⟨_, List.drop_append_of_le_length within⟩

/-- **A slash behind an address of a file closes its path.** -/
theorem filePlace_slash (h : OpenEnd true s) :
    filePlace (s ++ ['/']) = (filePlace s).map fun place => (place.1, slashed place.2) := by
  by_cases none : s = []
  · subst none
    rfl
  have full : (s ++ ['/']).isEmpty = false := by simp
  have full' : s.isEmpty = false := by simpa using none
  unfold filePlace
  simp only [slashes_slash none h, full, full']
  split
  · rename_i slashes
    have within : 2 ≤ s.length := slashes.trans slashes_le
    have after : OpenEnd true (s.drop 2) := h.suffix (List.drop_suffix _ _)
    rw [List.drop_append_of_le_length within, authority_slash, afterAuthority_slash]
    split
    · rw [pathFromRoot_slash after]
      rfl
    · have later : OpenEnd true (afterAuthority true (s.drop 2)) :=
        after.suffix (List.drop_suffix _ _)
      rw [pathFromRoot_slash later]
      cases fileHost (authority true (s.drop 2)) <;> rfl
  · split
    · rw [pathFromRoot_slash h]
      rfl
    · rw [if_neg nofun, if_neg nofun, walk_pathPieces_slash none h]
      rfl

/-- The path of a file whose text ends with a slash is that of a directory. -/
theorem filePlace_closed {place : Host × List String}
    (ok : filePlace (s ++ ['/']) = .ok place) : Closed place.2 := by
  have full : (s ++ ['/']).isEmpty = false := by simp
  unfold filePlace at ok
  simp only [full] at ok
  split at ok
  · split at ok
    · cases ok
      exact pathFromRoot_closed (drop_slash s 2)
    · obtain ⟨host, _, rfl⟩ := map_ok_iff.mp ok
      refine pathFromRoot_closed ?_
      rcases drop_slash s 2 with nothing | ⟨t, same⟩
      · rw [nothing]
        exact .inl rfl
      · rw [same, afterAuthority_slash]
        exact .inr ⟨_, rfl⟩
  · split at ok
    · cases ok
      exact pathFromRoot_closed (.inr ⟨s, rfl⟩)
    · rw [if_neg nofun] at ok
      cases ok
      exact walk_pathPieces_closed s

/-- The path without its empty segments in front, which an address of a file does not have. -/
def named (path : List String) : List String :=
  if (path.dropWhile (· == "")).isEmpty then [""] else path.dropWhile (· == "")

theorem ofFilePath_eq (host : Host) (path : List String) (query fragment : Option String) :
    ofFilePath host path query fragment =
      { scheme := "file", username := "", password := "", port := none
        host := some (if onDrive path then .name "" else host)
        path := .segments (named path)
        query, fragment } := rfl

theorem onDrive_slashed (path : List String) : onDrive (slashed path) = onDrive path := by
  unfold slashed
  split
  · rfl
  · cases path with
    | nil => decide
    | cons first rest => rfl

theorem named_cons {first : String} (h : first ≠ "") (rest : List String) :
    named (first :: rest) = first :: rest := by
  have stop : ¬ (first == "") = true := by simpa using h
  unfold named
  rw [List.dropWhile_cons_of_neg (p := (· == "")) stop, List.isEmpty_cons, if_neg nofun]

theorem slashed_cons (first second : String) (rest : List String) :
    slashed (first :: second :: rest) = first :: slashed (second :: rest) := by
  unfold slashed
  rw [List.getLast?_cons_cons]
  split <;> rfl

theorem named_slashed (path : List String) : named (slashed path) = slashed (named path) := by
  induction path with
  | nil => decide
  | cons first rest ih =>
    cases rest with
    | nil =>
      by_cases empty : first = ""
      · subst empty
        decide
      · have one : slashed [first] = [first, ""] := slashed_snoc (d := []) empty
        rw [named_cons empty, one, named_cons empty]
    | cons second rest =>
      rw [slashed_cons]
      by_cases empty : first = ""
      · subst empty
        exact ih
      · rw [named_cons empty, named_cons empty, slashed_cons]

theorem closed_named {path : List String} (h : Closed path) : Closed (named path) := by
  induction path with
  | nil => exact rfl
  | cons first rest ih =>
    by_cases empty : first = ""
    · subst empty
      cases rest with
      | nil => exact rfl
      | cons second rest =>
        have same : Closed (second :: rest) := by
          unfold Closed at h ⊢
          rwa [List.getLast?_cons_cons] at h
        exact ih same
    · rwa [named_cons empty]

/-! ### Whole addresses -/

/-- What an address of a scheme is made of, if there is nothing to start from. -/
theorem ofScheme_web (file : scheme ≠ "file") (special : isSpecial scheme = true) :
    ofScheme none scheme parts s =
      ofAuthority scheme parts (s.drop (s.takeWhile (isSlash true)).length) := by
  unfold ofScheme
  rw [if_neg file, if_pos special]

theorem ofScheme_host (special : ¬ isSpecial scheme = true) (slashes : s.take 2 = ['/', '/']) :
    ofScheme none scheme parts s = ofAuthority scheme parts (s.drop 2) := by
  have file : scheme ≠ "file" := by
    rintro rfl
    exact special rfl
  unfold ofScheme
  rw [if_neg file, if_neg special, if_pos slashes]

/-- The path of an address without an authority. -/
def barePath : List Char → UrlPath
  | '/' :: rest => .segments (walk false [] (pathPieces false rest))
  | s => .opaqueText (String.ofList (percentEncode [] s))

theorem barePath_text {c : Char} (h : c ≠ '/') (s : List Char) :
    barePath (c :: s) = .opaqueText (String.ofList (percentEncode [] (c :: s))) ∧
      String.ofList (percentEncode [] (c :: s)) ≠ "" := by
  have some? : percentEncode [] (c :: s) ≠ [] := percentEncode_ne_nil nofun
  refine ⟨?_, by simpa [← String.toList_inj] using some?⟩
  unfold barePath
  split
  · rename_i same
    exact absurd (List.cons.inj same).1 h
  · rfl

/-- An address without an authority. -/
def bareUrl (scheme : String) (parts : Parts) (s : List Char) : Url :=
  { scheme, path := barePath s, username := "", password := "", host := none, port := none
    query := parts.queryFor scheme
    fragment := parts.fragmentText }

theorem ofScheme_bare (special : ¬ isSpecial scheme = true) (slashes : s.take 2 ≠ ['/', '/']) :
    ofScheme none scheme parts s = .ok (bareUrl scheme parts s) := by
  have file : scheme ≠ "file" := by
    rintro rfl
    exact special rfl
  unfold ofScheme bareUrl
  rw [if_neg file, if_neg special, if_neg slashes]
  cases s with
  | nil => rfl
  | cons c s =>
    by_cases slash : c = '/'
    · subst slash
      rfl
    · rw [(barePath_text slash s).1]
      split
      · rename_i same
        exact absurd (List.cons.inj same).1 slash
      · rfl

theorem ofScheme_file : ofScheme none "file" parts s = (filePlace s).map fun place =>
    ofFilePath place.1 place.2 (parts.queryFor "file") parts.fragmentText := by
  unfold ofScheme
  rw [if_pos rfl]
  exact ofFile_eq parts s

/-- The three kinds of addresses: those of files, those with an authority behind some slashes, and
those without one. The marks have no part in that. -/
inductive Kind (scheme : String) (s : List Char) : Prop
  | file (own : scheme = "file")
  | placed (other : scheme ≠ "file") (n : Nat)
      (reads : ∀ parts, ofScheme none scheme parts s = ofAuthority scheme parts (s.drop n))
  | bare (other : scheme ≠ "file")
      (reads : ∀ parts, ofScheme none scheme parts s = .ok (bareUrl scheme parts s))

theorem kind (scheme : String) (s : List Char) : Kind scheme s := by
  by_cases file : scheme = "file"
  · exact .file file
  by_cases special : isSpecial scheme = true
  · exact .placed file _ fun _ => ofScheme_web file special
  by_cases slashes : s.take 2 = ['/', '/']
  · exact .placed file 2 fun _ => ofScheme_host special slashes
  · exact .bare file fun _ => ofScheme_bare special slashes

theorem barePath_slash (h : OpenEnd false s) : barePath (s ++ ['/']) = (barePath s).slashed := by
  cases s with
  | nil =>
    have root : walk false [] (pathPieces false []) = [""] := walk_empty
    rw [List.nil_append, barePath, root]
    rfl
  | cons c s =>
    by_cases slash : c = '/'
    · subst slash
      have some? : s ≠ [] := by
        rintro rfl
        cases h '/' rfl
      rw [List.cons_append, barePath, barePath, walk_pathPieces_slash some? h.tail]
      rfl
    · obtain ⟨text, some?⟩ := barePath_text slash s
      have more : percentEncode [] (c :: s ++ ['/']) = percentEncode [] (c :: s) ++ ['/'] :=
        List.flatMap_append
      rw [List.cons_append, (barePath_text slash (s ++ ['/'])).1, text, UrlPath.slashed,
        if_neg some?, ← List.cons_append, more, String.ofList_append]

/-- The path of an address without an authority that ends with a slash. -/
theorem barePath_closed (s : List Char) : (barePath (s ++ ['/'])).IsClosed := by
  cases s with
  | nil => exact walk_closed []
  | cons c s =>
    by_cases slash : c = '/'
    · subst slash
      exact walk_pathPieces_closed s
    · obtain ⟨text, some?⟩ := barePath_text slash (s ++ ['/'])
      rw [List.cons_append, text]
      exact some?

/-- A slash behind a text is none of the two in front of an authority. -/
theorem take_slash (h : OpenEnd false s) :
    (s ++ ['/']).take 2 = ['/', '/'] ↔ s.take 2 = ['/', '/'] := by
  match s with
  | [] => simp
  | [c] =>
    have free : c ≠ '/' := by
      rintro rfl
      cases h '/' rfl
    simp [free]
  | c :: d :: s => simp

/-- **A slash behind an address without marks closes its path.** -/
theorem ofScheme_slash {front front' : List Char} (h : OpenEnd (isSpecial scheme) s)
    (ok : ofScheme none scheme ⟨front, none, none⟩ (s ++ ['/']) = .ok root) :
    ∃ u, ofScheme none scheme ⟨front', none, none⟩ s = .ok u ∧
      root = { u with path := u.path.slashed } := by
  by_cases file : scheme = "file"
  · subst file
    rw [ofScheme_file, filePlace_slash h] at ok
    rw [ofScheme_file]
    obtain ⟨_, closed, rfl⟩ := map_ok_iff.mp ok
    obtain ⟨place, made, rfl⟩ := map_ok_iff.mp closed
    refine ⟨_, map_ok_iff.mpr ⟨place, made, rfl⟩, ?_⟩
    simp only [ofFilePath_eq, onDrive_slashed, named_slashed]
    rfl
  by_cases special : isSpecial scheme = true
  · rw [special] at h
    rw [ofScheme_web file special] at ok ⊢
    by_cases none : s = []
    · subst none
      exact absurd ok (ofAuthority_nothing special)
    · rw [slashes_slash none h, List.drop_append_of_le_length slashes_le] at ok
      refine ofAuthority_slash ?_ ok
      rw [special]
      exact h.suffix (List.drop_suffix _ _)
  · rw [Bool.eq_false_iff.mpr special] at h
    by_cases slashes : s.take 2 = ['/', '/']
    · have within : 2 ≤ s.length := by
        have length := congrArg List.length slashes
        rw [List.length_take, List.length_cons, List.length_singleton] at length
        omega
      rw [ofScheme_host special ((take_slash h).mpr slashes),
        List.drop_append_of_le_length within] at ok
      rw [ofScheme_host special slashes]
      refine ofAuthority_slash ?_ ok
      rw [Bool.eq_false_iff.mpr special]
      exact h.suffix (List.drop_suffix _ _)
    · rw [ofScheme_bare special fun taken => slashes ((take_slash h).mp taken), bareUrl,
        barePath_slash h] at ok
      rw [ofScheme_bare special slashes]
      exact ⟨_, rfl, (Except.ok.inj ok).symm⟩

/-- **The path of an address whose text ends with a slash is closed.** -/
theorem ofScheme_closed (ok : ofScheme none scheme parts (s ++ ['/']) = .ok root) :
    root.path.IsClosed := by
  cases kind scheme (s ++ ['/']) with
  | file own =>
    subst own
    rw [ofScheme_file] at ok
    obtain ⟨place, made, rfl⟩ := map_ok_iff.mp ok
    exact closed_named (filePlace_closed made)
  | placed _ n reads =>
    rw [reads] at ok
    exact ofAuthority_closed (drop_slash s n) ok
  | bare _ reads =>
    rw [reads] at ok
    obtain rfl := Except.ok.inj ok
    exact barePath_closed s

/-- The marks of a text decide only about the query and the fragment of its address. -/
theorem ofScheme_marks (query : parts.query.isSome = parts'.query.isSome)
    (fragment : parts.fragment.isSome = parts'.fragment.isSome)
    (ok : ofScheme none scheme parts s = .ok root) :
    ∃ u, ofScheme none scheme parts' s = .ok u ∧
      root = { u with query := root.query, fragment := root.fragment } := by
  cases kind scheme s with
  | file own =>
    subst own
    rw [ofScheme_file] at ok ⊢
    obtain ⟨place, made, rfl⟩ := map_ok_iff.mp ok
    exact ⟨_, map_ok_iff.mpr ⟨place, made, rfl⟩, rfl⟩
  | placed _ n reads =>
    rw [reads] at ok ⊢
    obtain ⟨place, v, split, made, rfl⟩ := ofAuthority_ok.mp ok
    rw [query, fragment] at split
    exact ⟨_, ofAuthority_ok.mpr ⟨place, v, split, made, rfl⟩, rfl⟩
  | bare _ reads =>
    rw [reads] at ok ⊢
    obtain rfl := Except.ok.inj ok
    exact ⟨_, rfl, rfl⟩

/-- The scheme of an address is the one that was written, and an address of a file is made from a
host and a path. -/
theorem ofScheme_scheme (ok : ofScheme none scheme parts s = .ok root) :
    root.scheme = scheme ∧ (scheme = "file" →
      ∃ host path query fragment, root = ofFilePath host path query fragment) := by
  cases kind scheme s with
  | file own =>
    subst own
    rw [ofScheme_file] at ok
    obtain ⟨place, _, rfl⟩ := map_ok_iff.mp ok
    exact ⟨rfl, fun _ => ⟨_, _, _, _, rfl⟩⟩
  | placed other _ reads =>
    rw [reads] at ok
    obtain ⟨place, v, _, made, rfl⟩ := ofAuthority_ok.mp ok
    have written : v.scheme = scheme := ofPlace_scheme made
    exact ⟨written, fun own => absurd own other⟩
  | bare other reads =>
    rw [reads] at ok
    obtain rfl := Except.ok.inj ok
    exact ⟨rfl, fun own => absurd own other⟩

end

/-! ### Texts of addresses -/

section
variable {scheme base : String} {s rest : List Char} {root u : Url}

/-- What follows the scheme stands at the end of a text. -/
theorem scheme?_suffix (h : scheme? s = some (scheme, rest)) : rest <:+ s := by
  unfold scheme? at h
  split at h
  · cases h
  · rename_i c s
    split at h
    · by_cases colon : ':' ∈ c :: s
      · obtain ⟨a, b, same, first⟩ := List.eq_append_cons_of_mem colon
        rw [same, cut_some first] at h
        simp only at h
        split at h
        · cases h
          exact ⟨a ++ [':'], by rw [same]; simp⟩
        · cases h
      · rw [cut_none colon] at h
        cases h
    · cases h

/-- A whole text is read by its scheme. -/
theorem parse_ok : parse base = .ok u ↔ ∃ scheme rest,
    scheme? (Parts.of (clean base.toList)).front = some (scheme, rest) ∧
      ofScheme none scheme (Parts.of (clean base.toList)) rest = .ok u := by
  unfold parse resolve
  simp only
  cases scheme? (Parts.of (clean base.toList)).front with
  | none => simp
  | some p =>
    constructor
    · exact fun ok => ⟨p.1, p.2, rfl, ok⟩
    · rintro ⟨scheme, rest, same, ok⟩
      cases same
      exact ok

theorem parse_file (ok : parse base = .ok root) (file : root.scheme = "file") :
    ∃ host path query fragment, root = ofFilePath host path query fragment := by
  obtain ⟨scheme, rest, _, made⟩ := parse_ok.mp ok
  obtain ⟨own, files⟩ := ofScheme_scheme made
  exact files (own.symm.trans file)

theorem marked_clean : Marked (clean s) ↔ Marked s :=
  or_congr (mem_clean (by decide)) (mem_clean (by decide))

/-- A slash comes after the blanks at the end of a text. -/
theorem clean_slash (base : String) : clean (base ++ "/").toList =
    clean base.toList ++ (behind base.toList).filter isKept ++ ['/'] := by
  have letters : (base ++ "/").toList = base.toList ++ ['/'] := String.toList_append
  rw [letters]
  exact clean_snoc _ (by decide)

/-- **A slash behind an address without marks closes its path**, if nothing is left out between them
and the path is not closed already. -/
theorem parse_slash (plain : ¬ Marked base.toList)
    (near : (behind base.toList).filter isKept = [])
    (ends : OpenEnd (isSpecial root.scheme) (clean base.toList))
    (ok : parse (base ++ "/") = .ok root) :
    ∃ u, parse base = .ok u ∧ root = { u with path := u.path.slashed } := by
  have free : ¬ Marked (clean base.toList) := fun marked => plain (marked_clean.mp marked)
  have free' : ¬ Marked (clean base.toList ++ ['/']) := by
    rintro (query | fragment)
    · exact free (.inl (by simpa using query))
    · exact free (.inr (by simpa using fragment))
  have text : clean (base ++ "/").toList = clean base.toList ++ ['/'] := by
    rw [clean_slash, near, List.append_nil]
  obtain ⟨scheme, rest, split, made⟩ := parse_ok.mp ok
  obtain ⟨scheme_own, _⟩ := ofScheme_scheme made
  rw [text, parts_unmarked free'] at split made
  simp only [scheme?_slash, Option.map_eq_some_iff, Prod.mk.injEq] at split
  obtain ⟨⟨name, rest⟩, split, rfl, rfl⟩ := split
  have ended : OpenEnd (isSpecial name) rest := by
    rw [show name = root.scheme from scheme_own.symm]
    exact ends.suffix (scheme?_suffix split)
  obtain ⟨u, before, closed⟩ :
      ∃ u, ofScheme none name ⟨clean base.toList, none, none⟩ rest = .ok u ∧
        root = { u with path := u.path.slashed } := ofScheme_slash ended made
  refine ⟨u, parse_ok.mpr ⟨name, rest, ?_, ?_⟩, closed⟩
  · rw [parts_unmarked free]
    exact split
  · rw [parts_unmarked free]
    exact before

/-- The path of an address without marks that ends with a slash is closed. -/
theorem parse_closed (plain : ¬ Marked base.toList) (ends : base.toList.getLast? = some '/')
    (ok : parse base = .ok root) : root.path.IsClosed := by
  obtain ⟨front, same⟩ := List.getLast?_eq_some_iff.mp ends
  have free : ¬ Marked (clean base.toList) := fun marked => plain (marked_clean.mp marked)
  obtain ⟨scheme, rest, split, made⟩ := parse_ok.mp ok
  rw [parts_unmarked free, same, clean_snoc _ (by decide)] at split
  simp only [scheme?_slash, Option.map_eq_some_iff, Prod.mk.injEq] at split
  obtain ⟨⟨name, rest⟩, _, rfl, rfl⟩ := split
  exact ofScheme_closed made

/-- **A slash behind an address with marks only goes to its query or its fragment.** -/
theorem parse_marked (marked : Marked base.toList) (ok : parse (base ++ "/") = .ok root) :
    ∃ u, parse base = .ok u ∧
      root = { u with query := root.query, fragment := root.fragment } := by
  have plain : '#' ∉ (behind base.toList).filter isKept ++ ['/'] := by
    intro member
    rcases List.mem_append.mp member with blank | slash
    · have edge := isEdge_of_mem_behind (List.mem_filter.mp blank).1
      exact absurd edge (by decide)
    · exact absurd slash (by decide)
  obtain ⟨front, query, fragment⟩ := parts_marked (marked_clean.mpr marked) _ plain
  obtain ⟨scheme, rest, split, made⟩ := parse_ok.mp ok
  rw [clean_slash, List.append_assoc] at split made
  rw [front] at split
  obtain ⟨u, before, same⟩ := ofScheme_marks query fragment made
  exact ⟨u, parse_ok.mpr ⟨scheme, rest, split, before⟩, same⟩

end

end Url

end FlashStation
