/-
# Where paths lead from a base on a server

A base on a server is the address of a directory: its text gets a slash at its end before it is
read. A path of plain names then leads from the directory of that address, in which its last name is
left out, to a resource without query and fragment.

If the text of the base has neither a query nor a fragment, the slash closes its path, so nothing is
left out and the path leads below the base. If it has one, the slash goes there; then the last name
of the base's path is replaced, unless there was none, and so the path leads below the base only if
the base's path was that of a directory already. A base with a text for a path that is not looked
into has nothing below it; and a file's host is lost if its path begins with a drive.

Key definitions: `Url.directory`, `Url.under`, `UrlPath.Closes`, `EndsWell`, `Url.KeepsHost`,
`LandsBelow`.
Key theorems: `Url.join_plain`, `Base.ofServer_marked`, `Base.ofServer_unmarked`, `landsBelow_iff`,
`locations_below_base`.
-/
import FlashStation.Proofs.Addresses

namespace FlashStation

open Text

namespace Url

/-! ### Relative paths -/

/-- The directory of a path: its last name is left out, unless it is the letter of a drive. -/
def directory (scheme : String) (l : List String) : List String :=
  if scheme = "file" ∧ (l.getLast?.map isDrive).getD false = true then l else l.dropLast

/-- The address of what plain names lead to from an address with the path `l`. A drive belongs to
the own machine. -/
def under (root : Url) (l names : List String) : Url :=
  let path := directory root.scheme l ++ names
  { root with
    host := if root.scheme = "file" ∧ onDrive path = true then some (.name "") else root.host
    path := .segments path
    query := none
    fragment := none }

section
variable {names l : List String} {root : Url}

/-- The characters of the text of plain names. -/
theorem plain_chars (plain : ∀ name ∈ names, PlainName name) :
    ∀ c ∈ (Text.join "/" names).toList, isNameChar c = true ∨ c = '/' := by
  induction names with
  | nil => nofun
  | cons name names ih =>
    obtain ⟨first, rest⟩ := List.forall_mem_cons.mp plain
    cases names with
    | nil => exact fun c hc => .inl (first.chars c hc)
    | cons next names =>
      intro c hc
      rw [toList_join_cons] at hc
      rcases List.mem_append.mp hc with own | later
      · exact .inl (first.chars c own)
      · rcases List.mem_cons.mp later with slash | others
        · exact .inr slash
        · exact ih rest c others

/-- A character that neither is a slash nor stands in plain names does not stand in their text. -/
theorem plain_free (plain : ∀ name ∈ names, PlainName name) {d : Char}
    (other : isNameChar d = false) (slash : d ≠ '/') : d ∉ (Text.join "/" names).toList := by
  intro member
  rcases plain_chars plain d member with own | same
  · rw [own] at other
    cases other
  · exact slash same

/-- How the text of plain names is read: it has neither marks nor a scheme. -/
theorem plain_read (plain : ∀ name ∈ names, PlainName name) :
    clean (Text.join "/" names).toList = (Text.join "/" names).toList ∧
      Parts.of (Text.join "/" names).toList = ⟨(Text.join "/" names).toList, none, none⟩ ∧
      scheme? (Text.join "/" names).toList = none := by
  have visible : ∀ c ∈ (Text.join "/" names).toList, 0x20 < c.toNat := by
    intro c hc
    rcases plain_chars plain c hc with own | rfl
    · exact (isNameChar_printable own).1
    · decide
  have unmarked : ¬ Marked (Text.join "/" names).toList :=
    not_or.mpr ⟨plain_free plain rfl (by decide), plain_free plain rfl (by decide)⟩
  refine ⟨clean_eq visible, parts_unmarked unmarked, ?_⟩
  have colon : ':' ∉ (Text.join "/" names).toList := plain_free plain rfl (by decide)
  unfold scheme?
  split
  · rfl
  · rw [cut_none colon]
    split <;> rfl

/-- The text of plain names does not begin with a slash. -/
theorem plain_slashes (some? : names ≠ []) (plain : ∀ name ∈ names, PlainName name) :
    (Text.join "/" names).toList ≠ [] ∧
      ∀ special, (Text.join "/" names).toList.takeWhile (isSlash special) = [] := by
  obtain ⟨name, more, rfl⟩ := List.exists_cons_of_ne_nil some?
  have first := plain name List.mem_cons_self
  obtain ⟨c, s, letters⟩ := List.exists_cons_of_ne_nil (l := name.toList) fun none =>
    first.some? (String.toList_eq_nil_iff.mp none)
  obtain ⟨t, same⟩ : ∃ t, (Text.join "/" (name :: more)).toList = c :: t := by
    cases more with
    | nil => exact ⟨s, letters⟩
    | cons next more =>
      rw [toList_join_cons, letters]
      exact ⟨_, rfl⟩
  rw [same]
  refine ⟨nofun, fun special => List.takeWhile_cons_of_neg ?_⟩
  rw [first.no_slash special c (by rw [letters]; exact List.mem_cons_self)]
  nofun

/-- The path of an address of a file begins with a name, if there is any in it. -/
theorem named_head (path : List String) :
    named path = [""] ∨ ∃ first rest, named path = first :: rest ∧ first ≠ "" := by
  induction path with
  | nil => exact .inl rfl
  | cons first rest ih =>
    by_cases empty : first = ""
    · subst empty
      exact ih
    · exact .inr ⟨first, rest, named_cons empty rest, empty⟩

/-- A path of plain names below the directory of a file has no empty segments in front. -/
theorem named_directory (path : List String) (some? : names ≠ [])
    (plain : ∀ name ∈ names, PlainName name) :
    named (directory "file" (named path) ++ names) = directory "file" (named path) ++ names := by
  have alone : named names = names := by
    obtain ⟨name, more, rfl⟩ := List.exists_cons_of_ne_nil some?
    exact named_cons (plain name List.mem_cons_self).some? more
  unfold directory
  rcases named_head path with root | ⟨first, rest, same, real⟩
  · rw [root]
    exact alone
  · rw [same]
    split
    · exact named_cons real _
    · cases rest with
      | nil => exact alone
      | cons second rest => exact named_cons real _

/-- No drive is among plain names. -/
theorem onDrive_plain (plain : ∀ name ∈ names, PlainName name) : onDrive names = false := by
  cases names with
  | nil => rfl
  | cons name names => exact (plain name List.mem_cons_self).not_drive

/-- A text without a slash in front leads to a file beside another one. -/
theorem ofFile_beside {s : List Char} (path : root.path = .segments l) (full : s.isEmpty = false)
    (slashes : s.takeWhile (isSlash true) = [])
    (drive : onDrive (walk true [] (pathPieces true s)) = false) :
    ofFile (some root) ⟨s, none, none⟩ s =
      .ok (ofFilePath (root.host.getD (.name "")) (besideFile l s) none none) := by
  unfold ofFile
  simp only [slashes, full, drive, Option.map_some, path]
  rfl

/-- **Plain names lead below the directory of an address.** -/
theorem join_plain (path : root.path = .segments l)
    (file : root.scheme = "file" → ∃ host path query fragment,
      root = ofFilePath host path query fragment)
    (some? : names ≠ []) (plain : ∀ name ∈ names, PlainName name) :
    root.join (Text.join "/" names) = .ok (root.under l names) := by
  obtain ⟨cleaned, parts, scheme⟩ := plain_read plain
  obtain ⟨full, slashes⟩ := plain_slashes some? plain
  have full' : (Text.join "/" names).toList.isEmpty = false := by simpa using full
  have walked {f special : Bool} {d : List String} :
      walk f d (pathPieces special (Text.join "/" names).toList) = d ++ names := by
    rw [pathPieces_plain some? plain, walk_plain plain]
  unfold join resolve
  simp only [cleaned, parts, scheme, path]
  by_cases own : root.scheme = "file"
  · rw [if_pos own]
    obtain ⟨host, path', query, fragment, rfl⟩ := file own
    obtain rfl : named path' = l := UrlPath.segments.inj path
    have drive : onDrive (walk true [] (pathPieces true (Text.join "/" names).toList)) = false := by
      rw [walked]
      exact onDrive_plain plain
    have beside : besideFile (named path') (Text.join "/" names).toList =
        directory "file" (named path') ++ names := by
      unfold besideFile directory
      rw [walked]
      simp only [true_and]
    rw [ofFile_beside path full' (slashes true) drive, beside]
    refine congrArg Except.ok ?_
    unfold under
    simp only [ofFilePath_eq, named_directory path' some? plain, Option.getD_some, true_and]
    split <;> rfl
  · rw [if_neg own]
    unfold ofRelative
    simp only [full', slashes, walked]
    have same : root.under l names =
        { root with path := .segments (l.dropLast ++ names), query := none, fragment := none } := by
      unfold under directory
      simp only [own, false_and, if_false]
    rw [same]
    rfl

/-- Whether a path of plain names begins with a drive is decided by where it starts. -/
theorem onDrive_directory (plain : ∀ name ∈ names, PlainName name) :
    onDrive (directory "file" l ++ names) = onDrive l := by
  unfold directory
  match l with
  | [] => exact onDrive_plain plain
  | [first] =>
    by_cases drive : isDrive first = true
    · rw [if_pos ⟨rfl, drive⟩]
      rfl
    · rw [if_neg fun own => drive own.2]
      exact (onDrive_plain plain).trans (Bool.eq_false_iff.mpr drive).symm
  | first :: second :: rest => split <;> rfl

/-- A path has no last name, or its last name is a drive, which is a directory itself. -/
def IsDirectory (scheme : String) (l : List String) : Prop :=
  Closed l ∨ scheme = "file" ∧ (l.getLast?.map isDrive).getD false = true

/-- Nothing of a path is left out if it is that of a directory. -/
theorem directory_slashed {scheme : String} (h : IsDirectory scheme l) :
    directory scheme l ++ [""] = slashed l := by
  rcases List.eq_nil_or_concat l with rfl | ⟨d, last, rfl⟩
  · unfold directory
    split <;> rfl
  rw [List.concat_eq_append] at h ⊢
  unfold directory
  by_cases drive : scheme = "file" ∧ ((d ++ [last]).getLast?.map isDrive).getD false = true
  · rw [if_pos drive]
    have named : last ≠ "" := by
      rintro rfl
      rw [List.getLast?_concat] at drive
      exact absurd drive.2 (by decide)
    exact (slashed_snoc named).symm
  · have closed := h.resolve_right drive
    rw [Closed, List.getLast?_concat, Option.getD_some] at closed
    rw [if_neg drive, List.dropLast_concat, closed, slashed_empty]

/-- Of any other path the last name is left out. -/
theorem directory_names {scheme : String} (h : ¬ IsDirectory scheme l) :
    ∃ d last, last ≠ "" ∧ directory scheme l = d ∧ slashed l = d ++ [last] ++ [""] := by
  obtain ⟨open', drive⟩ := not_or.mp h
  rcases List.eq_nil_or_concat l with rfl | ⟨d, last, rfl⟩
  · exact absurd rfl open'
  rw [List.concat_eq_append] at open' drive ⊢
  rw [Closed, List.getLast?_concat, Option.getD_some] at open'
  refine ⟨d, last, open', ?_, slashed_snoc open'⟩
  rw [directory, if_neg drive, List.dropLast_concat]

/-- The text of a directory below another one is another text. -/
theorem pathText_below (hasHost : Bool) (d : List String) {last : String} (named : last ≠ "") :
    pathText hasHost (.segments (d ++ [""])) ≠
      pathText hasHost (.segments (d ++ [last] ++ [""])) := by
  have mark : (1 < (d ++ [""]).length && decide ((d ++ [""]).head? = some "")) =
      (1 < (d ++ [last] ++ [""]).length && decide ((d ++ [last] ++ [""]).head? = some "")) := by
    cases d with
    | nil => simp [named]
    | cons first d => simp
  intro same
  rw [pathText_segments, pathText_segments, Bool.and_assoc, Bool.and_assoc, mark] at same
  have lengths := congrArg String.length same
  simp only [List.map_append, String.join_append, String.length_append] at lengths
  have real : 0 < (String.join (List.map ("/" ++ ·) [last])).length := by
    have slash : "/".length = 1 := rfl
    rw [List.map_singleton, String.join_cons, String.length_append, String.length_append, slash]
    omega
  omega

end

end Url

/-! ### Bases -/

/-- A path and the one that a slash at the end of its text makes of it: they are of one directory,
unless the path is a text that is not looked into. -/
structure UrlPath.Closes (p q : UrlPath) : Prop where
  directory : ∀ l, q = .segments l → Url.Closed l ∧ p.slashed = .segments (Url.slashed l)
  open? : (∃ l, q = .segments l) ↔ ∀ t, p = .opaqueText t → t = ""

/-- A path that is closed stays as it is. -/
theorem UrlPath.IsClosed.closes {p : UrlPath} (closed : p.IsClosed) : p.Closes p := by
  cases p with
  | segments l =>
    refine ⟨?_, iff_of_true ⟨l, rfl⟩ nofun⟩
    rintro _ ⟨⟩
    exact ⟨closed, rfl⟩
  | opaqueText t => exact ⟨nofun, iff_of_false nofun fun none => closed (none t rfl)⟩

theorem UrlPath.closes_slashed (p : UrlPath) : p.Closes p.slashed := by
  cases p with
  | segments l =>
    refine ⟨?_, iff_of_true ⟨_, rfl⟩ nofun⟩
    rintro _ ⟨⟩
    exact ⟨Url.closed_slashed l, congrArg _ (Url.slashed_slashed l).symm⟩
  | opaqueText t =>
    by_cases empty : t = ""
    · subst empty
      refine ⟨?_, iff_of_true ⟨_, rfl⟩ ?_⟩
      · rintro _ ⟨⟩
        exact ⟨rfl, rfl⟩
      · rintro _ ⟨⟩
        rfl
    · have stays : (UrlPath.opaqueText t).slashed = .opaqueText (t ++ "/") := if_neg empty
      rw [stays]
      exact ⟨nofun, iff_of_false nofun fun none => empty (none t rfl)⟩

/-- One slash stands at the end of a base once it has got one: it has one there already, or it ends
with something else that belongs to it. A blank at the end does not belong to it, but does so with a
slash behind it; and a backslash in an address of the web, or a slash before the end of a line, is a
slash that gets another one. -/
def EndsWell (special : Bool) (base : String) : Prop :=
  base.toList.getLast? = some '/' ∨
    (Url.behind base.toList).filter Url.isKept = [] ∧
      Url.OpenEnd special (Url.clean base.toList)

namespace Base

section
variable {names l : List String} {base : String} {root : Url}

/-- The text of plain names is no address of the web. -/
theorem isRemote_plain (plain : ∀ name ∈ names, PlainName name) :
    isRemote (Text.join "/" names) = false := by
  have colon : ':' ∉ (Text.join "/" names).toList := Url.plain_free plain rfl (by decide)
  have apart {front : String} (h : ':' ∈ front.toList) :
      Text.startsWith (Text.join "/" names) front = false := by
    refine Bool.eq_false_iff.mpr fun starts => colon ?_
    exact (List.isPrefixOf_iff_prefix.mp starts).subset h
  rw [isRemote, apart (by decide), apart (by decide)]
  rfl

theorem resource_plain (path : root.path = .segments l)
    (file : root.scheme = "file" → ∃ host path query fragment,
      root = Url.ofFilePath host path query fragment)
    (some? : names ≠ []) (plain : ∀ name ∈ names, PlainName name) :
    resource root (Text.join "/" names) = .ok (root.under l names) := by
  unfold resource
  rw [isRemote_plain plain, if_neg nofun, Url.join_plain path file some? plain]

/-- Nothing is below a base whose path is not looked into. -/
theorem resource_hidden {t : String} (path : root.path = .opaqueText t)
    (plain : ∀ name ∈ names, PlainName name) :
    resource root (Text.join "/" names) =
      .error (.invalidLocation (Text.join "/" names) UrlFault.opaqueBase.message) := by
  obtain ⟨cleaned, parts, scheme⟩ := Url.plain_read plain
  have fragment : (Text.join "/" names).toList.head? ≠ some '#' := fun first =>
    Url.plain_free plain rfl (by decide) (List.mem_of_mem_head? first)
  have fails : root.join (Text.join "/" names) = .error .opaqueBase := by
    unfold Url.join Url.resolve
    simp only [cleaned, parts, scheme, path, if_neg fragment]
  unfold resource
  rw [isRemote_plain plain, if_neg nofun, fails]

theorem locate_ok {path : String} {url : Url} (h : resource root path = .ok url) :
    (Base.server root).locate path = url.text := by
  unfold locate
  simp only [h]

theorem locate_error {path : String} {fault : FetchFault} (h : resource root path = .error fault) :
    (Base.server root).locate path = path := by
  unfold locate
  simp only [h]

/-- A base is accepted if its text, with a slash at its end, is an address. -/
theorem ofServer_ok : ofServer base = .ok (.server root) ↔
    Url.parse (if base.toList.getLast? = some '/' then base else base ++ "/") = .ok root := by
  unfold ofServer
  simp only
  cases Url.parse (if base.toList.getLast? = some '/' then base else base ++ "/") <;> simp

/-- **A base with marks** is an address by itself, with the same path. -/
theorem ofServer_marked (accepted : ofServer base = .ok (.server root))
    (marked : Url.Marked base.toList) :
    ∃ u, Url.parse base = .ok u ∧
      root = { u with query := root.query, fragment := root.fragment } := by
  have read := ofServer_ok.mp accepted
  split at read
  · exact ⟨root, read, rfl⟩
  · exact Url.parse_marked marked read

/-- **A base without marks** that ends well is an address by itself, whose path gets closed. -/
theorem ofServer_unmarked (accepted : ofServer base = .ok (.server root))
    (plain : ¬ Url.Marked base.toList) (ends : EndsWell (Url.isSpecial root.scheme) base) :
    ∃ u, Url.parse base = .ok u ∧ root = { u with path := root.path } ∧
      u.path.Closes root.path := by
  have read := ofServer_ok.mp accepted
  split at read
  · rename_i slash
    exact ⟨root, read, rfl, (Url.parse_closed plain slash read).closes⟩
  · rename_i slash
    obtain ⟨near, free⟩ := ends.resolve_left slash
    obtain ⟨u, before, same⟩ := Url.parse_slash plain near free read
    have path : root.path = u.path.slashed := by rw [same]
    rw [path]
    exact ⟨u, before, same, u.path.closes_slashed⟩

end

end Base

/-! ### Below a base -/

/-- A drive in the path of a file is one of the own machine. -/
def Url.KeepsHost (u : Url) : Prop :=
  u.scheme = "file" → ∀ l, u.path = .segments l → Url.onDrive l = true → u.host = some (.name "")

/-- A path leads from a base to an address below another one: to one with the same scheme, host and
port, whose path is the other one's, with a slash at its end, followed by that path. -/
def LandsBelow (u root : Url) (path : String) : Prop :=
  ∃ url, Base.resource root path = .ok url ∧ url.scheme = u.scheme ∧ url.host = u.host ∧
    url.port = u.port ∧
    Url.pathText url.host.isSome url.path = Url.pathText u.host.isSome u.path.slashed ++ path

section
variable {names l : List String} {base : String} {u root : Url}

/-- Whether an address keeps its host is decided by its directory. -/
theorem keepsHost_iff (read : Url.parse base = .ok u)
    (slashed : u.path.slashed = .segments (Url.slashed l)) :
    u.KeepsHost ↔ (u.scheme = "file" → Url.onDrive l = true → u.host = some (.name "")) := by
  have same {m : List String} (path : u.path = .segments m) : Url.onDrive m = Url.onDrive l := by
    rw [path] at slashed
    rw [← Url.onDrive_slashed m, UrlPath.segments.inj slashed, Url.onDrive_slashed]
  constructor
  · intro keeps own drive
    obtain ⟨host, path, _, _, made⟩ := Url.parse_file read own
    have segments : u.path = .segments (Url.named path) := by rw [made, Url.ofFilePath_eq]
    exact keeps own _ segments ((same segments).trans drive)
  · intro keeps own m path drive
    exact keeps own ((same path).symm.trans drive)

/-- **When plain names lead below an address** with the same authority. -/
theorem landsBelow_iff (path : root.path = .segments l)
    (file : root.scheme = "file" → ∃ host path query fragment,
      root = Url.ofFilePath host path query fragment)
    (some? : names ≠ []) (plain : ∀ name ∈ names, PlainName name)
    (scheme : u.scheme = root.scheme) (host : u.host = root.host) (port : u.port = root.port)
    (slashed : u.path.slashed = .segments (Url.slashed l)) :
    LandsBelow u root (Text.join "/" names) ↔
      (root.scheme = "file" → Url.onDrive l = true → u.host = some (.name "")) ∧
        Url.IsDirectory root.scheme l := by
  have below := Base.resource_plain path file some? plain
  have text (hasHost : Bool) : Url.pathText hasHost (root.under l names).path =
      Url.pathText hasHost (.segments (Url.directory root.scheme l ++ [""])) ++
        Text.join "/" names := Url.pathText_plain hasHost some? plain
  have onDrive (own : root.scheme = "file") :
      Url.onDrive (Url.directory root.scheme l ++ names) = Url.onDrive l := by
    rw [own]
    exact Url.onDrive_directory plain
  constructor
  · rintro ⟨url, found, _, same, _, behind⟩
    obtain rfl : root.under l names = url := Except.ok.inj (below.symm.trans found)
    refine ⟨fun own drive => ?_, ?_⟩
    · rw [← same]
      exact if_pos ⟨own, (onDrive own).trans drive⟩
    · by_contra other
      obtain ⟨d, last, named, kept, whole⟩ := Url.directory_names other
      rw [text, same, slashed, kept, whole, String.append_left_inj] at behind
      exact Url.pathText_below _ d named behind
  · rintro ⟨keeps, closed⟩
    have same : (root.under l names).host = u.host := by
      by_cases moved : root.scheme = "file" ∧
          Url.onDrive (Url.directory root.scheme l ++ names) = true
      · rw [keeps moved.1 ((onDrive moved.1).symm.trans moved.2)]
        exact if_pos moved
      · rw [host]
        exact if_neg moved
    refine ⟨_, below, scheme.symm, same, port.symm, ?_⟩
    rw [text, same, slashed, Url.directory_slashed closed]

/-- **Where plain names lead from a base on a server.** From one whose path is not looked into they
lead nowhere, and their text stands for itself. From any other they lead below the directory of its
address.

They lead below the address that the text of the base itself writes:
- if it has no query and no fragment and one slash stands at its end, unless its path is a text that
  is not looked into;
- if it has one of them, only if its path is that of a directory already, because the slash goes to
  the query or to the fragment: of any other path the last name is replaced.

In both cases a file on another host stays there only if its path does not begin with a drive. -/
theorem locations_below_base (accepted : Base.ofServer base = .ok (.server root))
    (some? : names ≠ []) (plain : ∀ name ∈ names, PlainName name) :
    let path := Text.join "/" names
    (∀ t, root.path = .opaqueText t → (Base.server root).locate path = path) ∧
    (∀ l, root.path = .segments l → (Base.server root).locate path = (root.under l names).text) ∧
    (¬ Url.Marked base.toList → EndsWell (Url.isSpecial root.scheme) base →
      ∃ u, Url.parse base = .ok u ∧ (LandsBelow u root path ↔
        u.KeepsHost ∧ ∀ t, u.path = .opaqueText t → t = "")) ∧
    (Url.Marked base.toList →
      ∃ u, Url.parse base = .ok u ∧ (LandsBelow u root path ↔
        u.KeepsHost ∧ ∃ l, u.path = .segments l ∧ Url.IsDirectory u.scheme l)) := by
  intro path
  have file : root.scheme = "file" → ∃ host path query fragment,
      root = Url.ofFilePath host path query fragment :=
    Url.parse_file (Base.ofServer_ok.mp accepted)
  have nothing {t : String} (hidden : root.path = .opaqueText t) {u : Url} :
      ¬ LandsBelow u root path := by
    rintro ⟨url, found, _⟩
    rw [Base.resource_hidden hidden plain] at found
    cases found
  refine ⟨fun t hidden => ?_, fun l segments => ?_, fun unmarked ends => ?_, fun marked => ?_⟩
  · exact Base.locate_error (Base.resource_hidden hidden plain)
  · exact Base.locate_ok (Base.resource_plain segments file some? plain)
  · obtain ⟨u, before, same, closes⟩ := Base.ofServer_unmarked accepted unmarked ends
    have scheme : u.scheme = root.scheme := by rw [same]
    have host : u.host = root.host := by rw [same]
    have port : u.port = root.port := by rw [same]
    refine ⟨u, before, ?_⟩
    rw [← closes.open?]
    cases directory : root.path with
    | opaqueText t => exact iff_of_false (nothing directory) fun below => nomatch below.2
    | segments l =>
      obtain ⟨ended, slashed⟩ := closes.directory l directory
      rw [landsBelow_iff directory file some? plain scheme host port slashed,
        keepsHost_iff before slashed, scheme]
      exact and_congr_right' (iff_of_true (.inl ended) ⟨l, rfl⟩)
  · obtain ⟨u, before, same⟩ := Base.ofServer_marked accepted marked
    have scheme : u.scheme = root.scheme := by rw [same]
    have host : u.host = root.host := by rw [same]
    have port : u.port = root.port := by rw [same]
    have kept : u.path = root.path := by rw [same]
    refine ⟨u, before, ?_⟩
    cases directory : root.path with
    | opaqueText t =>
      rw [kept, directory]
      exact iff_of_false (nothing directory) fun ⟨_, _, below, _⟩ => nomatch below
    | segments l =>
      have slashed : u.path.slashed = .segments (Url.slashed l) := by
        rw [kept, directory]
        rfl
      rw [landsBelow_iff directory file some? plain scheme host port slashed,
        keepsHost_iff before slashed, scheme, kept, directory]
      refine and_congr_right' ⟨fun own => ⟨l, rfl, own⟩, ?_⟩
      rintro ⟨_, ⟨⟩, own⟩
      exact own

end

/-- An address of a server on the own machine. -/
def ownServer (query : Option String) (segments : List String) : Url :=
  { scheme := "http", username := "", password := "", port := none
    host := some (.ipv6 [0, 0, 0, 0, 0, 0, 0, 1])
    path := .segments segments
    query, fragment := none }

/-- What is in a directory is sought beside it once its address has got a query. -/
theorem query_replaces_last_name :
    let plain := ownServer none ["manager", ""]
    let asked := ownServer (some "v=1/") ["manager"]
    (Base.ofServer "http://[::1]/manager" = .ok (.server plain) ∧
      (Base.server plain).locate "firmware/app.bin" =
        "http://[::1]/manager/firmware/app.bin" ∧
      ∃ u, Url.parse "http://[::1]/manager" = .ok u ∧ LandsBelow u plain "firmware/app.bin") ∧
    Base.ofServer "http://[::1]/manager?v=1" = .ok (.server asked) ∧
      (Base.server asked).locate "firmware/app.bin" = "http://[::1]/firmware/app.bin" ∧
      ∃ u, Url.parse "http://[::1]/manager?v=1" = .ok u ∧
        ¬ LandsBelow u asked "firmware/app.bin" := by
  intro plain asked
  have accepted : Base.ofServer "http://[::1]/manager" = .ok (.server plain) := by decide +kernel
  have accepted' : Base.ofServer "http://[::1]/manager?v=1" = .ok (.server asked) := by
    decide +kernel
  have names : ∀ name ∈ ["firmware", "app.bin"], PlainName name := by decide +kernel
  have together : Text.join "/" ["firmware", "app.bin"] = "firmware/app.bin" := by decide +kernel
  have last : (Url.clean "http://[::1]/manager".toList).getLast? = some 'r' := by decide +kernel
  have ends : EndsWell (Url.isSpecial plain.scheme) "http://[::1]/manager" := by
    refine .inr ⟨by decide +kernel, fun c same => ?_⟩
    rw [last] at same
    rw [← Option.some.inj same]
    rfl
  obtain ⟨-, found, unmarked, -⟩ := locations_below_base accepted (List.cons_ne_nil _ _) names
  obtain ⟨-, found', -, marked⟩ := locations_below_base accepted' (List.cons_ne_nil _ _) names
  rw [together] at found unmarked found' marked
  obtain ⟨u, read, below⟩ := unmarked (by decide +kernel) ends
  obtain ⟨u', read', beside⟩ := marked (by decide +kernel)
  refine ⟨⟨accepted, ?_, u, read, below.mpr ?_⟩, accepted', ?_, u', read', fun lands => ?_⟩
  · rw [found _ rfl]
    decide +kernel
  · have known : Url.parse "http://[::1]/manager" = .ok (ownServer none ["manager"]) := by
      decide +kernel
    obtain rfl : u = _ := Except.ok.inj (read.symm.trans known)
    exact ⟨fun file => absurd file (by decide), nofun⟩
  · rw [found' _ rfl]
    decide +kernel
  · have known : Url.parse "http://[::1]/manager?v=1" =
        .ok (ownServer (some "v=1") ["manager"]) := by
      decide +kernel
    obtain rfl : u' = _ := Except.ok.inj (read'.symm.trans known)
    obtain ⟨-, l, path, closed | file⟩ := beside.mp lands
    · obtain rfl : ["manager"] = l := UrlPath.segments.inj path
      exact absurd (show "manager" = "" from closed) (by decide)
    · exact absurd file.1 (by decide)

end FlashStation
