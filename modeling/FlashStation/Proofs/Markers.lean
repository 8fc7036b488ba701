/-
# Which package is marked

The list of packages marks the one to begin with. The mark is put by identifier: whoever reads the
list as data and whoever sees it as lines finds it at the first package and at every other one of
the same identifier. So it is at the first alone if and only if that identifier is not used again,
and nowhere in a list of nothing.

Key definitions: `Json.memberOf`, `Report.marks`, `packagesListed`, `Manifest.FirstIsAlone`.
Key theorems: `Catalog.marks_read`, `listPackages_loaded`, `default_marks`.
-/
import FlashStation.Proofs.Endings
import FlashStation.Proofs.Manifests

namespace FlashStation

open Program

/-! ### The marks of a document -/

/-- Reads one member of an object, which must be there, and passes over all others. -/
def Json.memberOf {α : Type} (name : String) (item : Json.Reader α) : Json.Reader α :=
  Json.record [.of name id (fun _ a => some a) item] none id

/-- Reads of a document of packages whether each is marked, in their order. -/
def Report.marks : Json.Reader (List Bool) :=
  Json.memberOf "data" (Json.memberOf "packages" (Json.list (Json.memberOf "default" Json.truth)))

/-- The mark of a package is read from its data. -/
theorem mark_reads (marked : Bool) (p : Package) :
    Json.Reads (Json.memberOf "default" Json.truth) (packageData marked p) marked :=
  .record (.unknown rfl (.known rfl rfl (Json.Reads.truth marked).fill
    (.unknown rfl (.unknown rfl (.unknown rfl (.unknown rfl .nil)))))) rfl

/-- **The marks of a catalog are read from its document**, each from its package. -/
theorem Catalog.marks_read (c : Catalog) :
    Json.document Report.marks (Text.Utf8.encode (Report.ofData (catalogData c)).out) =
      .ok (c.packages.map (isMarked c)) := by
  have packages : Json.Reads (Json.list (Json.memberOf "default" Json.truth))
      (.arr (c.packages.map fun p => packageData (isMarked c p) p))
      (c.packages.map (isMarked c)) := by
    refine .list ?_
    rw [List.forall₂_map_left_iff, List.forall₂_map_right_iff, List.forall₂_same]
    exact fun p _ => mark_reads (isMarked c p) p
  have data : Json.Reads
      (Json.memberOf "packages" (Json.list (Json.memberOf "default" Json.truth)))
      (.obj (catalogData c)) (c.packages.map (isMarked c)) :=
    .record (.unknown rfl (.known rfl rfl packages.fill (.unknown rfl .nil))) rfl
  exact Report.out_document (.record (.known rfl rfl data.fill (.unknown rfl .nil)) rfl)

/-! ### The marks of lines -/

/-- The lines of some packages, each with its mark or without it, below a heading and in front of
the baud rate that is recommended. -/
def packagesListed (baud : Option UInt32) (marked : List (Bool × Package)) : List String :=
  "Firmware catalog:" ::
    ((if marked.isEmpty then ["  The manifest lists no packages"] else []) ++
      marked.flatMap (fun p => packageLines p.1 p.2) ++
      match baud with
      | none => []
      | some baud => ["", s!"  Default baud: {Text.decimal baud.toNat}"])

theorem catalogLines_ofManifest (m : Manifest) :
    catalogLines (.ofManifest m) = packagesListed m.defaultBaud
      ((m.packages.map (isMarked (.ofManifest m))).zip m.packages) := by
  unfold packagesListed
  rw [← List.map_prod_right_eq_zip, List.isEmpty_map, List.flatMap_map]
  rfl

/-! ### What is listed of a manifest -/

section
variable {σ : Type} {shell : (op : ShellOp) → σ → op.Answer × σ} {base : String} {root : Base}
  {s : σ} {m : Manifest}

/-- The catalog of a manifest that was loaded is listed. -/
theorem listPackages_loaded (hb : Base.ofText base = .ok root)
    (hm : Shell.manifest shell root s = .ok m) (json : Bool) :
    ((listPackages base json).run shell s).1 =
      .ok (if json then .ofData (catalogData (.ofManifest m))
        else .lines (catalogLines (.ofManifest m))) := by
  unfold listPackages
  simp only [bind_def, run_bind, loadCatalog_run hb, catalogLoad_ok hm]
  rfl

end

/-! ### The package to begin with -/

/-- No other package has the identifier of the first. -/
def Manifest.FirstIsAlone (m : Manifest) : Prop :=
  ∀ p ∈ m.packages.head?, ∀ q ∈ m.packages.tail, q.id ≠ p.id

/-- A package is marked if and only if it has the identifier of the first. -/
theorem marked_iff (m : Manifest) (i : Nat) :
    (m.packages.map (isMarked (.ofManifest m)))[i]? = some true ↔ ∃ p first : Package,
      m.packages[i]? = some p ∧ (Catalog.ofManifest m).first? = some first ∧ p.id = first.id := by
  rw [List.getElem?_map, Option.map_eq_some_iff]
  refine exists_congr fun p => ?_
  rw [exists_and_left, isMarked, beq_iff_eq, Option.map_eq_some_iff]
  exact and_congr_right fun _ => exists_congr fun first => and_congr_right fun _ => eq_comm

/-- The mark is at the first package alone if and only if no other has its identifier. -/
theorem marked_alone_iff (m : Manifest) :
    (∀ i : Nat, (m.packages.map (isMarked (.ofManifest m)))[i]? = some true ↔
      i = 0 ∧ m.packages ≠ []) ↔ m.FirstIsAlone := by
  have firstOf : (Catalog.ofManifest m).first? = m.packages.head? := rfl
  simp only [marked_iff, Manifest.FirstIsAlone, firstOf]
  cases m.packages with
  | nil => simp
  | cons first rest =>
    rw [List.head?_cons, List.tail_cons]
    constructor
    · rintro alone p ⟨⟩ q hq same
      obtain ⟨i, hi⟩ := List.mem_iff_getElem?.mp hq
      exact Nat.succ_ne_zero i ((alone (i + 1)).mp ⟨q, first, hi, rfl, same⟩).1
    · intro alone i
      cases i with
      | zero => exact iff_of_true ⟨first, first, rfl, rfl, rfl⟩ ⟨rfl, List.cons_ne_nil first rest⟩
      | succ i =>
        refine iff_of_false ?_ (fun h => Nat.succ_ne_zero i h.1)
        rintro ⟨q, _, hq, ⟨⟩, same⟩
        exact alone first rfl q (List.mem_of_getElem? hq) same

/-- **The mark goes by identifier.** The list of the packages of a manifest that was loaded, as data
and as lines, has the same marks: one for every package that has the identifier of the first, and
none for any other. So the package to begin with, which is the first, is marked and no other is, if
and only if no other has its identifier; and there is no mark if there is no package. -/
theorem default_marks {σ : Type} (shell : (op : ShellOp) → σ → op.Answer × σ) {base : String}
    {root : Base} {s : σ} {m : Manifest} (hb : Base.ofText base = .ok root)
    (hm : Shell.manifest shell root s = .ok m) :
    ∃ (marks : List Bool) (data : Json),
      ((listPackages base true).run shell s).1 = .ok (.document data) ∧
      Json.document Report.marks (Text.Utf8.encode (Report.document data).out) = .ok marks ∧
      ((listPackages base false).run shell s).1 =
        .ok (.lines (packagesListed m.defaultBaud (marks.zip m.packages))) ∧
      marks.length = m.packages.length ∧
      (Catalog.ofManifest m).first? = m.packages[0]? ∧
      (∀ i : Nat, marks[i]? = some true ↔ ∃ p first : Package, m.packages[i]? = some p ∧
        (Catalog.ofManifest m).first? = some first ∧ p.id = first.id) ∧
      ((∀ i : Nat, marks[i]? = some true ↔ i = 0 ∧ m.packages ≠ []) ↔ m.FirstIsAlone) := by
  refine ⟨m.packages.map (isMarked (.ofManifest m)), _, listPackages_loaded hb hm true,
    (Catalog.ofManifest m).marks_read, ?_, List.length_map _, List.head?_eq_getElem?, marked_iff m,
    marked_alone_iff m⟩
  rw [listPackages_loaded hb hm false, catalogLines_ofManifest]
  rfl

/-- Two packages of one identifier. -/
def twins : Manifest where
  defaultBaud := none
  packages := ["Blink", "Blink again"].map fun name =>
    ⟨"blink", name, none, none, none, none, none, none, []⟩

/-- A machine with nothing but a manifest of twins, wherever it is looked for. -/
def twinsAlone : (op : ShellOp) → Unit → op.Answer × Unit
  | .fetch _ _, s => (.ok (Json.printed .tight 0 twins.toJson), s)
  | op, s => boardAndChip op s

/-- Of two packages of one identifier, both are marked. -/
theorem twins_marked :
    Base.ofText "public" = .ok (.directory "public") ∧
    Shell.manifest twinsAlone (.directory "public") () = .ok twins ∧
    ∃ data, ((listPackages "public" true).run twinsAlone ()).1 = .ok (.document data) ∧
      Json.document Report.marks (Text.Utf8.encode (Report.document data).out) =
        .ok [true, true] := by
  have base : Base.ofText "public" = .ok (.directory "public") := by decide
  have loaded : Shell.manifest twinsAlone (.directory "public") () = .ok twins :=
    twins.read_printed .tight
  obtain ⟨marks, data, listed, read, -, length, -, marked, -⟩ :=
    default_marks twinsAlone base loaded
  have first : marks[0]? = some true := (marked 0).mpr ⟨_, _, rfl, rfl, rfl⟩
  have second : marks[1]? = some true := (marked 1).mpr ⟨_, _, rfl, rfl, rfl⟩
  have both : marks = [true, true] := by
    match marks, length with
    | [_, _], _ => simpa using And.intro first second
  exact ⟨base, loaded, data, listed, both ▸ read⟩

end FlashStation
