/-
# A manifest written otherwise

A manifest says what it says by the names of its members. They may come in another order; there may
be others that nobody knows, with whatever values; and one that may be absent may be `null` as well.
None of this changes what is read. The order of lists does: packages, and the images of each, are
those of the document, one by one.

Key definitions: `Layer`, `Recast`, `Layer.form`.
Key theorems: `Recast.decode_eq`, `Json.Form.fold_list`, `manifest_recast`.
-/
import FlashStation.Proofs.Forms
import FlashStation.Proofs.Manifests

namespace FlashStation

open Json

/-! ### Writing otherwise -/

/-- A kind of record in a manifest. -/
inductive Layer where
  /-- The manifest itself. -/
  | manifest
  /-- A package. -/
  | package
  /-- An image of a package. -/
  | image

namespace Layer

/-- The names of the members that a record knows. -/
def known : Layer → List String
  | .manifest => ["defaultBaud", "packages"]
  | .package =>
    ["id", "name", "description", "chipFamily", "flashSize", "flashMode", "flashFreq", "eraseAll",
      "images"]
  | .image => ["path", "address"]

/-- The names of the members that may be `null`. -/
def optional : Layer → List String
  | .manifest => ["defaultBaud"]
  | .package => ["description", "chipFamily", "flashSize", "flashMode", "flashFreq", "eraseAll"]
  | .image => []

/-- The name of the member that lists other records, and what those are. -/
def lists : Layer → Option (String × Layer)
  | .manifest => some ("packages", .package)
  | .package => some ("images", .image)
  | .image => none

end Layer

/-- **One record is written as another**: their members differ in their order, in some that are not
known or are `null` for being absent, or in how the records that they list are written. -/
inductive Recast : Layer → Tree → Tree → Prop where
  /-- It is the same. -/
  | refl {l : Layer} (t : Tree) : Recast l t t
  | symm {l : Layer} {t t' : Tree} : Recast l t t' → Recast l t' t
  | trans {l : Layer} {t t' t'' : Tree} : Recast l t t' → Recast l t' t'' → Recast l t t''
  /-- The members are in another order. -/
  | perm {l : Layer} {ms ms' : List (List UInt8 × Tree)} : ms.Perm ms' →
      Recast l (.object ms) (.object ms')
  /-- There is one more member, of a name that is not known; its value may be any. -/
  | unknown {l : Layer} {k : List UInt8} {key : String} {ms : List (List UInt8 × Tree)} (u : Tree) :
      textOf? k = some key → key ∉ l.known → Recast l (.object ms) (.object ((k, u) :: ms))
  /-- There is one more member, which is `null` and may be. -/
  | null {l : Layer} {k : List UInt8} {key : String} {ms : List (List UInt8 × Tree)} :
      textOf? k = some key → key ∈ l.optional → named ms key = [] →
      Recast l (.object ms) (.object ((k, .null) :: ms))
  /-- One of the listed records is written otherwise. -/
  | item {l l' : Layer} {k : List UInt8} {key : String} {ms : List (List UInt8 × Tree)}
      (front back : List Tree) {t t' : Tree} : textOf? k = some key → l.lists = some (key, l') →
      Recast l' t t' → Recast l (.object ((k, .list (front ++ t :: back)) :: ms))
        (.object ((k, .list (front ++ t' :: back)) :: ms))

/-- The value of a member that is not known may be any other, such as the same with its own members
in another order. -/
theorem Recast.exchange {l : Layer} {k : List UInt8} {key : String}
    {ms : List (List UInt8 × Tree)} (u u' : Tree) (name : textOf? k = some key)
    (unknown : key ∉ l.known) : Recast l (.object ((k, u) :: ms)) (.object ((k, u') :: ms)) :=
  (Recast.unknown u name unknown).symm.trans (.unknown u' name unknown)

/-! ### The records of a manifest -/

/-- An image, by its members. -/
def Image.form : Form ImageDraft Image where
  slots :=
    [.of "path" (·.path) (fun d v => { d with path := some v }) (fun _ _ => rfl) .text,
     .of "address" (·.address) (fun d v => { d with address := some v }) (fun _ _ => rfl) .text]
  empty := ⟨none, none⟩
  finish := ImageDraft.image?
  apart := by
    simp only [List.pairwise_cons, List.forall_mem_cons, List.not_mem_nil, false_implies,
      implies_true, List.Pairwise.nil, and_true]
    exact Slot.of_apart (by decide) (fun _ _ _ => rfl) (fun _ _ => rfl) (fun _ _ => rfl)
  vacant := by
    simp only [List.forall_mem_cons, List.not_mem_nil, false_implies, implies_true, and_true]
    exact ⟨rfl, rfl⟩

theorem Image.form_reader : Image.form.reader = Image.reader := rfl

/-- The images of a package. -/
def Package.imagesSlot : Slot PackageDraft :=
  .of "images" (·.images) (fun d v => { d with images := some v }) (fun _ _ => rfl)
    Image.form.decodes.list

/-- A package, by its members. -/
def Package.form : Form PackageDraft Package where
  slots :=
    [.of "id" (·.id) (fun d v => { d with id := some v }) (fun _ _ => rfl) .text,
     .of "name" (·.name) (fun d v => { d with name := some v }) (fun _ _ => rfl) .text,
     .of "description" (·.description) (fun d v => { d with description := some v })
       (fun _ _ => rfl) Decodes.text.optional,
     .of "chipFamily" (·.chipFamily) (fun d v => { d with chipFamily := some v })
       (fun _ _ => rfl) Decodes.text.optional,
     .of "flashSize" (·.flashSize) (fun d v => { d with flashSize := some v })
       (fun _ _ => rfl) Decodes.text.optional,
     .of "flashMode" (·.flashMode) (fun d v => { d with flashMode := some v })
       (fun _ _ => rfl) Decodes.text.optional,
     .of "flashFreq" (·.flashFreq) (fun d v => { d with flashFreq := some v })
       (fun _ _ => rfl) Decodes.text.optional,
     .of "eraseAll" (·.eraseAll) (fun d v => { d with eraseAll := some v })
       (fun _ _ => rfl) Decodes.truth.optional,
     imagesSlot]
  empty := .empty
  finish := PackageDraft.package?
  apart := by
    simp only [List.pairwise_cons, List.forall_mem_cons, List.not_mem_nil, false_implies,
      implies_true, List.Pairwise.nil, and_true]
    and_intros <;>
      exact Slot.of_apart (by decide) (fun _ _ _ => rfl) (fun _ _ => rfl) (fun _ _ => rfl)
  vacant := by
    simp only [List.forall_mem_cons, List.not_mem_nil, false_implies, implies_true, and_true]
    and_intros <;> rfl

theorem Package.imagesSlot_mem : Package.imagesSlot ∈ Package.form.slots := by
  simp [Package.form]

theorem Package.form_reader : Package.form.reader = Package.reader := rfl

/-- The packages of a manifest. -/
def Manifest.packagesSlot : Slot ManifestDraft :=
  .of "packages" (·.packages) (fun d v => { d with packages := some v }) (fun _ _ => rfl)
    Package.form.decodes.list

/-- A manifest, by its members. -/
def Manifest.form : Form ManifestDraft Manifest where
  slots :=
    [.of "defaultBaud" (·.defaultBaud) (fun d v => { d with defaultBaud := some v })
       (fun _ _ => rfl) (Decodes.natural baudBound).optional,
     packagesSlot]
  empty := ⟨none, none⟩
  finish d := some d.manifest
  apart := by
    simp only [List.pairwise_cons, List.forall_mem_cons, List.not_mem_nil, false_implies,
      implies_true, List.Pairwise.nil, and_true]
    exact Slot.of_apart (by decide) (fun _ _ _ => rfl) (fun _ _ => rfl) (fun _ _ => rfl)
  vacant := by
    simp only [List.forall_mem_cons, List.not_mem_nil, false_implies, implies_true, and_true]
    exact ⟨rfl, rfl⟩

theorem Manifest.packagesSlot_mem : Manifest.packagesSlot ∈ Manifest.form.slots := by
  simp [Manifest.form]

theorem Manifest.form_reader : Manifest.form.reader = Manifest.reader := rfl

namespace Layer

/-- A record of a kind that is being read. -/
def Draft : Layer → Type
  | .manifest => ManifestDraft
  | .package => PackageDraft
  | .image => ImageDraft

/-- A record of a kind. -/
def Record : Layer → Type
  | .manifest => Manifest
  | .package => Package
  | .image => Image

/-- A kind of record, by its members. -/
def form : (l : Layer) → Form l.Draft l.Record
  | .manifest => Manifest.form
  | .package => Package.form
  | .image => Image.form

theorem known_eq (l : Layer) : l.known = l.form.slots.map (·.field.name) := by
  cases l <;> rfl

/-- A record can do without the members that may be `null`. -/
theorem spares {l : Layer} : ∀ slot ∈ l.form.slots, slot.field.name ∈ l.optional →
    l.form.Spares slot := by
  cases l with
  | manifest =>
    refine List.forall_mem_cons.mpr ⟨fun _ => Form.spares_optional _ ?_,
      List.forall_mem_singleton.mpr fun h => absurd h (by decide)⟩
    intro r free
    cases r
    cases free
    rfl
  | package =>
    show ∀ slot ∈ Package.form.slots, _
    simp only [Package.form, List.forall_mem_cons, List.not_mem_nil, false_implies, implies_true,
      and_true]
    refine ⟨fun h => absurd h (by decide), fun h => absurd h (by decide),
      fun _ => Form.spares_optional _ ?_, fun _ => Form.spares_optional _ ?_,
      fun _ => Form.spares_optional _ ?_, fun _ => Form.spares_optional _ ?_,
      fun _ => Form.spares_optional _ ?_, fun _ => Form.spares_optional _ ?_,
      fun h => absurd h (by decide)⟩ <;>
    · intro r free
      cases r
      cases free
      rfl
  | image => exact fun _ _ h => nomatch h

theorem optional_known {l : Layer} {key : String} (h : key ∈ l.optional) :
    ∃ slot ∈ l.form.slots, slot.field.name = key := by
  have known : ∀ key ∈ l.optional, key ∈ l.known := by cases l <;> decide
  exact List.mem_map.mp (l.known_eq ▸ known key h)

/-- How the records that are listed are written does not matter, as long as they are read alike. -/
theorem take_listed {l l' : Layer} {key : String} (h : l.lists = some (key, l')) {t t' : Tree}
    (same : l'.form.decode t = l'.form.decode t') : ∃ slot ∈ l.form.slots, slot.field.name = key ∧
      ∀ (front back : List Tree) (r : l.Draft),
        slot.take r (.list (front ++ t :: back)) = slot.take r (.list (front ++ t' :: back)) := by
  cases l with
  | manifest =>
    cases h
    exact ⟨_, Manifest.packagesSlot_mem, rfl, fun _ _ => Slot.take_list same⟩
  | package =>
    cases h
    exact ⟨_, Package.imagesSlot_mem, rfl, fun _ _ => Slot.take_list same⟩
  | image => cases h

end Layer

/-- **Nothing is read otherwise for being written otherwise.** -/
theorem Recast.decode_eq {l : Layer} {t t' : Tree} (h : Recast l t t') :
    l.form.decode t = l.form.decode t' := by
  induction h with
  | refl => rfl
  | symm _ ih => exact ih.symm
  | trans _ _ ih ih' => exact ih.trans ih'
  | @perm l _ _ h => exact l.form.object_perm h
  | @unknown l _ _ _ _ name unknown =>
    exact (l.form.object_unknown name (l.known_eq ▸ unknown)).symm
  | @null l _ _ _ name optional absent =>
    obtain ⟨slot, member, rfl⟩ := Layer.optional_known optional
    exact (l.form.object_null member (Layer.spares slot member optional) name absent).symm
  | @item l _ _ _ _ front back _ _ name lists _ ih =>
    obtain ⟨slot, member, rfl, same⟩ := Layer.take_listed lists ih
    exact l.form.object_congr member name (same front back)

theorem Manifest.read_ok {s : List UInt8} {m : Manifest} :
    Manifest.read s = .ok m ↔ Json.document Manifest.form.reader s = .ok m := by
  rw [Manifest.read, ← Manifest.form_reader]
  cases Json.document Manifest.form.reader s <;> simp [Except.mapError]

theorem Package.read_ok {s : List UInt8} {p : Package} :
    Package.read s = .ok p ↔ Json.document Package.form.reader s = .ok p := by
  rw [Package.read, ← Package.form_reader]
  cases Json.document Package.form.reader s <;> simp [Except.mapError]

theorem PackageDraft.images_of_package? {d : PackageDraft} {p : Package} (h : d.package? = some p) :
    p.images = d.images.getD [] := by
  obtain ⟨id, -, h⟩ := Option.bind_eq_some_iff.mp h
  obtain ⟨name, -, h⟩ := Option.bind_eq_some_iff.mp h
  cases h
  rfl

/-- **A manifest is read by the names of its members**: what is accepted is a document, and however
that is written otherwise, it is the same manifest. Its packages are the items of its list of
packages, each on its own and in the order of the document, and so are the images of each. -/
theorem manifest_recast {s : List UInt8} {m : Manifest} (h : Manifest.read s = .ok m) :
    (∃ t, IsDocument t s) ∧ ∀ t, IsDocument t s →
      (∀ t' s', Recast .manifest t t' → IsDocument t' s' → Manifest.read s' = .ok m) ∧
      ∀ ms, t = .object ms → Lists ms "packages" (fun u p => ReadAs Package.read u p ∧
        ∀ ms', u = .object ms' →
          Lists ms' "images" (ReadAs (Json.document Image.reader)) p.images) m.packages := by
  rw [Manifest.read_ok] at h
  refine ⟨Manifest.form.decodes.isDocument h, fun t doc => ?_⟩
  have decoded := (Manifest.form.decodes.document_agrees doc).mp h
  refine ⟨fun t' s' recast doc' => ?_, ?_⟩
  · rw [Manifest.read_ok, Manifest.form.decodes.document_agrees doc']
    exact (recast.decode_eq (l := .manifest)).symm.trans decoded
  · rintro ms rfl
    obtain ⟨d, fold, finish⟩ := Option.bind_eq_some_iff.mp decoded
    cases finish
    have listed := Manifest.form.fold_list Manifest.packagesSlot_mem fold
    refine listed.imp doc fun u sp docp p package => ⟨⟨⟨sp, docp⟩, fun s' doc' => ?_⟩, ?_⟩
    · exact Package.read_ok.mpr ((Package.form.decodes.document_agrees doc').mpr package)
    rintro ms' rfl
    obtain ⟨d', fold', finish'⟩ := Option.bind_eq_some_iff.mp package
    rw [PackageDraft.images_of_package? finish']
    have listed := Package.form.fold_list Package.imagesSlot_mem fold'
    exact listed.imp docp fun v si doci i image =>
      ⟨⟨si, doci⟩, fun s' doc' => (Image.form.decodes.document_agrees doc').mpr image⟩

/-- A manifest of one package. -/
def blinkAlone : Manifest where
  defaultBaud := none
  packages := [⟨"blink", "Blink", none, none, none, none, none, none, []⟩]

/-- What is written for it, with a member that nobody knows, one that is `null`, and the members of
the package in another order. -/
def blinkAnnotated : Json :=
  .obj [("$schema", .obj [("version", .num 2)]), ("defaultBaud", .null),
    ("packages", .arr [.obj [("name", .str "Blink"), ("images", .arr []), ("id", .str "blink")]])]

/-- The annotated manifest is read as the one without annotations. -/
theorem blink_annotated :
    Manifest.read (printed .tight 0 blinkAlone.toJson) = .ok blinkAlone ∧
      Manifest.read (printed .roomy 0 blinkAnnotated) = .ok blinkAlone := by
  have document (l : Layout) (v : Json) : IsDocument (tree v) (printed l 0 v) :=
    ⟨[], by simpa using spells_printed l 0 .nil [] v, rfl⟩
  have read := blinkAlone.read_printed .tight
  have members : Recast .package
      (tree (.obj [("id", .str "blink"), ("name", .str "Blink"), ("images", .arr [])]))
      (tree (.obj [("name", .str "Blink"), ("images", .arr []), ("id", .str "blink")])) :=
    .perm (List.perm_append_singleton _ [_, _]).symm
  have recast : Recast .manifest (tree blinkAlone.toJson) (tree blinkAnnotated) := by
    refine ((Recast.item [] [] (textOf?_body "packages") rfl members).trans
      (.null (k := body "defaultBaud") (textOf?_body _) (by decide) ?_)).trans
      (.unknown _ (textOf?_body "$schema") (by decide))
    simp [named, textOf?_body, treeMembers]
  exact ⟨read, ((manifest_recast read).2 _ (document _ _)).1 _ _ recast (document _ _)⟩

end FlashStation
