/-
# A manifest is read back as it was written

What is written for an image, a package or a manifest fills its record with what it has, whether
or not the members that may be left out are there. So a manifest that is written and read again is
the same manifest; and reading whatever document, writing what was read and reading that comes to
what the first reading came to.

Key theorems: `Json.Filled.memberIfSome`, `Package.reads`, `Manifest.reads`, `manifest_round_trip`.
-/
import Mathlib.Data.List.Forall2
import FlashStation.Image.Package
import FlashStation.Proofs.Layouts

namespace FlashStation

open Json

/-- A member that is left out when there is no value fills the place of a field with what there is;
`put` gives the record with that place in it. -/
theorem Json.Filled.memberIfSome {σ α β : Type} {fields : List (Field σ)} {name : String}
    {f : β → Json} {item : Reader α} {value : β → α} {get : σ → Option (Option α)}
    {set : σ → Option α → σ} (put : Option (Option α) → σ)
    (found : fields.find? (·.name == name) = some (.of name get set (optional item)))
    (vacant : (get (put none)).isSome = false) (sets : ∀ x, set (put none) x = put (some x))
    (reads : ∀ b, Reads item (f b) (value b)) (there : ∀ b, f b ≠ .null) (o : Option β) :
    Filled fields (put none) (Json.memberIfSome name f o)
      (put (o.map fun b => some (value b))) := by
  cases o with
  | none => exact .nil
  | some b => exact .known found vacant (sets _ ▸ ((reads b).present (there b)).fill) .nil

/-- Items that are written one by one are read one by one. -/
theorem Json.reads_items {α : Type} {item : Reader α} {f : α → Json}
    (h : ∀ a, Reads item (f a) a) (as : List α) : Reads (Json.list item) (.arr (as.map f)) as :=
  .list (List.forall₂_map_left_iff.mpr (List.forall₂_same.mpr fun a _ => h a))

/-- What is written for an image is read as that image. -/
theorem Image.reads (i : Image) : Reads Image.reader i.toJson i :=
  .record (.known rfl rfl (Reads.text i.path).fill
    (.known rfl rfl (Reads.text i.address).fill .nil)) rfl

/-- What is written for a package is read as that package. -/
theorem Package.reads (p : Package) : Reads Package.reader p.toJson p := by
  let d0 : PackageDraft := { PackageDraft.empty with id := some p.id, name := some p.name }
  have required : Filled PackageDraft.fields .empty [("id", .str p.id), ("name", .str p.name)] d0 :=
    .known rfl rfl (Reads.text p.id).fill (.known rfl rfl (Reads.text p.name).fill .nil)
  -- the members that may be left out, each into what was filled before it
  let d1 := { d0 with description := p.description.map some }
  have description : Filled PackageDraft.fields d0
      (memberIfSome "description" .str p.description) d1 :=
    .memberIfSome (fun x => { d0 with description := x }) rfl rfl (fun _ => rfl) Reads.text nofun
      p.description
  let d2 := { d1 with chipFamily := p.chipFamily.map some }
  have chipFamily : Filled PackageDraft.fields d1
      (memberIfSome "chipFamily" .str p.chipFamily) d2 :=
    .memberIfSome (fun x => { d1 with chipFamily := x }) rfl rfl (fun _ => rfl) Reads.text nofun
      p.chipFamily
  let d3 := { d2 with flashSize := p.flashSize.map some }
  have flashSize : Filled PackageDraft.fields d2
      (memberIfSome "flashSize" .str p.flashSize) d3 :=
    .memberIfSome (fun x => { d2 with flashSize := x }) rfl rfl (fun _ => rfl) Reads.text nofun
      p.flashSize
  let d4 := { d3 with flashMode := p.flashMode.map some }
  have flashMode : Filled PackageDraft.fields d3
      (memberIfSome "flashMode" .str p.flashMode) d4 :=
    .memberIfSome (fun x => { d3 with flashMode := x }) rfl rfl (fun _ => rfl) Reads.text nofun
      p.flashMode
  let d5 := { d4 with flashFreq := p.flashFreq.map some }
  have flashFreq : Filled PackageDraft.fields d4
      (memberIfSome "flashFreq" .str p.flashFreq) d5 :=
    .memberIfSome (fun x => { d4 with flashFreq := x }) rfl rfl (fun _ => rfl) Reads.text nofun
      p.flashFreq
  let d6 := { d5 with eraseAll := p.eraseAll.map some }
  have eraseAll : Filled PackageDraft.fields d5
      (memberIfSome "eraseAll" .bool p.eraseAll) d6 :=
    .memberIfSome (fun x => { d5 with eraseAll := x }) rfl rfl (fun _ => rfl) Reads.truth nofun
      p.eraseAll
  have images : Filled PackageDraft.fields d6 [("images", .arr (p.images.map Image.toJson))]
      { d6 with images := some p.images } :=
    .known rfl rfl (reads_items Image.reads p.images).fill .nil
  refine .record ((((((required.append description).append chipFamily).append flashSize).append
    flashMode).append flashFreq).append eraseAll |>.append images) ?_
  have there {α : Type} (o : Option α) : (o.map some).join = o := by cases o <;> rfl
  simp [PackageDraft.package?, d6, d5, d4, d3, d2, d1, d0, there]

/-- What is written for a manifest is read as that manifest. -/
theorem Manifest.reads (m : Manifest) : Reads Manifest.reader m.toJson m := by
  let d0 : ManifestDraft := ⟨none, none⟩
  let d1 := { d0 with defaultBaud := m.defaultBaud.map fun b : UInt32 => some b.toNat }
  have baud (b : UInt32) : Reads (Json.natural baudBound) (.num b.toNat) b.toNat :=
    .natural b.toNat_lt (by decide)
  have defaultBaud : Filled ManifestDraft.fields d0
      (memberIfSome "defaultBaud" (fun b => .num b.toNat) m.defaultBaud) d1 :=
    .memberIfSome (fun x => { d0 with defaultBaud := x }) rfl rfl (fun _ => rfl) baud nofun
      m.defaultBaud
  have packages : Filled ManifestDraft.fields d1
      [("packages", .arr (m.packages.map Package.toJson))]
      { d1 with packages := some m.packages } :=
    .known rfl rfl (reads_items Package.reads m.packages).fill .nil
  refine .record (defaultBaud.append packages) ?_
  have same : (m.defaultBaud.map fun b => some b.toNat).join.map UInt32.ofNat = m.defaultBaud := by
    cases m.defaultBaud with
    | none => rfl
    | some b => exact congrArg some UInt32.ofNat_toNat
  simp [ManifestDraft.manifest, d1, same]

/-- A manifest is read from any layout of what is written for it. -/
theorem Manifest.read_printed (m : Manifest) (l : Layout) :
    Manifest.read (printed l 0 m.toJson) = .ok m := by
  have whole := m.reads.document l 0 .nil
  rw [List.append_nil] at whole
  rw [Manifest.read, whole]
  rfl

/-- **A manifest is read back as it was written**, in either written form; and reading again what
was read and written is no different from reading it once. -/
theorem manifest_round_trip :
    (∀ m : Manifest, Manifest.read m.write = .ok m ∧
      Manifest.read (Text.Utf8.encode m.toJson.indented) = .ok m) ∧
    ∀ document, ((Manifest.read document).bind fun m => Manifest.read m.write) =
      Manifest.read document := by
  have written (m : Manifest) : Manifest.read m.write = .ok m := by
    rw [Manifest.write, ← printed_tight 0]
    exact m.read_printed .tight
  refine ⟨fun m => ⟨written m, ?_⟩, fun document => ?_⟩
  · rw [Text.Utf8.encode, indented, String.toList_ofList, ← printed_roomy 0]
    exact m.read_printed .roomy
  · cases Manifest.read document with
    | error fault => rfl
    | ok m => exact written m

end FlashStation
