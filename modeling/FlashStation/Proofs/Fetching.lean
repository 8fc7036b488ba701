/-
# From a choice to a payload

A choice is resolved without fetching anything: it comes to a source, or the first check that
fails says why not. A source is materialized by asking for its images in the order of writing,
each once, up to the first that cannot be had; the talk of the program tells what was asked for and
what came back.

Key definitions: `requests`, `Choice.Resolves`, `Choice.declared`, `Source.declared`, `Obtains`.
Key theorems: `Choice.resolve_iff`, `materialize_obtains`, `resolve_materialize`.
-/
import Mathlib.Data.List.Forall2
import FlashStation.Proofs.Talk
import FlashStation.Shell.Images

namespace FlashStation

/-! ### What is asked for -/

/-- A request for bytes, and what came of it. -/
abbrev Supply.Request := SupplyOp × Except FetchFault (List UInt8)

/-- An exchange as a request for bytes, if it is one. -/
def Exchange.request? : Exchange Supply → Option Supply.Request
  | ⟨.fetch path, answer⟩ => some (.fetch path, answer)
  | ⟨.readLocal path, answer⟩ => some (.readLocal path, answer)
  | ⟨.locate _, _⟩ | ⟨.log _ _, _⟩ | ⟨.note _, _⟩ => none

/-- The requests for bytes in a talk. -/
def requests (talk : List (Exchange Supply)) : List Supply.Request :=
  talk.filterMap Exchange.request?

/-- What a source asks for, and the flash address it is for. -/
def Source.declared : Source → List (SupplyOp × UInt32)
  | .catalog _ images _ => images.map fun i => (.fetch i.path, i.address)
  | .custom file address _ => [(.readLocal file, address)]

/-- What a choice asks for, and the flash address as it is written. -/
def Choice.declared : Choice → List (SupplyOp × String)
  | .catalog package => (package.elim [] (·.images)).map fun i => (.fetch i.path, i.address)
  | .custom picked => picked.file.toList.map fun file => (.readLocal file, picked.address)

/-- The parameters that a choice declares. -/
def Choice.params : Choice → Option FlashParams
  | .catalog package => package.map (·.params)
  | .custom picked => some picked.params

/-- Images are asked for in order, up to the first that cannot be had. -/
inductive Obtains : List (SupplyOp × UInt32) → List Supply.Request →
    Except FetchFault (List FlashFile) → Prop where
  | nothing : Obtains [] [] (.ok [])
  | fails {op : SupplyOp} {address : UInt32} {rest : List (SupplyOp × UInt32)}
      (fault : FetchFault) : Obtains ((op, address) :: rest) [(op, .error fault)] (.error fault)
  | goesOn {op : SupplyOp} {address : UInt32} {rest : List (SupplyOp × UInt32)}
      {asked : List Supply.Request} {r : Except FetchFault (List FlashFile)} (data : List UInt8)
      (h : Obtains rest asked r) :
      Obtains ((op, address) :: rest) ((op, .ok data) :: asked) (r.map (⟨data, address⟩ :: ·))

section
variable {declared : List (SupplyOp × UInt32)} {asked : List Supply.Request}

/-- If all are had, there is a file for each image, with its bytes and its address. -/
theorem Obtains.all {files : List FlashFile} (h : Obtains declared asked (.ok files)) :
    asked = (declared.map (·.1)).zip (files.map fun f => .ok f.data) ∧
      files.map (·.address) = declared.map (·.2) := by
  generalize hr : Except.ok files = r at h
  induction h generalizing files with
  | nothing =>
    cases hr
    exact ⟨rfl, rfl⟩
  | fails => cases hr
  | @goesOn op address rest asked r data _ ih =>
    cases r with
    | error fault => cases hr
    | ok later =>
      cases hr
      obtain ⟨same, addresses⟩ := ih rfl
      exact ⟨by rw [List.map_cons, List.map_cons, List.zip_cons_cons, ← same],
        by rw [List.map_cons, List.map_cons, addresses]⟩

/-- If one is not had, the ones before it are, and no later one is asked for. -/
theorem Obtains.first_failure {fault : FetchFault} (h : Obtains declared asked (.error fault)) :
    ∃ before bad after, ∃ data : List (List UInt8), declared = before ++ bad :: after ∧
      data.length = before.length ∧
      asked = (before.map (·.1)).zip (data.map .ok) ++ [(bad.1, .error fault)] := by
  generalize hr : Except.error fault = r at h
  induction h with
  | nothing => cases hr
  | @fails op address rest =>
    cases hr
    exact ⟨[], (op, address), rest, [], rfl, rfl, rfl⟩
  | @goesOn op address rest asked r data _ ih =>
    cases r with
    | ok later => cases hr
    | error _ =>
      cases hr
      obtain ⟨before, bad, after, later, rfl, length, rfl⟩ := ih rfl
      exact ⟨(op, address) :: before, bad, after, data :: later, rfl, by simp [length], rfl⟩

/-- It comes to files if and only if every request is answered with bytes. -/
theorem Obtains.ok_iff {r : Except FetchFault (List FlashFile)} (h : Obtains declared asked r) :
    (∃ files, r = .ok files) ↔ ∀ a ∈ asked, ∃ data, a.2 = .ok data := by
  induction h with
  | nothing => simp
  | fails fault => simp
  | @goesOn op address rest asked r data _ ih =>
    rw [List.forall_mem_cons, ← ih]
    cases r <;> simp [Except.map]

end

theorem fetchImages_obtains (images : List PlacedImage) {talk : List (Exchange Supply)}
    {r : Except FetchFault (List FlashFile)} (h : (fetchImages images).Yields talk r) :
    Obtains (images.map fun i => (.fetch i.path, i.address)) (requests talk) r := by
  induction images generalizing talk r with
  | nil =>
    obtain ⟨rfl, rfl⟩ := h.done_inv
    exact .nothing
  | cons image rest ih =>
    obtain ⟨location, _, rfl, h1⟩ := Program.Yields.call_inv (S := Supply) (.locate image.path) h
    obtain ⟨_, _, rfl, h2⟩ := Program.Yields.call_inv (S := Supply) (.log _ _) h1
    obtain ⟨answer, _, rfl, h3⟩ := Program.Yields.call_inv (S := Supply) (.fetch image.path) h2
    cases answer with
    | error fault =>
      obtain ⟨rfl, rfl⟩ := h3.done_inv
      exact .fails fault
    | ok data =>
      obtain ⟨later, before, after, rfl, first, h4⟩ :=
        Program.Yields.bind_inv (p := fetchImages rest) h3
      have more : Obtains ((.fetch image.path, image.address) :: _) _ _ := .goesOn data (ih first)
      cases later <;> obtain ⟨rfl, rfl⟩ := h4.done_inv <;>
        exact (List.append_nil before).symm ▸ more

/-- A source is materialized by asking for what it declares. -/
theorem materialize_obtains (source : Source) {talk : List (Exchange Supply)}
    {r : Except FetchFault Payload} (h : (materialize source).Yields talk r) :
    ∃ files, Obtains source.declared (requests talk) files ∧
      r = files.map fun files => ⟨files, source.params⟩ := by
  cases source with
  | catalog package images params =>
    obtain ⟨files, before, after, rfl, first, h1⟩ := Program.Yields.bind_inv h
    have obtained := fetchImages_obtains images first
    cases files <;> obtain ⟨rfl, rfl⟩ := h1.done_inv <;>
      exact ⟨_, (List.append_nil before).symm ▸ obtained, rfl⟩
  | custom file address params =>
    obtain ⟨_, _, rfl, h1⟩ := Program.Yields.call_inv (S := Supply) (.log _ _) h
    obtain ⟨answer, _, rfl, h2⟩ := Program.Yields.call_inv (S := Supply) (.readLocal file) h1
    cases answer <;> obtain ⟨rfl, rfl⟩ := h2.done_inv
    · exact ⟨_, .fails _, rfl⟩
    · exact ⟨_, .goesOn _ .nothing, rfl⟩

/-! ### Resolving a choice -/

/-- Every parameter is one that an operator may choose. -/
def FlashParams.Offered (p : FlashParams) : Prop :=
  (∃ size, p.size = .known size) ∧ (∃ mode, p.mode = .known mode) ∧ ∃ freq, p.freq = .known freq

/-- What the parameters of a file come to: the first of size, mode and clock that is not on offer
is reported. -/
inductive FlashParams.Checked (p : FlashParams) : Except ChoiceFault Unit → Prop where
  | size {v : String} (h : p.size = .other v) : Checked p (.error (.badParam "flash size" v))
  | mode {size : SizeChoice} {v : String} (hs : p.size = .known size) (h : p.mode = .other v) :
      Checked p (.error (.badParam "flash mode" v))
  | freq {size : SizeChoice} {mode : ModeChoice} {v : String} (hs : p.size = .known size)
      (hm : p.mode = .known mode) (h : p.freq = .other v) :
      Checked p (.error (.badParam "flash frequency" v))
  | offered (h : p.Offered) : Checked p (.ok ())

/-- What a choice comes to. Of several faults the first is reported: no package, no images, the
first image whose address cannot be read; no file, the first parameter that is not on offer, an
address that cannot be read. -/
inductive Choice.Resolves : Choice → Except ChoiceFault Source → Prop where
  | noPackage : Resolves (.catalog none) (.error .noPackage)
  | noImages {package : Package} (h : package.images = []) :
      Resolves (.catalog (some package)) (.error (.noImages package.name))
  | badImage {package : Package} {before after : List Image} {bad : Image} {fault : ChoiceFault}
      (h : package.images = before ++ bad :: after)
      (hb : ∀ i ∈ before, ∃ address, parseAddress i.address = .ok address)
      (hf : parseAddress bad.address = .error fault) :
      Resolves (.catalog (some package)) (.error fault)
  | catalog {package : Package} {placed : List PlacedImage} (h : package.images ≠ [])
      (hp : List.Forall₂ (fun i p => p.path = i.path ∧ parseAddress i.address = .ok p.address)
        package.images placed) :
      Resolves (.catalog (some package)) (.ok (.catalog package placed package.params))
  | noFile {picked : CustomFile} (h : picked.file = none) :
      Resolves (.custom picked) (.error .noFile)
  | badParams {picked : CustomFile} {file : String} {fault : ChoiceFault}
      (h : picked.file = some file) (hc : picked.params.Checked (.error fault)) :
      Resolves (.custom picked) (.error fault)
  | badAddress {picked : CustomFile} {file : String} {fault : ChoiceFault}
      (h : picked.file = some file) (hc : picked.params.Offered)
      (hf : parseAddress picked.address = .error fault) : Resolves (.custom picked) (.error fault)
  | custom {picked : CustomFile} {file : String} {address : UInt32} (h : picked.file = some file)
      (hc : picked.params.Offered) (ha : parseAddress picked.address = .ok address) :
      Resolves (.custom picked) (.ok (.custom file address picked.params))

/-- A choice that can be written. -/
def Choice.Writable : Choice → Prop
  | .catalog package => ∃ p, package = some p ∧ p.images ≠ [] ∧
      ∀ i ∈ p.images, ∃ address, parseAddress i.address = .ok address
  | .custom picked => picked.file.isSome = true ∧ picked.params.Offered ∧
      ∃ address, parseAddress picked.address = .ok address

theorem Image.place_ok_iff (i : Image) (p : PlacedImage) :
    i.place = .ok p ↔ p.path = i.path ∧ parseAddress i.address = .ok p.address := by
  obtain ⟨path, address⟩ := p
  unfold Image.place
  cases parseAddress i.address with
  | error fault => simp [bind, Except.bind]
  | ok a => simp [bind, Except.bind, pure, Except.pure, eq_comm]

theorem Image.place_error_iff (i : Image) (fault : ChoiceFault) :
    i.place = .error fault ↔ parseAddress i.address = .error fault := by
  unfold Image.place
  cases parseAddress i.address with
  | error fault' => simp [bind, Except.bind]
  | ok a => simp [bind, Except.bind, pure, Except.pure]

section
variable {α β ε : Type} {f : α → Except ε β}

theorem mapM_ok_iff {items : List α} {results : List β} :
    items.mapM f = .ok results ↔ List.Forall₂ (fun a b => f a = .ok b) items results := by
  induction items generalizing results with
  | nil => cases results <;> simp [pure, Except.pure]
  | cons a rest ih =>
    rw [List.mapM_cons]
    cases h : f a with
    | error e => cases results <;> simp [bind, Except.bind, h]
    | ok b =>
      cases hr : rest.mapM f with
      | error e => cases results <;> simp [bind, Except.bind, ← ih, hr, h]
      | ok bs => cases results <;> simp [bind, Except.bind, pure, Except.pure, ← ih, hr, h]

/-- The first item that fails decides. -/
theorem mapM_error_iff {items : List α} {e : ε} :
    items.mapM f = .error e ↔ ∃ before bad after, items = before ++ bad :: after ∧
      (∀ a ∈ before, ∃ b, f a = .ok b) ∧ f bad = .error e := by
  induction items with
  | nil => simp [pure, Except.pure]
  | cons a rest ih =>
    rw [List.mapM_cons]
    constructor
    · intro h
      cases ha : f a with
      | error e' =>
        rw [ha] at h
        cases h
        exact ⟨[], a, rest, rfl, List.forall_mem_nil _, ha⟩
      | ok b =>
        have later : rest.mapM f = .error e := by
          cases hr : rest.mapM f with
          | error e' =>
            rw [ha, hr] at h
            cases h
            rfl
          | ok bs =>
            rw [ha, hr] at h
            cases h
        obtain ⟨before, bad, after, rfl, good, hb⟩ := ih.mp later
        exact ⟨a :: before, bad, after, rfl, List.forall_mem_cons.mpr ⟨⟨b, ha⟩, good⟩, hb⟩
    · rintro ⟨before, bad, after, split, good, hb⟩
      cases before with
      | nil =>
        cases split
        rw [hb]
        rfl
      | cons a' before =>
        cases split
        obtain ⟨⟨b, ha⟩, good⟩ := List.forall_mem_cons.mp good
        rw [ha, ih.mpr ⟨before, bad, after, rfl, good, hb⟩]
        rfl

end

theorem FlashParams.checked_iff (p : FlashParams) (r : Except ChoiceFault Unit) :
    p.checkChoices = r ↔ p.Checked r := by
  obtain ⟨size, mode, freq, erase⟩ := p
  constructor
  · rintro rfl
    cases size with
    | other v => exact .size rfl
    | known size =>
      cases mode with
      | other v => exact .mode rfl rfl
      | known mode =>
        cases freq with
        | other v => exact .freq rfl rfl rfl
        | known freq => exact .offered ⟨⟨size, rfl⟩, ⟨mode, rfl⟩, ⟨freq, rfl⟩⟩
  · intro h
    cases h with
    | size h => subst h; rfl
    | mode hs h => subst hs h; rfl
    | freq hs hm h => subst hs hm h; rfl
    | offered h =>
      obtain ⟨⟨_, rfl⟩, ⟨_, rfl⟩, ⟨_, rfl⟩⟩ := h
      rfl

/-- A package resolves to its images in order, or to the fault of the first bad one. -/
theorem Choice.resolve_package {package : Package} (h : package.images ≠ []) :
    (Choice.catalog (some package)).resolve =
      (package.images.mapM Image.place).map fun images =>
        .catalog package images package.params := by
  have some : package.images.isEmpty = false := by simpa using h
  simp only [Choice.resolve, some, Bool.false_eq_true, if_false]
  cases package.images.mapM Image.place <;> rfl

theorem Choice.resolve_package_iff {package : Package} (h : package.images ≠ [])
    (r : Except ChoiceFault Source) :
    (Choice.catalog (some package)).resolve = r ↔ (Choice.catalog (some package)).Resolves r := by
  rw [resolve_package h]
  constructor
  · rintro rfl
    cases hm : package.images.mapM Image.place with
    | error fault =>
      obtain ⟨before, bad, after, split, good, hb⟩ := mapM_error_iff.mp hm
      refine .badImage split (fun i hi => ?_) ((bad.place_error_iff _).mp hb)
      obtain ⟨p, hp⟩ := good i hi
      exact ⟨p.address, ((i.place_ok_iff p).mp hp).2⟩
    | ok placed =>
      exact .catalog h ((mapM_ok_iff.mp hm).imp fun i p => (i.place_ok_iff p).mp)
  · intro hr
    cases hr with
    | noImages none => exact absurd none h
    | @badImage _ before after bad fault split good hb =>
      have placed : ∀ i ∈ before, ∃ p, Image.place i = .ok p := fun i hi =>
        (good i hi).imp' (fun a => ⟨i.path, a⟩) fun a ha => (i.place_ok_iff _).mpr ⟨rfl, ha⟩
      rw [mapM_error_iff.mpr ⟨before, bad, after, split, placed, (bad.place_error_iff _).mpr hb⟩]
      rfl
    | catalog _ hp =>
      rw [mapM_ok_iff.mpr (hp.imp fun i p => (i.place_ok_iff p).mpr)]
      rfl

theorem Choice.resolve_file {picked : CustomFile} {file : String} (h : picked.file = some file) :
    (Choice.custom picked).resolve = (picked.params.checkChoices).bind fun _ =>
      (parseAddress picked.address).map fun address => .custom file address picked.params := by
  simp only [Choice.resolve, h]
  cases picked.params.checkChoices with
  | error fault => rfl
  | ok _ => cases parseAddress picked.address <;> rfl

theorem Choice.resolve_file_iff {picked : CustomFile} {file : String} (h : picked.file = some file)
    (r : Except ChoiceFault Source) :
    (Choice.custom picked).resolve = r ↔ (Choice.custom picked).Resolves r := by
  rw [resolve_file h]
  constructor
  · rintro rfl
    cases hc : picked.params.checkChoices with
    | error fault => exact .badParams h ((picked.params.checked_iff _).mp hc)
    | ok u =>
      have offered : picked.params.Offered := by
        cases (picked.params.checked_iff _).mp hc with
        | offered h => exact h
      cases ha : parseAddress picked.address with
      | error fault => exact .badAddress h offered ha
      | ok address => exact .custom h offered ha
  · intro hr
    cases hr with
    | noFile none =>
      rw [h] at none
      cases none
    | badParams _ hc =>
      rw [(picked.params.checked_iff _).mpr hc]
      rfl
    | badAddress _ hc hf =>
      rw [(picked.params.checked_iff _).mpr (.offered hc), hf]
      rfl
    | custom h' hc ha =>
      rw [h] at h'
      cases h'
      rw [(picked.params.checked_iff _).mpr (.offered hc), ha]
      rfl

/-- **The checks of a choice, in their order.** -/
theorem Choice.resolve_iff (choice : Choice) (r : Except ChoiceFault Source) :
    choice.resolve = r ↔ choice.Resolves r := by
  cases choice with
  | catalog package =>
    cases package with
    | none =>
      refine ⟨fun h => h ▸ .noPackage, fun h => ?_⟩
      cases h
      rfl
    | some package =>
      by_cases none : package.images = []
      · refine ⟨fun h => ?_, fun h => ?_⟩
        · subst h
          simp only [Choice.resolve, none, List.isEmpty_nil, if_true]
          exact .noImages none
        · cases h with
          | noImages => simp only [Choice.resolve, none, List.isEmpty_nil, if_true]
          | badImage split => simp [none] at split
          | catalog some => exact absurd none some
      · exact resolve_package_iff none r
  | custom picked =>
    cases hf : picked.file with
    | none =>
      refine ⟨fun h => ?_, fun h => ?_⟩
      · subst h
        simp only [Choice.resolve, hf]
        exact .noFile hf
      · cases h with
        | noFile => simp only [Choice.resolve, hf]
        | badParams h | badAddress h | custom h =>
          rw [hf] at h
          cases h
    | some file => exact resolve_file_iff hf r

/-- **A choice resolves if and only if it can be written.** -/
theorem Choice.resolve_ok_iff (choice : Choice) :
    (∃ source, choice.resolve = .ok source) ↔ choice.Writable := by
  constructor
  · rintro ⟨source, h⟩
    cases (choice.resolve_iff _).mp h with
    | @catalog package placed some hp =>
      refine ⟨package, rfl, some, fun i hi => ?_⟩
      obtain ⟨n, here, rfl⟩ := List.getElem_of_mem hi
      have here' : n < placed.length := hp.length_eq ▸ here
      exact ⟨_, (hp.get here here').2⟩
    | custom hf hc ha => exact ⟨by rw [hf]; rfl, hc, _, ha⟩
  · intro h
    cases choice with
    | catalog package =>
      obtain ⟨package, rfl, some, good⟩ := h
      -- no image fails, so placing all of them does not
      cases hm : package.images.mapM Image.place with
      | ok placed => exact ⟨_, by rw [resolve_package some, hm]; rfl⟩
      | error fault =>
        obtain ⟨before, bad, after, split, _, hb⟩ := mapM_error_iff.mp hm
        obtain ⟨address, ha⟩ := good bad (by rw [split]; simp)
        rw [Image.place_error_iff, ha] at hb
        cases hb
    | custom picked =>
      obtain ⟨some, offered, address, ha⟩ := h
      obtain ⟨file, hf⟩ := Option.isSome_iff_exists.mp some
      exact ⟨_, (resolve_iff _ _).mpr (.custom hf offered ha)⟩

theorem map_eq_map {α β γ : Type} {R : α → β → Prop} {f : α → γ} {g : β → γ} {as : List α}
    {bs : List β} (h : List.Forall₂ R as bs) (hR : ∀ a b, R a b → f a = g b) :
    as.map f = bs.map g := by
  induction h with
  | nil => rfl
  | cons first _ ih => rw [List.map_cons, List.map_cons, hR _ _ first, ih]

/-- A source declares what its choice declares, with the addresses read. -/
theorem Choice.declared_source {choice : Choice} {source : Source}
    (h : choice.resolve = .ok source) :
    source.declared.map (·.1) = choice.declared.map (·.1) ∧
      source.declared.map (fun d => .ok d.2) = choice.declared.map (parseAddress ·.2) ∧
      some source.params = choice.params := by
  cases (choice.resolve_iff _).mp h with
  | @catalog package placed _ hp =>
    simp only [Source.declared, Choice.declared, Option.elim, List.map_map, Function.comp_def]
    refine ⟨?_, ?_, rfl⟩
    · exact (map_eq_map hp fun i p h => by rw [h.1]).symm
    · exact (map_eq_map hp fun i p h => h.2).symm
  | custom hf hc ha =>
    simp only [Source.declared, Choice.declared, hf, Option.toList, List.map_cons, List.map_nil, ha]
    exact ⟨trivial, trivial, rfl⟩

/-- **Resolve, then materialize.** A choice comes to a source if and only if it can be written, and
to the first fault otherwise; then nothing is asked for, as a plan shows. With any fetcher, a source
is materialized if and only if all that is asked for is had. Then what was asked for is what the
choice declares, in its order and each once, and the files have these bytes, the addresses as they
read and the declared parameters. Otherwise it is the first failure that is given back, and nothing
was asked for after it. -/
theorem resolve_materialize (choice : Choice) :
    (∀ r, choice.resolve = r ↔ choice.Resolves r) ∧
    ((∃ source, choice.resolve = .ok source) ↔ choice.Writable) ∧
    (∀ base fault, choice.resolve = .error fault →
      planChoice base choice = pure (.error (.choice fault))) ∧
    ∀ source, choice.resolve = .ok source →
      ∀ (σ : Type) (fetcher : (op : SupplyOp) → σ → op.Answer × σ) (s : σ),
        let asked := requests ((materialize source).talk fetcher s)
        let result := ((materialize source).run fetcher s).1
        ((∃ payload, result = .ok payload) ↔ ∀ a ∈ asked, ∃ data, a.2 = .ok data) ∧
        (∀ payload, result = .ok payload →
          asked = (choice.declared.map (·.1)).zip (payload.files.map fun f => .ok f.data) ∧
          payload.files.map (fun f => .ok f.address) = choice.declared.map (parseAddress ·.2) ∧
          some payload.params = choice.params) ∧
        ∀ fault, result = .error fault → ∃ before bad after, ∃ data : List (List UInt8),
          choice.declared.map (·.1) = before ++ bad :: after ∧ data.length = before.length ∧
          asked = before.zip (data.map .ok) ++ [(bad, .error fault)] := by
  refine ⟨choice.resolve_iff, choice.resolve_ok_iff, fun base fault h => ?_, ?_⟩
  · rw [planChoice, h]
  intro source h σ fetcher s asked result
  obtain ⟨same, addresses, params⟩ := Choice.declared_source h
  obtain ⟨files, obtained, (hr : result = _)⟩ := materialize_obtains source
    (Program.yields_run fetcher (materialize source) s)
  rw [hr, ← same, ← addresses, ← params]
  refine ⟨?_, fun payload ok => ?_, fun fault failed => ?_⟩
  · rw [← obtained.ok_iff]
    cases files <;> simp [Except.map]
  · cases files with
    | error fault => cases ok
    | ok files =>
      cases ok
      obtain ⟨talk, placed⟩ := obtained.all
      refine ⟨talk, ?_, rfl⟩
      simpa only [List.map_map, Function.comp_def] using
        congrArg (List.map (Except.ok : UInt32 → Except ChoiceFault UInt32)) placed
  · cases files with
    | ok files => cases failed
    | error fault =>
      cases failed
      obtain ⟨before, bad, after, data, split, length, talk⟩ := obtained.first_failure
      exact ⟨before.map (·.1), bad.1, after.map (·.1), data, by rw [split, List.map_append]; rfl,
        by rw [List.length_map, length], talk⟩

end FlashStation
