/-
# How commands end

A command that is run ends in one of four ways: it did what was asked for; what was asked for is
missing, unknown or cannot be written; the operator took no port; or something it needed failed.
Each way has its exit code. The standard output is used by the first alone, and only for a document
of data if such a one was asked for: it is a single document, which says that all is well.

Key definitions: `Command.wantsData`, `Misused`, `Cancelled`, `Failed`, `Report.Tells`,
`Report.verdict`.
Key theorems: `Report.out_reads`, `Misused.code`, `Cancelled.code`, `Failed.code`,
`Command.ends`, `ending_contract`.
-/
import FlashStation.Proofs.Layouts
import FlashStation.Proofs.Offers
import FlashStation.Proofs.Preview
import FlashStation.Shell.Run

namespace FlashStation

open Program

/-! ### What goes to the standard output -/

namespace Report

/-- Reads of a document whether it says that all is well: its member `ok`, which must be there. -/
def verdict : Json.Reader Bool :=
  Json.record [.of "ok" id (fun _ b => some b) Json.truth] none id

/-- A report of data says that all is well. -/
theorem verdict_reads (data : List (String × Json)) :
    Json.Reads verdict (.obj [("data", .obj data), ("ok", .bool true)]) true :=
  .record (.unknown rfl (.known rfl rfl (Json.Reads.truth true).fill .nil)) rfl

/-- Who reads a report of data gets from the standard output what the report has for him. -/
theorem out_document {α : Type} {item : Json.Reader α} {data : List (String × Json)} {a : α}
    (h : Json.Reads item (.obj [("data", .obj data), ("ok", .bool true)]) a) :
    Json.document item (Text.Utf8.encode (ofData data).out) = .ok a := by
  have written : Text.Utf8.encode (ofData data).out =
      Json.printed .roomy 0 (.obj [("data", .obj data), ("ok", .bool true)]) ++
        [Json.code '\n'] := by
    rw [Json.printed_roomy, ofData, out, Text.Utf8.encode, String.toList_append,
      Text.Utf8.encodeChars_append, Json.indented, String.toList_ofList]
    rfl
  rw [written]
  exact h.document .roomy 0 (.single (by decide))

/-- **A report of data goes to the standard output as a single document that says that all is
well.** -/
theorem out_reads (data : List (String × Json)) :
    Json.document verdict (Text.Utf8.encode (ofData data).out) = .ok true :=
  out_document (verdict_reads data)

/-- A report tells data or lines, as was asked for. -/
def Tells (data : Bool) (report : Report) : Prop :=
  if data then ∃ members, report = ofData members else ∃ list, report = .lines list

end Report

/-- Whether a command was asked for data that other programs read. -/
def Command.wantsData : Command → Bool
  | .listPorts json _ | .catalog json | .plan _ json => json
  | .reclaim => false

/-! ### Why commands fail -/

section
variable {σ : Type} (shell : (op : ShellOp) → σ → op.Answer × σ)

/-- The manifest below a base, as it is fetched and read. -/
def Shell.manifest (root : Base) (s : σ) : Except FetchFault Manifest :=
  (shell (.fetch root manifestPath) s).1.bind Manifest.read

/-- The handler after the manifest was fetched. -/
def Shell.afterManifest (root : Base) (s : σ) : σ :=
  (shell (.fetch root manifestPath) s).2

variable (settings : Settings) (base : String) (wish : PortWish) (s : σ)

/-- What was selected to be brought back, and where the handler is left. -/
def Shell.selected : (Except SelectFault NativePort × Dock) × σ :=
  (selectPort .empty wish settings.filters).run shell (wish.announce.run shell s).2

/-- What was asked for is missing, unknown or cannot be written. -/
inductive Misused : Command → Prop where
  /-- There is no manifest to look a package up in. -/
  | noCatalog {root : Base} {fault : FetchFault} {id : String} {json : Bool} :
      Base.ofText base = .ok root → Shell.manifest shell root s = .error fault →
      Misused (.plan (.package id) json)
  /-- The manifest has no such package. -/
  | unknownPackage {root : Base} {m : Manifest} {id : String} {json : Bool} :
      Base.ofText base = .ok root → Shell.manifest shell root s = .ok m →
      (∀ p ∈ m.packages, p.id ≠ id) → Misused (.plan (.package id) json)
  /-- The first package of that name cannot be written. -/
  | package {root : Base} {m : Manifest} {p : Package} {fault : ChoiceFault} {id : String}
      {json : Bool} :
      Base.ofText base = .ok root → Shell.manifest shell root s = .ok m →
      m.packages.find? (·.id == id) = some p → (Choice.catalog (some p)).resolve = .error fault →
      Misused (.plan (.package id) json)
  /-- The file cannot be written to where it should be. -/
  | file {picked : CustomFile} {fault : ChoiceFault} {json : Bool} :
      (Choice.custom picked).resolve = .error fault → Misused (.plan (.file picked) json)
  /-- There is no port to choose. -/
  | noPort : wish.port = none → (Shell.offer shell settings.filters s).1 = [] → Misused .reclaim
  /-- There are several ports, and nobody can be asked which one is meant. -/
  | severalPorts : wish.port = none → wish.screen = none →
      2 ≤ (Shell.offer shell settings.filters s).1.length → Misused .reclaim

/-- An operator was asked for a port and took none of those that were offered. -/
inductive Cancelled : Command → Prop where
  /-- The answer to the prompt names none of them. -/
  | prompt {width : Nat} {offered : List DetectedPort} {s' : σ} :
      wish.port = none → wish.screen = some width →
      Shell.offer shell settings.filters s = (offered, s') → offered ≠ [] →
      (shell (.prompt (menuLabels width offered) ((bestCandidate offered).getD 0)) s').1.bind
        (offered[·]?) = none →
      Cancelled .reclaim

/-- Something that was needed failed. -/
inductive Failed : Command → Prop where
  /-- The base of the catalog that is to be listed makes no sense. -/
  | catalogBase {fault : FetchFault} {json : Bool} :
      Base.ofText base = .error fault → Failed (.catalog json)
  /-- The base of the catalog that has the package makes no sense. -/
  | packageBase {fault : FetchFault} {id : String} {json : Bool} :
      Base.ofText base = .error fault → Failed (.plan (.package id) json)
  /-- The base makes no sense, although the file to plan needs none. -/
  | fileBase {fault : FetchFault} {picked : CustomFile} {source : Source} {json : Bool} :
      (Choice.custom picked).resolve = .ok source → Base.ofText base = .error fault →
      Failed (.plan (.file picked) json)
  /-- An image of the package cannot be had. -/
  | image {root : Base} {m : Manifest} {p : Package} {source : Source} {fault : FetchFault}
      {id : String} {json : Bool} :
      Base.ofText base = .ok root → Shell.manifest shell root s = .ok m →
      m.packages.find? (·.id == id) = some p → (Choice.catalog (some p)).resolve = .ok source →
      ((materialize source).run (Supply.served shell root) (Shell.afterManifest shell root s)).1 =
        .error fault →
      Failed (.plan (.package id) json)
  /-- The file cannot be had. -/
  | file {root : Base} {picked : CustomFile} {source : Source} {fault : FetchFault} {json : Bool} :
      (Choice.custom picked).resolve = .ok source → Base.ofText base = .ok root →
      ((materialize source).run (Supply.served shell root) s).1 = .error fault →
      Failed (.plan (.file picked) json)
  /-- The port that was selected cannot be opened. -/
  | busy {port : NativePort} {dock : Dock} {fault : PortFault} {s' : σ} :
      Shell.selected shell settings wish s = ((.ok port, dock), s') →
      ((openSelected (Config.default.withVendors settings.vendors) port dock).run shell s').1.1 =
        .error fault →
      Failed .reclaim
  /-- The port was opened, and cannot be released. -/
  | stuck {port : NativePort} {dock dock' : Dock} {fault : ReclaimFault} {s' s'' : σ} :
      Shell.selected shell settings wish s = ((.ok port, dock), s') →
      (openSelected (Config.default.withVendors settings.vendors) port dock).run shell s' =
        ((.ok (), dock'), s'') →
      ((closeSelected (Config.default.withVendors settings.vendors) port dock').run shell
        s'').1.1 = .error fault →
      Failed .reclaim

end

/-! ### Listing packages and planning -/

section
variable {σ : Type} {shell : (op : ShellOp) → σ → op.Answer × σ} {base : String} {root : Base}
  {s : σ} {id : String}

/-- The catalog that is loaded is that of the manifest. -/
theorem catalogLoad_ok {m : Manifest} (h : Shell.manifest shell root s = .ok m) :
    (Shell.below root Catalog.load).run shell s =
      (.ofManifest m, Shell.afterManifest shell root s) := by
  have read : ((Supply.fetch manifestPath).run (Supply.served shell root) s).1.bind Manifest.read =
      .ok m := h
  rw [Shell.below_run, Catalog.load, bind_def, run_bind]
  simp only [read]
  rfl

/-- Without a manifest, the catalog that is loaded has a warning. -/
theorem catalogLoad_error {fault : FetchFault} (h : Shell.manifest shell root s = .error fault) :
    ((Shell.below root Catalog.load).run shell s).1 =
      .unavailable fault (root.locate manifestPath) := by
  have read : ((Supply.fetch manifestPath).run (Supply.served shell root) s).1.bind Manifest.read =
      .error fault := h
  rw [Shell.below_run, Catalog.load, bind_def, run_bind]
  simp only [read]
  rfl

theorem loadCatalog_run (hb : Base.ofText base = .ok root) :
    (loadCatalog base).run shell s =
      (.ok ((Shell.below root Catalog.load).run shell s).1,
        ((Shell.below root Catalog.load).run shell s).2) := by
  unfold loadCatalog
  rw [hb]
  show ((Shell.below root Catalog.load).bind _).run shell s = _
  rw [run_bind]
  rfl

theorem loadCatalog_badBase {fault : FetchFault} (hb : Base.ofText base = .error fault) :
    loadCatalog base = pure (.error (.badBase base fault)) := by
  unfold loadCatalog
  rw [hb]

/-- Listing packages fails if and only if the base makes no sense. -/
theorem listPackages_run (shell : (op : ShellOp) → σ → op.Answer × σ) (base : String) (s : σ)
    (json : Bool) :
    match Base.ofText base with
    | .error fault => ((listPackages base json).run shell s).1 = .error (.badBase base fault)
    | .ok _ => ∃ report, ((listPackages base json).run shell s).1 = .ok report ∧
        report.Tells json := by
  unfold listPackages
  cases hb : Base.ofText base with
  | error fault =>
    rw [loadCatalog_badBase hb]
    rfl
  | ok root =>
    simp only [bind_def, run_bind, loadCatalog_run hb]
    refine ⟨_, rfl, ?_⟩
    cases json
    · exact ⟨_, rfl⟩
    · exact ⟨_, rfl⟩

/-! #### The package of a plan -/

theorem packageChoice_badBase {fault : FetchFault} (hb : Base.ofText base = .error fault) :
    ((PlanSource.package id).choice base).run shell s = (.error (.badBase base fault), s) := by
  unfold PlanSource.choice
  rw [loadCatalog_badBase hb]
  rfl

theorem packageChoice_noCatalog {fault : FetchFault} (hb : Base.ofText base = .ok root)
    (h : Shell.manifest shell root s = .error fault) :
    (((PlanSource.package id).choice base).run shell s).1 =
      .error (.noCatalog (fault.warning (root.locate manifestPath))) := by
  unfold PlanSource.choice
  simp only [bind_def, run_bind, loadCatalog_run hb, catalogLoad_error h]
  rfl

theorem packageChoice_unknown {m : Manifest} (hb : Base.ofText base = .ok root)
    (h : Shell.manifest shell root s = .ok m) (unknown : m.packages.find? (·.id == id) = none) :
    (((PlanSource.package id).choice base).run shell s).1 = .error (.unknownPackage id) := by
  have found : (Catalog.ofManifest m).find? id = none := unknown
  unfold PlanSource.choice
  simp only [bind_def, run_bind, loadCatalog_run hb, catalogLoad_ok h, found]
  rfl

theorem packageChoice_found {m : Manifest} {p : Package} (hb : Base.ofText base = .ok root)
    (h : Shell.manifest shell root s = .ok m) (known : m.packages.find? (·.id == id) = some p) :
    ((PlanSource.package id).choice base).run shell s =
      (.ok (.catalog (some p)), Shell.afterManifest shell root s) := by
  have found : (Catalog.ofManifest m).find? id = some p := known
  unfold PlanSource.choice
  simp only [bind_def, run_bind, loadCatalog_run hb, catalogLoad_ok h, found]
  rfl

/-! #### What is planned -/

theorem plan_noChoice {wanted : PlanSource} {fault : CommandFault} (json quiet : Bool)
    (h : ((wanted.choice base).run shell s).1 = .error fault) :
    ((plan base wanted json quiet).run shell s).1 = .error fault := by
  unfold plan
  rw [bind_def, run_bind, h]
  rfl

/-- What a plan comes to, once it is known what is to be planned. -/
theorem plan_choice (wanted : PlanSource) {choice : Choice} {s' : σ} (json quiet : Bool)
    (h : (wanted.choice base).run shell s = (.ok choice, s')) :
    ((plan base wanted json quiet).run shell s).1 =
      match choice.resolve with
      | .error fault => .error (.choice fault)
      | .ok source =>
        match Base.ofText base with
        | .error fault => .error (.badBase base fault)
        | .ok root =>
          match ((materialize source).run (Supply.served shell root) s').1 with
          | .error fault => .error (.payload fault)
          | .ok payload =>
            .ok (.planned json quiet source.label payload.params payload.flashedFiles) := by
  rw [plan_run json quiet h]
  cases resolved : choice.resolve with
  | error fault =>
    unfold planChoice
    rw [resolved]
    rfl
  | ok source =>
    cases hb : Base.ofText base with
    | error fault =>
      unfold planChoice
      rw [resolved, hb]
      rfl
    | ok root =>
      rw [planChoice_run hb resolved]
      cases made : ((materialize source).run (Supply.served shell root) s').1 <;>
        simp only [made] <;> rfl

theorem Report.planned_tells (json quiet : Bool) (label : String) (params : FlashParams)
    (files : List FlashedFile) : (Report.planned json quiet label params files).Tells json := by
  cases json
  · exact ⟨_, rfl⟩
  · exact ⟨_, rfl⟩

end

/-! ### Bringing a port back -/

section
variable {σ : Type} {shell : (op : ShellOp) → σ → op.Answer × σ} {settings : Settings}
  {wish : PortWish} {s : σ}

theorem reclaimPort_selected (shell : (op : ShellOp) → σ → op.Answer × σ)
    (settings : Settings) (wish : PortWish) (s : σ) :
    ((reclaimPort settings wish).run shell s).1 =
      ((reclaimFrom settings wish (Shell.selected shell settings wish s).1).run shell
        (Shell.selected shell settings wish s).2).1 := by
  rw [reclaimPort_eq, run_bind, run_bind]
  rfl

/-- A fixed port is always selected. -/
theorem selected_fixed (shell : (op : ShellOp) → σ → op.Answer × σ)
    (settings : Settings) (s : σ) {name : String} (h : wish.port = some name) :
    ∃ port dock s', Shell.selected shell settings wish s = ((.ok port, dock), s') := by
  obtain ⟨port, screen⟩ := wish
  cases h
  have requested (s : σ) : ∃ port dock s',
      (requestPort .empty ⟨some name, screen⟩ settings.filters).run shell s =
        ((.ok port, dock), s') := by
    unfold requestPort
    rw [bind_def, run_bind]
    exact ⟨_, _, _, rfl⟩
  obtain ⟨port, dock, s', run⟩ := requested ((PortWish.announce ⟨some name, screen⟩).run shell s).2
  refine ⟨port, dock, s', ?_⟩
  unfold Shell.selected selectPort
  rw [bind_def, run_bind, run]
  rfl

/-- Without a fixed port, the port is selected that the wish picks of those that are offered. -/
theorem selected_free (h : wish.port = none) :
    Shell.selected shell settings wish s =
      let offered := Shell.offer shell settings.filters s
      if offered.1.isEmpty then ((.error .noCompatibleDevice, .empty), offered.2)
      else (Dock.empty.take (wish.picked shell offered),
        ((wish.pick offered.1).run shell offered.2).2) := by
  obtain ⟨port, screen⟩ := wish
  cases h
  exact selectBy_run (PortWish.pick ⟨none, screen⟩) .empty settings.filters s

end

/-! ### How a command ends -/

/-- Runs a command with what its options and the settings come to. -/
def Command.program (settings : Settings) (base : String) (wish : PortWish) (quiet : Bool) :
    Command → Program Shell (Except CommandFault Report)
  | .listPorts json all => do pure (.ok (← FlashStation.listPorts settings json all))
  | .catalog json => listPackages base json
  | .plan source json => FlashStation.plan base source json quiet
  | .reclaim => reclaimPort settings wish

theorem Invocation.runWith_program (i : Invocation) (screen : Option Nat) (settings : Settings) :
    i.runWith screen settings =
      i.command.program settings (i.base settings) (i.portWish settings screen) i.quiet := by
  unfold Invocation.runWith
  cases i.command <;> rfl

section
variable {σ : Type} {shell : (op : ShellOp) → σ → op.Answer × σ} {settings : Settings}
  {base : String} {wish : PortWish} {quiet : Bool} {s : σ} {c : Command}

/-- What a command comes to fails with an exit code. -/
def FailsWith (code : Nat) (result : Except CommandFault Report) : Prop :=
  ∃ fault : CommandFault, result = .error fault ∧ fault.exitCode = code

theorem Misused.code (quiet : Bool) (h : Misused shell settings base wish s c) :
    FailsWith 2 ((c.program settings base wish quiet).run shell s).1 := by
  cases h with
  | noCatalog hb none =>
    exact ⟨_, plan_noChoice _ _ (packageChoice_noCatalog hb none), rfl⟩
  | @unknownPackage root m id json hb read unknown =>
    have none : m.packages.find? (·.id == id) = none :=
      List.find?_eq_none.mpr fun p hp => by simpa using unknown p hp
    exact ⟨_, plan_noChoice _ _ (packageChoice_unknown hb read none), rfl⟩
  | @package root m p fault id json hb read known invalid =>
    refine ⟨.choice fault, (plan_choice _ _ _ (packageChoice_found hb read known)).trans ?_, rfl⟩
    rw [invalid]
  | @file picked fault json invalid =>
    refine ⟨.choice fault, (plan_choice (.file picked) _ _ rfl).trans ?_, rfl⟩
    rw [invalid]
  | noPort free none =>
    obtain ⟨port, screen⟩ := wish
    cases free
    exact ⟨_, (reclaimPort_noPorts settings screen).mpr none, rfl⟩
  | severalPorts free alone several =>
    obtain ⟨port, screen⟩ := wish
    cases free
    cases alone
    exact ⟨_, (reclaimPort_severalPorts settings).mpr several, rfl⟩

theorem Cancelled.code (base : String) (quiet : Bool) (h : Cancelled shell settings wish s c) :
    FailsWith 130 ((c.program settings base wish quiet).run shell s).1 := by
  cases h with
  | @prompt width offered s' free operator offers there declined =>
    obtain ⟨port, screen⟩ := wish
    cases free
    cases operator
    have picked : PortWish.picked ⟨none, some width⟩ shell (offered, s') = none := declined
    have run := reclaimPort_run shell s settings (some width)
    simp only [offers, List.isEmpty_iff, there, if_false, picked, Option.isSome_some,
      if_true] at run
    exact ⟨.cancelled, run, rfl⟩

theorem Failed.code (quiet : Bool) (h : Failed shell settings base wish s c) :
    FailsWith 1 ((c.program settings base wish quiet).run shell s).1 := by
  cases h with
  | @catalogBase fault json hb =>
    have run := listPackages_run shell base s json
    rw [hb] at run
    exact ⟨_, run, rfl⟩
  | packageBase hb =>
    exact ⟨_, plan_noChoice _ _ (congrArg Prod.fst (packageChoice_badBase hb)), rfl⟩
  | @fileBase fault picked source json valid hb =>
    refine ⟨.badBase base fault, (plan_choice (.file picked) _ _ rfl).trans ?_, rfl⟩
    rw [valid, hb]
  | @image root m p source fault id json hb read known valid missing =>
    refine ⟨.payload fault, (plan_choice _ _ _ (packageChoice_found hb read known)).trans ?_, rfl⟩
    rw [valid, hb]
    simp only [missing]
  | @file root picked source fault json valid hb missing =>
    refine ⟨.payload fault, (plan_choice (.file picked) _ _ rfl).trans ?_, rfl⟩
    rw [valid, hb]
    simp only [missing]
  | @busy port dock fault s' selected shut =>
    have run := reclaimPort_selected shell settings wish s
    rw [selected, reclaimFrom, reclaimSelected_run] at run
    rcases opened : (openSelected (Config.default.withVendors settings.vendors) port dock).run
      shell s' with ⟨⟨_, _⟩, _⟩
    simp only [opened] at shut run
    subst shut
    exact ⟨_, run, rfl⟩
  | @stuck port dock dock' fault s' s'' selected opened stuck =>
    have run := reclaimPort_selected shell settings wish s
    rw [selected, reclaimFrom, reclaimSelected_run] at run
    simp only [opened, stuck] at run
    exact ⟨_, run, rfl⟩

/-- Why no port was selected. -/
theorem unselected {fault : SelectFault} {dock : Dock} {s' : σ}
    (h : Shell.selected shell settings wish s = ((.error fault, dock), s')) :
    Misused shell settings base wish s .reclaim ∨ Cancelled shell settings wish s .reclaim := by
  cases free : wish.port with
  | some name =>
    obtain ⟨port, dock', s'', selected⟩ := selected_fixed shell settings s free
    rw [h] at selected
    cases selected
  | none =>
    rcases offers : Shell.offer shell settings.filters s with ⟨offered, s1⟩
    rw [selected_free free, offers] at h
    by_cases there : offered = []
    · exact .inl (.noPort free (there ▸ congrArg Prod.fst offers))
    · simp only [List.isEmpty_iff, there, if_false] at h
      cases picked : wish.picked shell (offered, s1) with
      | some p =>
        rw [picked] at h
        cases h
      | none =>
        obtain ⟨port, screen⟩ := wish
        cases free
        cases screen with
        | some width => exact .inr (.prompt rfl rfl offers there picked)
        | none =>
          -- neither none nor one
          have several : 2 ≤ offered.length := by
            match offered with
            | [] => exact absurd rfl there
            | [p] =>
              have alone := (PortWish.picked_alone shell ([p], s1) p).mpr rfl
              rw [picked] at alone
              cases alone
            | p :: q :: rest => simp
          exact .inl (.severalPorts rfl rfl (by rw [offers]; exact several))

/-- Why a plan does not report what was to be planned, once that is known. -/
theorem plan_ends {wanted : PlanSource} {choice : Choice} {s' : σ} (json quiet : Bool)
    (h : (wanted.choice base).run shell s = (.ok choice, s')) :
    (∃ report, ((plan base wanted json quiet).run shell s).1 = .ok report ∧ report.Tells json) ∨
    (∃ fault, choice.resolve = .error fault) ∨
    ∃ source, choice.resolve = .ok source ∧
      ((∃ fault, Base.ofText base = .error fault) ∨
        ∃ root fault, Base.ofText base = .ok root ∧
          ((materialize source).run (Supply.served shell root) s').1 = .error fault) := by
  rw [plan_choice _ json quiet h]
  cases choice.resolve with
  | error fault => exact .inr (.inl ⟨fault, rfl⟩)
  | ok source =>
    cases Base.ofText base with
    | error fault => exact .inr (.inr ⟨source, rfl, .inl ⟨fault, rfl⟩⟩)
    | ok root =>
      cases made : ((materialize source).run (Supply.served shell root) s').1 with
      | error fault => exact .inr (.inr ⟨source, rfl, .inr ⟨root, fault, rfl, made⟩⟩)
      | ok payload =>
        simp only [made]
        exact .inl ⟨_, rfl, Report.planned_tells ..⟩

variable (shell settings base wish s) in
/-- A command is accounted for: it works, or it was misused, it was cancelled or something failed. -/
def Command.Accounted (quiet : Bool) (c : Command) : Prop :=
  (∃ report, ((c.program settings base wish quiet).run shell s).1 = .ok report ∧
    report.Tells c.wantsData) ∨
  Misused shell settings base wish s c ∨ Cancelled shell settings wish s c ∨
    Failed shell settings base wish s c

theorem listPorts_accounted (quiet json all : Bool) :
    Command.Accounted shell settings base wish s quiet (.listPorts json all) := by
  have run : ((Command.program settings base wish quiet (.listPorts json all)).run shell s).1 =
      .ok ((FlashStation.listPorts settings json all).run shell s).1 := by
    show (((FlashStation.listPorts settings json all).bind _).run shell s).1 = _
    rw [run_bind]
    rfl
  refine .inl ⟨_, run, ?_⟩
  rw [listPorts_run]
  cases json <;> exact ⟨_, rfl⟩

theorem catalog_accounted (quiet json : Bool) :
    Command.Accounted shell settings base wish s quiet (.catalog json) := by
  have run := listPackages_run shell base s json
  cases hb : Base.ofText base with
  | error fault => exact .inr (.inr (.inr (.catalogBase hb)))
  | ok root =>
    rw [hb] at run
    exact .inl run

theorem planFile_accounted (quiet json : Bool) (picked : CustomFile) :
    Command.Accounted shell settings base wish s quiet (.plan (.file picked) json) := by
  have known : ((PlanSource.file picked).choice base).run shell s =
      (.ok (.custom picked), s) := rfl
  obtain told | ⟨fault, invalid⟩ | ⟨source, valid, ⟨fault, hb⟩ | ⟨root, fault, hb, missing⟩⟩ :=
    plan_ends json quiet known
  · exact .inl told
  · exact .inr (.inl (.file invalid))
  · exact .inr (.inr (.inr (.fileBase valid hb)))
  · exact .inr (.inr (.inr (.file valid hb missing)))

theorem planPackage_accounted (quiet json : Bool) (id : String) :
    Command.Accounted shell settings base wish s quiet (.plan (.package id) json) := by
  cases hb : Base.ofText base with
  | error fault => exact .inr (.inr (.inr (.packageBase hb)))
  | ok root =>
    cases read : Shell.manifest shell root s with
    | error fault => exact .inr (.inl (.noCatalog hb read))
    | ok m =>
      cases found : m.packages.find? (·.id == id) with
      | none =>
        refine .inr (.inl (.unknownPackage hb read fun p hp => ?_))
        simpa using List.find?_eq_none.mp found p hp
      | some p =>
        obtain told | ⟨fault, invalid⟩ |
          ⟨source, valid, ⟨fault, hb'⟩ | ⟨root', fault, hb', missing⟩⟩ :=
            plan_ends json quiet (packageChoice_found hb read found)
        · exact .inl told
        · exact .inr (.inl (.package hb read found invalid))
        · rw [hb] at hb'
          cases hb'
        · rw [hb] at hb'
          cases hb'
          exact .inr (.inr (.inr (.image hb read found valid missing)))

theorem reclaim_accounted (quiet : Bool) :
    Command.Accounted shell settings base wish s quiet .reclaim := by
  have run := reclaimPort_selected shell settings wish s
  rcases selected : Shell.selected shell settings wish s with ⟨⟨fault | port, dock⟩, s'⟩
  · exact .inr ((unselected selected).imp_right .inl)
  · rw [selected, reclaimFrom, reclaimSelected_run] at run
    rcases opened : (openSelected (Config.default.withVendors settings.vendors) port dock).run
      shell s' with ⟨⟨fault | _, dock'⟩, s''⟩
    · exact .inr (.inr (.inr (.busy selected (congrArg (·.1.1) opened))))
    · cases closed : ((closeSelected (Config.default.withVendors settings.vendors) port dock').run
        shell s'').1.1 with
      | error fault => exact .inr (.inr (.inr (.stuck selected opened closed)))
      | ok _ =>
        simp only [opened, closed] at run
        exact .inl ⟨_, run, [], rfl⟩

/-- **A command does what was asked for, or there is a reason why it does not.** -/
theorem Command.ends (shell : (op : ShellOp) → σ → op.Answer × σ) (settings : Settings)
    (base : String) (wish : PortWish) (quiet : Bool) (s : σ) (c : Command) :
    (∃ report, ((c.program settings base wish quiet).run shell s).1 = .ok report ∧
      report.Tells c.wantsData) ∨
    Misused shell settings base wish s c ∨ Cancelled shell settings wish s c ∨
      Failed shell settings base wish s c :=
  match c with
  | .listPorts json all => listPorts_accounted quiet json all
  | .catalog json => catalog_accounted quiet json
  | .plan (.file picked) json => planFile_accounted quiet json picked
  | .plan (.package id) json => planPackage_accounted quiet json id
  | .reclaim => reclaim_accounted quiet

end

/-- The settings that hold for a command, and where the handler is left when they are loaded. -/
def Invocation.loaded {σ : Type} (i : Invocation) (env : Environment)
    (shell : (op : ShellOp) → σ → op.Answer × σ) (s : σ) : Settings × σ :=
  (Settings.load i.config (Settings.globalPath env.configHome env.home)).run shell
    ((Shell.note .debug .program
      s!"{programName} v{programVersion} (verbose level: {Text.decimal i.verbosity})").run
        shell s).2

theorem Invocation.run_program {σ : Type} (i : Invocation) (env : Environment) (screen : Option Nat)
    (shell : (op : ShellOp) → σ → op.Answer × σ) (s : σ) :
    ((i.run env screen).run shell s).1 =
      ((i.command.program (i.loaded env shell s).1 (i.base (i.loaded env shell s).1)
        (i.portWish (i.loaded env shell s).1 screen) i.quiet).run shell
          (i.loaded env shell s).2).1 := by
  unfold Invocation.run
  rw [bind_def, run_bind, bind_def, run_bind, Invocation.runWith_program]
  rfl

theorem FailsWith.ending {code : Nat} {result : Except CommandFault Report}
    (h : FailsWith code result) :
    (Ending.ofResult result).code = code ∧ (Ending.ofResult result).out = "" := by
  obtain ⟨fault, rfl, rfl⟩ := h
  exact ⟨rfl, rfl⟩

/-- A report of data goes to the standard output, and one of lines does not. -/
theorem Report.Tells.out {data : Bool} {report : Report} (h : report.Tells data) :
    (report.out ≠ "" ↔ data = true) ∧
      (report.out ≠ "" → Json.document verdict (Text.Utf8.encode report.out) = .ok true) := by
  cases data with
  | false =>
    obtain ⟨list, rfl⟩ := h
    exact ⟨by simp [Report.out], fun some => absurd rfl some⟩
  | true =>
    obtain ⟨members, rfl⟩ := h
    have some : (Report.ofData members).out ≠ "" := by
      intro none
      have empty := congrArg String.toList none
      simp [Report.ofData, Report.out] at empty
    exact ⟨⟨fun _ => rfl, fun _ => some⟩, fun _ => out_reads members⟩

/-- Four ways to end, which are all there are, are told apart by their codes. -/
theorem told_apart {code : Nat} {worked misused cancelled failed : Prop}
    (ends : worked ∨ misused ∨ cancelled ∨ failed) (zero : worked → code = 0)
    (two : misused → code = 2) (hundredThirty : cancelled → code = 130) (one : failed → code = 1) :
    (code = 0 ↔ worked) ∧ (code = 2 ↔ misused) ∧ (code = 130 ↔ cancelled) ∧
      (code = 1 ↔ failed) ∧ (code = 1 ↔ ¬ worked ∧ ¬ misused ∧ ¬ cancelled) := by
  grind

/-- **How a command ends tells what came of it.** Whatever the command line, the settings, the
files, the ports and the operator are: the standard output is used if and only if the command worked
and was asked for data, and then it is a single document that says that all is well. The exit code
is 0 if and only if the command worked, 2 if and only if what was asked for is missing, unknown or
cannot be written, 130 if and only if an operator took no port, and 1 if and only if something else
failed, which is the base, the bytes, or the port that was selected. -/
theorem ending_contract {σ : Type} (shell : (op : ShellOp) → σ → op.Answer × σ) (s : σ)
    (i : Invocation) (env : Environment) (screen : Option Nat) :
    let result := ((i.run env screen).run shell s).1
    let ending := Ending.ofResult result
    let settings := (i.loaded env shell s).1
    let ready := (i.loaded env shell s).2
    let base := i.base settings
    let wish := i.portWish settings screen
    let misused := Misused shell settings base wish ready i.command
    let cancelled := Cancelled shell settings wish ready i.command
    let failed := Failed shell settings base wish ready i.command
    (ending.out ≠ "" ↔ ending.code = 0 ∧ i.command.wantsData = true) ∧
    (ending.out ≠ "" → Json.document Report.verdict (Text.Utf8.encode ending.out) = .ok true) ∧
    (ending.code = 0 ↔ ∃ report, result = .ok report) ∧
    (ending.code = 2 ↔ misused) ∧
    (ending.code = 130 ↔ cancelled) ∧
    (ending.code = 1 ↔ failed) ∧
    (ending.code = 1 ↔ ¬ (∃ report, result = .ok report) ∧ ¬ misused ∧ ¬ cancelled) := by
  intro result ending settings ready base wish misused cancelled failed
  have run := i.run_program env screen shell s
  have ends := Command.ends shell settings base wish i.quiet ready i.command
  have misuse (h : misused) : ending.code = 2 ∧ ending.out = "" := by
    have fails := (Misused.code i.quiet h).ending
    rwa [← run] at fails
  have cancel (h : cancelled) : ending.code = 130 ∧ ending.out = "" := by
    have fails := (Cancelled.code base i.quiet h).ending
    rwa [← run] at fails
  have fail (h : failed) : ending.code = 1 ∧ ending.out = "" := by
    have fails := (Failed.code i.quiet h).ending
    rwa [← run] at fails
  have work (h : ∃ report, result = .ok report) : ending.code = 0 := by
    obtain ⟨report, worked⟩ := h
    exact congrArg (fun r => (Ending.ofResult r).code) worked
  rw [← run] at ends
  have silent (h : misused ∨ cancelled ∨ failed) : ending.code ≠ 0 ∧ ending.out = "" := by
    rcases h with h | h | h
    · exact (misuse h).imp_left (by omega)
    · exact (cancel h).imp_left (by omega)
    · exact (fail h).imp_left (by omega)
  have told : (ending.out ≠ "" ↔ ending.code = 0 ∧ i.command.wantsData = true) ∧
      (ending.out ≠ "" →
        Json.document Report.verdict (Text.Utf8.encode ending.out) = .ok true) := by
    rcases ends with ⟨report, worked, tells⟩ | h
    · have out : ending.out = report.out := congrArg (fun r => (Ending.ofResult r).out) worked
      rw [out]
      exact tells.out.imp_left fun h => h.trans (and_iff_right (work ⟨report, worked⟩)).symm
    · obtain ⟨code, out⟩ := silent h
      exact ⟨⟨fun some => absurd out some, fun h => absurd h.1 code⟩, fun some => absurd out some⟩
  exact ⟨told.1, told.2, told_apart (ends.imp_left fun ⟨report, worked, _⟩ => ⟨report, worked⟩) work
    (misuse · |>.1) (cancel · |>.1) (fail · |>.1)⟩

/-- Asked for data, the list of the ports of a machine is a document that says that all is well. -/
theorem ports_told_as_data :
    let env : Environment := ⟨none, none, none, none, none, none, none, none, none⟩
    let i : Invocation := ⟨none, none, 0, false, true, none, .listPorts true false⟩
    let ending := Ending.ofResult ((i.run env none).run boardAndChip ()).1
    ending.code = 0 ∧ ending.out ≠ "" ∧
      Json.document Report.verdict (Text.Utf8.encode ending.out) = .ok true := by
  intro env i ending
  obtain ⟨told, document, -⟩ := ending_contract boardAndChip () i env none
  have code : ending.code = 0 := rfl
  have some : ending.out ≠ "" := told.mpr ⟨code, rfl⟩
  exact ⟨code, some, document some⟩

end FlashStation
