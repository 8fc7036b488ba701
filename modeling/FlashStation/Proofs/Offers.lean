/-
# The ports that are listed are the ports that are offered

A port is listed as known if its vendor is a known one or was added in the settings; it is offered
first if one of the filters lets it through, which are made of the same vendors on another way. Both
fall back to all ports when there is none of those. So whoever is to pick a port is handed what the
list shows, and without an operator a port is selected if and only if the list shows no other.

Key definitions: `selectBy`, `Dock.take`, `Shell.offer`, `PortWish.picked`,
`reclaimSelected`.
Key theorems: `passes_known`, `visiblePorts_offered`, `selectBy_run`, `Shell.offer_visible`,
`reclaimPort_run`, `reclaim_offers_listed`.
-/
import FlashStation.Proofs.Grants
import FlashStation.Proofs.Program
import FlashStation.Proofs.Vendors
import FlashStation.Shell.Ports

namespace FlashStation

open Program

/-! ### Known vendors and filters -/

/-- A port counts as known if its device has a vendor that is known or was added. -/
theorem isKnownPort_iff (vendors : List UInt16) (info : PortInfo) :
    isKnownPort vendors (.ofInfo info) = true ↔
      ∃ v, info.vid = some v ∧ (v ∈ knownVendors.map (·.1) ∨ v ∈ vendors) := by
  unfold isKnownPort DetectedPort.isAllowed DetectedPort.ofInfo
  cases info.vid with
  | none => simp [BoardKind.isKnown]
  | some v => simp [← BoardKind.isKnown_ofVendor]

/-- The filters that are made of the settings. -/
def Settings.filters (settings : Settings) : List UsbFilter :=
  (Config.default.withVendors settings.vendors).filters

/-- **The filters let through what counts as known.** -/
theorem passes_known (settings : Settings) (info : PortInfo) :
    passesFilters settings.filters info.vid info.pid =
      isKnownPort settings.vendors (.ofInfo info) := by
  have whole : WholeVendors settings.filters :=
    WholeVendors.addVendors (by unfold WholeVendors; decide) settings.vendors
  have known : Config.default.filters.map (·.vendor) = knownVendors.map (·.1) := by decide
  have named (v : UInt16) : v ∈ settings.filters.map (·.vendor) ↔
      v ∈ knownVendors.map (·.1) ∨ v ∈ settings.vendors := by
    rw [← known]
    exact mem_addVendors Config.default.filters settings.vendors v
  have some? : settings.filters ≠ [] := by
    intro none
    have espressif := (named 0x303A).mpr (.inl (by decide))
    rw [none] at espressif
    cases espressif
  rw [Bool.eq_iff_iff, whole.passes_iff some?, isKnownPort_iff]
  simp only [named]

/-- The ports of a machine, with the kinds that their vendors tell. -/
def portsOf (infos : List PortInfo) : List DetectedPort :=
  infos.map .ofInfo

/-- What passes the filters is what counts as known. -/
theorem candidatesOf_known (settings : Settings) (infos : List PortInfo) :
    candidatesOf settings.filters (portsOf infos) =
      (portsOf infos).filter (isKnownPort settings.vendors) := by
  refine List.filter_congr fun p hp => ?_
  obtain ⟨info, -, rfl⟩ := List.mem_map.mp hp
  exact passes_known settings info

theorem candidatesOf_nil (found : List DetectedPort) : candidatesOf [] found = found :=
  List.filter_eq_self.mpr fun _ _ => rfl

/-- **What is shown is what is offered:** what passes the filters, or all if nothing does. -/
theorem visiblePorts_offered (settings : Settings) (infos : List PortInfo) :
    visiblePorts settings.vendors false (portsOf infos) =
      if (candidatesOf settings.filters (portsOf infos)).isEmpty then portsOf infos
      else candidatesOf settings.filters (portsOf infos) := by
  rw [candidatesOf_known, visiblePorts, Bool.false_or]
  have none : ((portsOf infos).filter (isKnownPort settings.vendors)).isEmpty =
      !(portsOf infos).any (isKnownPort settings.vendors) := by
    rw [Bool.eq_iff_iff]
    simp [List.filter_eq_nil_iff]
  rw [none]

/-! ### Selecting with any chooser -/

/-- Asks for a port that passes the filters: a chooser is handed the ports that do, if there are
any. -/
def requestBy (choose : List DetectedPort → Program Shell (Option Nat)) (dock : Dock)
    (filters : List UsbFilter) : Program Shell (Except SelectFault NativePort × Dock) := do
  let found ← Shell.detect
  let candidates := candidatesOf filters found
  let picked ← if candidates.isEmpty then pure none else choose candidates
  pure (dock.request ⟨none, fun _ => picked, portTimeout⟩ filters found)

/-- Asks for a port that passes the filters, and if there is none for any port. -/
def selectBy (choose : List DetectedPort → Program Shell (Option Nat)) (dock : Dock)
    (filters : List UsbFilter) : Program Shell (Except SelectFault NativePort × Dock) := do
  match ← requestBy choose dock filters with
  | (.error .noCompatibleDevice, dock) => requestBy choose dock []
  | other => pure other

/-- Selecting without a fixed port is selecting with the chooser of the wish. -/
theorem selectPort_selectBy (dock : Dock) (screen : Option Nat) (filters : List UsbFilter) :
    selectPort dock ⟨none, screen⟩ filters =
      selectBy (PortWish.pick ⟨none, screen⟩) dock filters := rfl

/-- Takes the port that was picked, if one was. -/
def Dock.take (d : Dock) (picked : Option DetectedPort) : Except SelectFault NativePort × Dock :=
  match picked with
  | none => (.error .cancelled, d)
  | some p => (.ok (d.grant p.info portTimeout).1, (d.grant p.info portTimeout).2)

theorem Dock.request_take (d : Dock) (picked : Option Nat) (filters : List UsbFilter)
    (found : List DetectedPort) :
    d.request ⟨none, fun _ => picked, portTimeout⟩ filters found =
      if (candidatesOf filters found).isEmpty then (.error .noCompatibleDevice, d)
      else d.take (picked.bind ((candidatesOf filters found)[·]?)) := rfl

section
variable {σ : Type} (shell : (op : ShellOp) → σ → op.Answer × σ)

/-- What is offered of the ports: those that pass the filters, or if there are none those that are
found when all are asked for; and where the handler is left. -/
def Shell.offer (filters : List UsbFilter) (s : σ) : List DetectedPort × σ :=
  let first := Shell.detect.run shell s
  let candidates := candidatesOf filters first.1
  if candidates.isEmpty then Shell.detect.run shell first.2 else (candidates, first.2)

end

section
variable {σ : Type} {shell : (op : ShellOp) → σ → op.Answer × σ} {s : σ}
  {choose : List DetectedPort → Program Shell (Option Nat)} {dock : Dock}
  {filters : List UsbFilter}

theorem Shell.offer_eq {found : List DetectedPort} {s' : σ}
    (h : Shell.detect.run shell s = (found, s')) :
    Shell.offer shell filters s =
      if (candidatesOf filters found).isEmpty then Shell.detect.run shell s'
      else (candidatesOf filters found, s') := by
  rw [offer, h]

/-- A request without candidates fails, and one with some hands them to the chooser. -/
theorem requestBy_run {found : List DetectedPort} {s' : σ}
    (h : Shell.detect.run shell s = (found, s')) :
    (requestBy choose dock filters).run shell s =
      if (candidatesOf filters found).isEmpty then ((.error .noCompatibleDevice, dock), s')
      else
        let picked := (choose (candidatesOf filters found)).run shell s'
        (dock.take (picked.1.bind ((candidatesOf filters found)[·]?)), picked.2) := by
  unfold requestBy
  rw [bind_def, run_bind, h]
  have request (picked : Option Nat) := dock.request_take picked filters found
  cases none : (candidatesOf filters found).isEmpty with
  | true =>
    simp only [none, if_true] at request ⊢
    exact congrArg (·, s') (request _)
  | false =>
    simp only [none, Bool.false_eq_true, if_false] at request ⊢
    rw [bind_def, run_bind]
    exact congrArg (·, _) (request _)

/-- Taking a port never fails for want of candidates. -/
theorem Dock.take_ne_noCompatibleDevice (d : Dock) (picked : Option DetectedPort) :
    (d.take picked).1 ≠ .error .noCompatibleDevice := by
  cases picked <;> exact nofun

/-- **Who selects is handed what is offered.** -/
theorem selectBy_run (choose : List DetectedPort → Program Shell (Option Nat)) (dock : Dock)
    (filters : List UsbFilter) (s : σ) :
    (selectBy choose dock filters).run shell s =
      if (Shell.offer shell filters s).1.isEmpty then
        ((.error .noCompatibleDevice, dock), (Shell.offer shell filters s).2)
      else
        let picked := (choose (Shell.offer shell filters s).1).run shell
          (Shell.offer shell filters s).2
        (dock.take (picked.1.bind ((Shell.offer shell filters s).1[·]?)), picked.2) := by
  unfold selectBy
  rcases first : Shell.detect.run shell s with ⟨found, s'⟩
  rw [bind_def, run_bind, requestBy_run first, Shell.offer_eq first]
  cases none : (candidatesOf filters found).isEmpty with
  | true =>
    rcases second : Shell.detect.run shell s' with ⟨found', s''⟩
    have again : (requestBy choose dock []).run shell s' = _ := requestBy_run second
    rw [candidatesOf_nil] at again
    rw [if_pos rfl, if_pos rfl, second]
    exact again
  | false =>
    simp only [Bool.false_eq_true, if_false, none]
    -- the first request was not in vain, so there is no second one
    split
    · rename_i d vain
      exact absurd (congrArg Prod.fst vain) (dock.take_ne_noCompatibleDevice _)
    · rfl

/-- Every list of detected ports is made of what the machine tells of its ports. -/
theorem Shell.detect_portsOf (shell : (op : ShellOp) → σ → op.Answer × σ) (s : σ) :
    ∃ infos, (Shell.detect.run shell s).1 = portsOf infos := by
  unfold Shell.detect
  rw [bind_def, run_bind]
  cases ((perform (S := Shell) .ports).run shell s).1 with
  | error message => exact ⟨[], rfl⟩
  | ok infos =>
    refine ⟨infos, ?_⟩
    show (((each Shell.noteFound (portsOf infos)).bind fun _ => done (portsOf infos)).run
      shell _).1 = _
    rw [run_bind]
    rfl

/-- What the list of ports reports. -/
theorem listPorts_run (shell : (op : ShellOp) → σ → op.Answer × σ) (s : σ) (settings : Settings)
    (json all : Bool) :
    ((listPorts settings json all).run shell s).1 =
      let shown := visiblePorts settings.vendors all (Shell.detect.run shell s).1
      if json then .ofData [("ports", .arr (shown.map (portData settings.vendors)))]
      else .lines (portLines shown) := by
  unfold listPorts
  rw [bind_def, run_bind]
  rfl

/-- **What is offered is what is listed** if the ports are the same each time they are asked for. -/
theorem Shell.offer_visible (settings : Settings) {infos : List PortInfo}
    (first : (Shell.detect.run shell s).1 = portsOf infos)
    (again : candidatesOf settings.filters (portsOf infos) = [] →
      (Shell.detect.run shell (Shell.detect.run shell s).2).1 = portsOf infos) :
    (Shell.offer shell settings.filters s).1 =
      visiblePorts settings.vendors false (portsOf infos) := by
  rw [visiblePorts_offered, Shell.offer_eq (Prod.ext first rfl), apply_ite Prod.fst]
  exact ite_congr rfl (fun void => again (List.isEmpty_iff.mp void)) fun _ => rfl

/-- Which port the wish picks of some. -/
def PortWish.picked (wish : PortWish) (shell : (op : ShellOp) → σ → op.Answer × σ)
    (offered : List DetectedPort × σ) : Option DetectedPort :=
  ((wish.pick offered.1).run shell offered.2).1.bind (offered.1[·]?)

/-- Without an operator the port is picked that has no other beside it. -/
theorem PortWish.picked_alone (shell : (op : ShellOp) → σ → op.Answer × σ)
    (offered : List DetectedPort × σ) (p : DetectedPort) :
    PortWish.picked ⟨none, none⟩ shell offered = some p ↔ offered.1 = [p] := by
  obtain ⟨ports, s⟩ := offered
  match ports with
  | [] => exact ⟨nofun, nofun⟩
  | [only] =>
    have picked : PortWish.picked ⟨none, none⟩ shell ([only], s) = some only := rfl
    simp [picked]
  | p :: q :: rest => exact ⟨nofun, nofun⟩

end

/-! ### Bringing back what was selected -/

/-- Opens a port that was selected. -/
def openSelected (config : Config) (port : NativePort) (dock : Dock) :
    Program Shell (Except PortFault Unit × Dock) := do
  Shell.log .info s!"Selected {port.info.name} ({port.info.describe})"
  onPort dock port (Cell.openAt port.info.name port.timeout config.romBaud)

/-- Brings a port back to the closed state that was selected and opened. -/
def closeSelected (config : Config) (port : NativePort) (dock : Dock) :
    Program Shell (Except ReclaimFault Unit × Dock) := do
  Shell.log .trace s!"Opened at {Text.decimal (dock.cell port.cell).baud.toNat} baud"
  onPort dock port (Cell.reclaimed ⟨config.settle, config.closeSettle⟩ port.info "selected")

/-- Opens a port that was selected and brings it back to the closed state. -/
def reclaimSelected (config : Config) (port : NativePort) (dock : Dock) :
    Program Shell (Except CommandFault Report) := do
  let name := port.info.name
  match ← openSelected config port dock with
  | (.error fault, _) =>
    Shell.log .error
      s!"Unable to open {name}: {fault.message}. Another program may still hold it."
    pure (.error (.busy name))
  | (.ok (), dock) =>
    match ← closeSelected config port dock with
    | (.error fault, _) => pure (.error (.release name fault))
    | (.ok (), _) =>
      Shell.log .success s!"{name} is free"
      pure (.ok (.lines []))

/-- Goes on with what the selection came to. -/
def reclaimFrom (settings : Settings) (wish : PortWish) :
    Except SelectFault NativePort × Dock → Program Shell (Except CommandFault Report)
  | (.error fault, _) => pure (.error (selectionFault wish fault))
  | (.ok port, dock) => reclaimSelected (Config.default.withVendors settings.vendors) port dock

/-- Says which fixed port is used, if one is. -/
def PortWish.announce (wish : PortWish) : Program Shell Unit :=
  match wish.port with
  | some name => PortWish.note .debug s!"Using explicit port {name}"
  | none => pure ()

/-- Reclaiming is selecting and then going on with what that came to. -/
theorem reclaimPort_eq (settings : Settings) (wish : PortWish) :
    reclaimPort settings wish =
      wish.announce.bind fun _ =>
        (selectPort .empty wish settings.filters).bind (reclaimFrom settings wish) := by
  have onward (selected : Except SelectFault NativePort × Dock) :
      (match selected with
        | (.error fault, _) => pure (.error (selectionFault wish fault))
        | (.ok port, dock) =>
          reclaimSelected (Config.default.withVendors settings.vendors) port dock) =
      reclaimFrom settings wish selected := by
    rcases selected with ⟨fault | port, dock⟩ <;> rfl
  obtain ⟨port | name, screen⟩ := wish
  · exact congrArg (Program.bind _) (funext onward)
  · exact congrArg (Program.bind _) (funext fun _ => congrArg (Program.bind _) (funext onward))

section
variable {σ : Type} {shell : (op : ShellOp) → σ → op.Answer × σ} {s : σ}

/-- **What becomes of a port that was selected:** it cannot be opened, or not be released, or it is
free. -/
theorem reclaimSelected_run (config : Config) (port : NativePort) (dock : Dock) :
    ((reclaimSelected config port dock).run shell s).1 =
      match (openSelected config port dock).run shell s with
      | ((.error _, _), _) => .error (.busy port.info.name)
      | ((.ok (), dock'), s') =>
        match ((closeSelected config port dock').run shell s').1.1 with
        | .error fault => .error (.release port.info.name fault)
        | .ok () => .ok (.lines []) := by
  unfold reclaimSelected
  rw [bind_def, run_bind]
  rcases opened : (openSelected config port dock).run shell s with ⟨⟨_ | _, dock'⟩, s'⟩
  · rw [opened]
    rfl
  · rw [opened]
    show (((closeSelected config port dock').bind _).run shell s').1 = _
    rw [run_bind]
    rcases closed : (closeSelected config port dock').run shell s' with ⟨⟨_ | _, _⟩, _⟩ <;>
      simp only [closed] <;> rfl

/-- Once a port is selected, no fault says that there is none or that there are several. -/
theorem reclaimSelected_chosen (config : Config) (port : NativePort) (dock : Dock) :
    ((reclaimSelected config port dock).run shell s).1 ≠ .error .noPorts ∧
      ((reclaimSelected config port dock).run shell s).1 ≠ .error .severalPorts := by
  rw [reclaimSelected_run]
  split
  · exact ⟨nofun, nofun⟩
  · split <;> exact ⟨nofun, nofun⟩

/-- **What reclaiming without a fixed port comes to.** -/
theorem reclaimPort_run (shell : (op : ShellOp) → σ → op.Answer × σ) (s : σ)
    (settings : Settings) (screen : Option Nat) :
    ((reclaimPort settings ⟨none, screen⟩).run shell s).1 =
      let offered := Shell.offer shell settings.filters s
      if offered.1.isEmpty then .error .noPorts
      else
        match PortWish.picked ⟨none, screen⟩ shell offered with
        | none => .error (if screen.isSome then .cancelled else .severalPorts)
        | some p =>
          let granted := Dock.empty.grant p.info portTimeout
          ((reclaimSelected (Config.default.withVendors settings.vendors) granted.1 granted.2).run
            shell ((PortWish.pick ⟨none, screen⟩ offered.1).run shell offered.2).2).1 := by
  rw [reclaimPort_eq, selectPort_selectBy]
  show (((selectBy _ _ _).bind _).run shell s).1 = _
  rw [run_bind, selectBy_run]
  by_cases void : (Shell.offer shell settings.filters s).1.isEmpty
  · simp only [void, if_true]
    rfl
  · simp only [void, Bool.false_eq_true, if_false]
    show ((reclaimFrom settings ⟨none, screen⟩ (Dock.empty.take (PortWish.picked ⟨none, screen⟩
      shell (Shell.offer shell settings.filters s)))).run shell _).1 = _
    cases PortWish.picked ⟨none, screen⟩ shell (Shell.offer shell settings.filters s) <;> rfl

/-- Reclaiming finds no ports if and only if none is offered. -/
theorem reclaimPort_noPorts (settings : Settings) (screen : Option Nat) :
    ((reclaimPort settings ⟨none, screen⟩).run shell s).1 = .error .noPorts ↔
      (Shell.offer shell settings.filters s).1 = [] := by
  rw [reclaimPort_run, ← List.isEmpty_iff]
  by_cases void : (Shell.offer shell settings.filters s).1.isEmpty
  · simp [void]
  · simp only [void, Bool.false_eq_true, if_false, iff_false]
    intro noPorts
    split at noPorts
    · cases screen <;> cases noPorts
    · exact (reclaimSelected_chosen _ _ _).1 noPorts

/-- Without an operator a port is selected if and only if it alone is offered. -/
theorem selectPort_alone (dock : Dock) (filters : List UsbFilter) (port : NativePort) :
    ((selectPort dock ⟨none, none⟩ filters).run shell s).1.1 = .ok port ↔
      ∃ p, (Shell.offer shell filters s).1 = [p] ∧ port = (dock.grant p.info portTimeout).1 := by
  rw [selectPort_selectBy, selectBy_run]
  by_cases void : (Shell.offer shell filters s).1.isEmpty
  · simp [List.isEmpty_iff.mp void]
  · simp only [void, Bool.false_eq_true, if_false]
    show (dock.take (PortWish.picked ⟨none, none⟩ shell (Shell.offer shell filters s))).1 =
      .ok port ↔ _
    simp only [← PortWish.picked_alone shell]
    cases PortWish.picked ⟨none, none⟩ shell (Shell.offer shell filters s) with
    | none => exact ⟨nofun, nofun⟩
    | some p => simp [Dock.take, eq_comm]

/-- Without an operator, reclaiming finds several ports if and only if several are offered. -/
theorem reclaimPort_severalPorts (settings : Settings) :
    ((reclaimPort settings ⟨none, none⟩).run shell s).1 = .error .severalPorts ↔
      2 ≤ (Shell.offer shell settings.filters s).1.length := by
  rw [reclaimPort_run]
  have alone := PortWish.picked_alone shell (Shell.offer shell settings.filters s)
  cases picked : PortWish.picked ⟨none, none⟩ shell (Shell.offer shell settings.filters s) with
  | some p =>
    simp only [(alone p).mp picked, picked, List.isEmpty_cons, Bool.false_eq_true, if_false]
    refine ⟨fun several => ?_, fun several => by simp at several⟩
    exact absurd several (reclaimSelected_chosen _ _ _).2
  | none =>
    match offered : (Shell.offer shell settings.filters s).1 with
    | [] => simp [offered]
    | [p] => exact absurd ((alone p).mpr offered) (by simp [picked])
    | p :: q :: rest => simp [offered, picked]

/-- **Reclaiming offers what is listed.** Without a fixed port and with the ports the same each time
they are asked for, the list shows some ports; whoever is to pick one is handed exactly these; there
are no ports to reclaim if and only if none is shown; and without an operator the port is selected
that is shown alone, and none if several are. -/
theorem reclaim_offers_listed (settings : Settings) {infos : List PortInfo}
    (first : (Shell.detect.run shell s).1 = portsOf infos)
    (again : candidatesOf settings.filters (portsOf infos) = [] →
      (Shell.detect.run shell (Shell.detect.run shell s).2).1 = portsOf infos) :
    let shown := visiblePorts settings.vendors false (portsOf infos)
    (∀ json s', (Shell.detect.run shell s').1 = portsOf infos →
      ((listPorts settings json false).run shell s').1 =
        if json then .ofData [("ports", .arr (shown.map (portData settings.vendors)))]
        else .lines (portLines shown)) ∧
    (∃ s', ∀ choose dock, (selectBy choose dock settings.filters).run shell s =
      if shown = [] then ((.error .noCompatibleDevice, dock), s')
      else
        let picked := (choose shown).run shell s'
        (dock.take (picked.1.bind (shown[·]?)), picked.2)) ∧
    (∀ screen,
      reclaimPort settings ⟨none, screen⟩ =
          (selectBy (PortWish.pick ⟨none, screen⟩) .empty settings.filters).bind
            (reclaimFrom settings ⟨none, screen⟩) ∧
        (((reclaimPort settings ⟨none, screen⟩).run shell s).1 = .error .noPorts ↔ shown = [])) ∧
    (∀ port, (((selectPort .empty ⟨none, none⟩ settings.filters).run shell s).1.1 = .ok port ↔
      ∃ p, shown = [p] ∧ port = ⟨p.info, portTimeout, 0⟩)) ∧
    (((reclaimPort settings ⟨none, none⟩).run shell s).1 = .error .severalPorts ↔
      2 ≤ shown.length) := by
  intro shown
  have offered : (Shell.offer shell settings.filters s).1 = shown :=
    Shell.offer_visible settings first again
  refine ⟨fun json s' found => ?_,
    ⟨(Shell.offer shell settings.filters s).2, fun choose dock => ?_⟩,
    fun screen => ⟨reclaimPort_eq settings _, ?_⟩, fun port => ?_, ?_⟩
  · rw [listPorts_run, found]
  · rw [selectBy_run, offered]
    simp only [List.isEmpty_iff]
  · rw [reclaimPort_noPorts, offered]
  · rw [selectPort_alone, offered]
    rfl
  · rw [reclaimPort_severalPorts, offered]

end

/-- A line on the board of a machine. -/
def boardLine : PortInfo := .bare "/dev/ttyS0"

/-- A chip at a USB port. -/
def usbChip : PortInfo := ⟨"/dev/ttyACM0", some 0x303A, some 0x1001, none, none, none⟩

/-- A machine with a line on its board and a chip at USB, none of which opens. -/
def boardAndChip : (op : ShellOp) → Unit → op.Answer × Unit
  | .holds _, s => (false, s)
  | .read path, s => (.error (.notFound path), s)
  | .fetch _ _, s => (.ok [], s)
  | .ports, s => (.ok [boardLine, usbChip], s)
  | .prompt _ _, s => (none, s)
  | .system op, s =>
    (match op with
      | .openDevice _ _ _ | .clone _ | .setBaud _ _ | .flush _ => .error "No such device"
      | .read _ _ | .write _ _ => .error .timedOut
      | .drop _ | .sleep _ | .log _ _ | .note _ => (), s)

/-- The chip alone is shown, and so it is selected without an operator. -/
theorem chip_alone_selected :
    ((selectPort .empty ⟨none, none⟩ Settings.empty.filters).run boardAndChip ()).1.1 =
      .ok ⟨usbChip, portTimeout, 0⟩ := by
  have first : (Shell.detect.run boardAndChip ()).1 = portsOf [boardLine, usbChip] := rfl
  obtain ⟨-, -, -, selects, -⟩ := reclaim_offers_listed .empty first fun _ => rfl
  exact (selects _).mpr ⟨.ofInfo usbChip, by decide, rfl⟩

end FlashStation
