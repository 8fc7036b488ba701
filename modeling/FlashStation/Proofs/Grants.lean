/-
# One state for every device

Which port a request picks depends on the selection, on the filters and on the ports that were
found, and not on what was granted before. If it picks one, the port is granted under its name: the
first time with a state of its own, at a place that was never used, and from then on as another view
of that state. So the known ports are the names that were ever picked, without repeats, in the order
in which they were first picked. Every handle that was given out, granted or listed, is a view of
the known port of its name, and the known ports have their states at different places.

Between the calls of the provider, anything may be done to the devices, and handles that no provider
knows may be made.

Key definitions: `Selection.pick`, `DockStep`, `Harbor`, `Dock.Sound`.
Key theorems: `Dock.request_pick`, `Dock.Sound.grant`, `Harbor.run_names`, `Harbor.run_moored`,
`known_ports_share`.
-/
import Mathlib.Data.List.Induction
import Mathlib.Data.List.Nodup
import FlashStation.Serial.Provider

namespace FlashStation

/-! ### What a request picks -/

/-- The port that a request picks, among those that were found. -/
def Selection.pick (s : Selection) (filters : List UsbFilter) (detected : List DetectedPort) :
    Except SelectFault PortInfo :=
  match s.portName with
  | some name => .ok (((detected.find? (·.info.name == name)).map (·.info)).getD (.bare name))
  | none =>
    let candidates := candidatesOf filters detected
    if candidates.isEmpty then .error .noCompatibleDevice
    else
      match (s.chooser candidates).bind (candidates[·]?) with
      | none => .error .cancelled
      | some p => .ok p.info

namespace Selection

variable {s : Selection} {filters : List UsbFilter} {detected : List DetectedPort}

/-- A port of a fixed name is picked always, whatever was found. -/
theorem pick_named {name : String} (h : s.portName = some name) :
    ∃ info, s.pick filters detected = .ok info ∧ info.name = name := by
  unfold pick
  rw [h]
  refine ⟨_, rfl, ?_⟩
  cases hf : detected.find? (·.info.name == name) with
  | none => rfl
  | some p =>
    have := List.find?_some hf
    simpa using this

/-- Without a fixed name, what is picked was found and passes the filters. -/
theorem pick_found {info : PortInfo} (h : s.portName = none)
    (picked : s.pick filters detected = .ok info) :
    ∃ p ∈ detected, p.info = info ∧ passesFilters filters info.vid info.pid = true := by
  unfold pick at picked
  simp only [h] at picked
  by_cases none : (candidatesOf filters detected).isEmpty = true
  · simp [none] at picked
  · rw [if_neg none] at picked
    cases hc : (s.chooser (candidatesOf filters detected)).bind
        ((candidatesOf filters detected)[·]?) with
    | none => simp [hc] at picked
    | some p =>
      rw [hc] at picked
      obtain rfl : p.info = info := by simpa using picked
      obtain ⟨i, -, at_i⟩ := Option.bind_eq_some_iff.mp hc
      have candidate : p ∈ candidatesOf filters detected := List.mem_of_getElem? at_i
      obtain ⟨found, passes⟩ := List.mem_filter.mp candidate
      exact ⟨p, found, rfl, passes⟩

end Selection

/-- A handle is a view of another: they are of one device, and their shared state is at one place. -/
def NativePort.IsView (p k : NativePort) : Prop := p.info = k.info ∧ p.cell = k.cell

/-! ### Docks -/

namespace Dock

variable {d : Dock} {info : PortInfo}

/-- The names of the known ports. -/
def names (d : Dock) : List String := d.known.map (·.info.name)

/-- A request that picks no port changes nothing, and one that picks a port grants it. -/
theorem request_pick (d : Dock) (s : Selection) (filters : List UsbFilter)
    (detected : List DetectedPort) :
    d.request s filters detected =
      match s.pick filters detected with
      | .error fault => (.error fault, d)
      | .ok info => (.ok (d.grant info s.timeout).1, (d.grant info s.timeout).2) := by
  unfold request Selection.pick
  cases s.portName with
  | some name => rfl
  | none =>
    by_cases none : (candidatesOf filters detected).isEmpty = true
    · simp [none]
    · simp only [none]
      cases (s.chooser (candidatesOf filters detected)).bind
        ((candidatesOf filters detected)[·]?) with
      | none => rfl
      | some p => rfl

/-- A port that is known already is granted as another view of it. -/
theorem grant_known (timeout : Nat) (h : info.name ∈ d.names) :
    ∃ k ∈ d.known, k.info.name = info.name ∧ d.grant info timeout = ({ k with timeout }, d) := by
  unfold grant
  cases hf : d.granted.find? (·.info.name == info.name) with
  | none =>
    obtain ⟨k, hk, same⟩ := List.mem_map.mp h
    have := List.find?_eq_none.mp hf k hk
    simp [same] at this
  | some k =>
    have same := List.find?_some hf
    exact ⟨k, List.mem_of_find?_eq_some hf, by simpa using same, rfl⟩

/-- A port that is not known is granted with a new state of its own, and is known from then on. -/
theorem grant_new (timeout : Nat) (h : info.name ∉ d.names) :
    d.grant info timeout =
      (⟨info, timeout, d.cells.length⟩,
        ⟨d.cells ++ [.new], d.granted ++ [⟨info, timeout, d.cells.length⟩]⟩) := by
  have hf : d.granted.find? (·.info.name == info.name) = none := by
    refine List.find?_eq_none.mpr fun k hk same => h ?_
    have : k.info.name = info.name := by simpa using same
    exact this ▸ List.mem_map_of_mem hk
  unfold grant
  rw [hf]
  rfl

/-- The known ports have different names and their states at different places, all of them places
that are in use. -/
structure Sound (d : Dock) : Prop where
  /-- No name is known twice. -/
  names : d.names.Nodup
  /-- No state is that of two known ports. -/
  places : (d.known.map (·.cell)).Nodup
  /-- Every known port has its state somewhere. -/
  there : ∀ k ∈ d.known, k.cell < d.cells.length

namespace Sound

theorem empty : Dock.empty.Sound := ⟨.nil, .nil, nofun⟩

/-- Two known ports of one name are one. -/
theorem of_name (sound : d.Sound) {p q : NativePort} (hp : p ∈ d.known) (hq : q ∈ d.known)
    (same : p.info.name = q.info.name) : p = q :=
  List.inj_on_of_nodup_map sound.names hp hq same

/-- Two known ports with their state at one place are one. -/
theorem of_place (sound : d.Sound) {p q : NativePort} (hp : p ∈ d.known) (hq : q ∈ d.known)
    (same : p.cell = q.cell) : p = q :=
  List.inj_on_of_nodup_map sound.places hp hq same

theorem setCell (sound : d.Sound) (place : Nat) (c : Cell) : (d.setCell place c).Sound := by
  refine ⟨sound.names, sound.places, fun k hk => ?_⟩
  have := sound.there k hk
  simpa [Dock.setCell] using this

theorem fresh (sound : d.Sound) (info : PortInfo) (timeout : Nat) :
    (d.fresh info timeout).2.Sound := by
  refine ⟨sound.names, sound.places, fun k hk => ?_⟩
  have := sound.there k hk
  simp only [Dock.fresh, List.length_append, List.length_singleton]
  omega

/-- A new port takes a place that no known port has. -/
theorem grant (sound : d.Sound) (info : PortInfo) (timeout : Nat) :
    (d.grant info timeout).2.Sound := by
  by_cases known : info.name ∈ d.names
  · obtain ⟨k, -, -, granted⟩ := grant_known timeout known
    rw [granted]
    exact sound
  · rw [grant_new timeout known]
    have unused : d.cells.length ∉ d.known.map (·.cell) := by
      intro used
      obtain ⟨k, hk, same⟩ := List.mem_map.mp used
      have := sound.there k hk
      omega
    have names : (d.names ++ [info.name]).Nodup := by
      rw [← List.concat_eq_append]
      exact .concat known sound.names
    have places : (d.known.map (·.cell) ++ [d.cells.length]).Nodup := by
      rw [← List.concat_eq_append]
      exact .concat unused sound.places
    refine ⟨by simpa [Dock.names, Dock.known] using names, by simpa [Dock.known] using places, ?_⟩
    intro k hk
    rcases List.mem_append.mp hk with before | new
    · have := sound.there k before
      simp only [List.length_append, List.length_singleton]
      omega
    · obtain rfl := List.mem_singleton.mp new
      simp

/-- What is done to the state of a known port shows at the known port of the same name, and at no
other one. -/
theorem cell_setCell (sound : d.Sound) {p q : NativePort} (hp : p ∈ d.known) (hq : q ∈ d.known)
    (c : Cell) :
    (d.setCell p.cell c).cell q.cell = if p.info.name = q.info.name then c else d.cell q.cell := by
  have there := sound.there q hq
  unfold Dock.setCell Dock.cell
  by_cases same : p.info.name = q.info.name
  · obtain rfl := sound.of_name hp hq same
    simp [there]
  · have apart : p.cell ≠ q.cell := fun at_one => same (by rw [sound.of_place hp hq at_one])
    simp [same, List.getElem?_set_ne apart]

end Sound

/-- What is granted has the name that was asked for. -/
theorem grant_name (d : Dock) (info : PortInfo) (timeout : Nat) :
    (d.grant info timeout).1.info.name = info.name := by
  by_cases known : info.name ∈ d.names
  · obtain ⟨k, -, same, granted⟩ := grant_known timeout known
    rw [granted]
    exact same
  · rw [grant_new timeout known]

/-- A name is known once it was granted; a new one comes last. -/
theorem names_grant (d : Dock) (info : PortInfo) (timeout : Nat) :
    (d.grant info timeout).2.names =
      if info.name ∈ d.names then d.names else d.names ++ [info.name] := by
  by_cases known : info.name ∈ d.names
  · obtain ⟨k, -, -, granted⟩ := grant_known timeout known
    rw [granted, if_pos known]
  · rw [grant_new timeout known, if_neg known]
    simp [names, Dock.known]

/-- What is known stays known. -/
theorem known_grant {k : NativePort} (h : k ∈ d.known) (info : PortInfo) (timeout : Nat) :
    k ∈ (d.grant info timeout).2.known := by
  by_cases known : info.name ∈ d.names
  · obtain ⟨_, -, -, granted⟩ := grant_known timeout known
    rwa [granted]
  · rw [grant_new timeout known]
    exact List.mem_append_left _ h

/-- What is granted is a view of a port that is known from then on. -/
theorem grant_view (d : Dock) (info : PortInfo) (timeout : Nat) :
    ∃ k ∈ (d.grant info timeout).2.known, (d.grant info timeout).1.IsView k := by
  by_cases known : info.name ∈ d.names
  · obtain ⟨k, hk, -, granted⟩ := grant_known timeout known
    rw [granted]
    exact ⟨k, hk, rfl, rfl⟩
  · rw [grant_new timeout known]
    exact ⟨_, List.mem_append_right _ (List.mem_singleton_self _), rfl, rfl⟩

end Dock

/-! ### Harbors -/

/-- A call of a provider, or something that happens between two calls. -/
inductive DockStep where
  /-- A port is requested. -/
  | request (selection : Selection) (filters : List UsbFilter) (detected : List DetectedPort)
  /-- The known ports are listed. -/
  | list
  /-- Somebody makes a handle with a state of its own. -/
  | fresh (info : PortInfo) (timeout : Nat)
  /-- What was done to a device leaves its state so. -/
  | work (place : Nat) (cell : Cell)

/-- The name of the port that a step picks. -/
def DockStep.picked : DockStep → Option String
  | .request selection filters detected =>
    (selection.pick filters detected).toOption.map (·.name)
  | _ => none

/-- A dock, and the handles that its provider gave out, oldest first. -/
structure Harbor where
  /-- The dock. -/
  dock : Dock
  /-- The handles, those that were granted and those that were listed. -/
  handles : List NativePort

namespace Harbor

/-- No port was ever granted. -/
def new : Harbor := ⟨.empty, []⟩

/-- The harbor after a step. -/
def step (h : Harbor) : DockStep → Harbor
  | .request selection filters detected =>
    match h.dock.request selection filters detected with
    | (.error _, dock) => { h with dock }
    | (.ok port, dock) => ⟨dock, h.handles ++ [port]⟩
  | .list => { h with handles := h.handles ++ h.dock.known }
  | .fresh info timeout => { h with dock := (h.dock.fresh info timeout).2 }
  | .work place cell => { h with dock := h.dock.setCell place cell }

/-- The harbor after all of these steps. -/
def run (h : Harbor) (steps : List DockStep) : Harbor := steps.foldl step h

variable {h : Harbor}

@[simp] theorem run_concat (h : Harbor) (steps : List DockStep) (s : DockStep) :
    h.run (steps ++ [s]) = (h.run steps).step s := by
  simp [run]

theorem step_request (h : Harbor) (s : Selection) (filters : List UsbFilter)
    (detected : List DetectedPort) :
    h.step (.request s filters detected) =
      match s.pick filters detected with
      | .error _ => h
      | .ok info =>
        ⟨(h.dock.grant info s.timeout).2, h.handles ++ [(h.dock.grant info s.timeout).1]⟩ := by
  simp only [step, Dock.request_pick]
  cases s.pick filters detected with
  | error fault => rfl
  | ok info => rfl

/-- The known ports are in order, and every handle that was given out is a view of one of them. -/
structure Moored (h : Harbor) : Prop where
  /-- The known ports are in order. -/
  sound : h.dock.Sound
  /-- Every handle is a view of a known port. -/
  views : ∀ p ∈ h.handles, ∃ k ∈ h.dock.known, p.IsView k

/-- A step keeps the known ports in order, and the handles views of them. -/
theorem Moored.step (moored : h.Moored) (s : DockStep) : (h.step s).Moored := by
  cases s with
  | request selection filters detected =>
    rw [step_request]
    cases selection.pick filters detected with
    | error fault => exact moored
    | ok info =>
      refine ⟨moored.sound.grant info _, fun p hp => ?_⟩
      rcases List.mem_append.mp hp with before | granted
      · obtain ⟨k, hk, view⟩ := moored.views p before
        exact ⟨k, Dock.known_grant hk info _, view⟩
      · obtain rfl := List.mem_singleton.mp granted
        exact h.dock.grant_view info _
  | list =>
    refine ⟨moored.sound, fun p hp => ?_⟩
    rcases List.mem_append.mp hp with before | listed
    · exact moored.views p before
    · exact ⟨p, listed, rfl, rfl⟩
  | fresh info timeout => exact ⟨moored.sound.fresh info timeout, moored.views⟩
  | work place c => exact ⟨moored.sound.setCell place c, moored.views⟩

theorem run_moored (steps : List DockStep) : (new.run steps).Moored := by
  induction steps using List.reverseRecOn with
  | nil => exact ⟨.empty, nofun⟩
  | append_singleton steps s ih =>
    rw [run_concat]
    exact ih.step s

/-- A step makes the name that it picks known. -/
theorem names_step (h : Harbor) (s : DockStep) :
    (h.step s).dock.names =
      match s.picked with
      | none => h.dock.names
      | some name => if name ∈ h.dock.names then h.dock.names else h.dock.names ++ [name] := by
  cases s with
  | request selection filters detected =>
    rw [step_request]
    simp only [DockStep.picked]
    cases selection.pick filters detected with
    | error fault => rfl
    | ok info => exact h.dock.names_grant info _
  | list | fresh _ _ | work _ _ => rfl

/-- Of a list without repeats, a new last entry is kept only if it is not in the list already. -/
theorem eraseDups_concat (names : List String) (name : String) :
    (names ++ [name]).eraseDups =
      if name ∈ names then names.eraseDups else names.eraseDups ++ [name] := by
  rw [List.eraseDups_append]
  by_cases known : name ∈ names
  · simp [known, List.removeAll]
  · simp [known, List.removeAll, List.eraseDups_cons]

/-- The known names are those that were ever picked, without repeats, in the order in which they
were first picked. -/
theorem run_names (steps : List DockStep) :
    (new.run steps).dock.names = (steps.filterMap DockStep.picked).eraseDups := by
  induction steps using List.reverseRecOn with
  | nil => rfl
  | append_singleton steps s ih =>
    rw [run_concat, names_step, List.filterMap_append, ih]
    cases hs : s.picked with
    | none => simp [hs]
    | some name =>
      have last : [s].filterMap DockStep.picked = [name] := by simp [hs]
      rw [last, eraseDups_concat]
      simp only [List.mem_eraseDups]

end Harbor

/-- **There is one state for every device.** Take any requests for ports and listings of the known
ports, whatever the selection, the filters and the ports that were found, and whatever is done to the
devices between them. The known ports are, one each, the names that were ever picked, in the order in
which they were first picked. A request grants a port of the name that it picks, or fails with the
fault of the picking, and then it changes nothing. Any two handles that were given out have their
state at one place if and only if they have one name: what is done through one of them to the open
port, the baud rate and the locks shows through the other if they have one name, and otherwise
changes nothing for it. -/
theorem known_ports_share (steps : List DockStep) :
    let h := Harbor.new.run steps
    (h.dock.known.map (·.info.name) = (steps.filterMap DockStep.picked).eraseDups ∧
      (h.dock.known.map (·.info.name)).Nodup) ∧
    (∀ selection filters detected,
      (h.dock.request selection filters detected).1.map (·.info.name) =
        (selection.pick filters detected).map (·.name) ∧
      ∀ fault, (h.dock.request selection filters detected).1 = .error fault →
        (h.dock.request selection filters detected).2 = h.dock) ∧
    ∀ p ∈ h.handles, ∀ q ∈ h.handles,
      (p.cell = q.cell ↔ p.info.name = q.info.name) ∧
      ∀ c, (h.dock.setCell p.cell c).cell q.cell =
        if p.info.name = q.info.name then c else h.dock.cell q.cell := by
  intro h
  have moored : h.Moored := Harbor.run_moored steps
  have sound := moored.sound
  refine ⟨⟨Harbor.run_names steps, sound.names⟩, fun selection filters detected => ?_, ?_⟩
  · rw [Dock.request_pick]
    cases selection.pick filters detected with
    | error fault => exact ⟨rfl, fun _ _ => rfl⟩
    | ok info => exact ⟨congrArg Except.ok (h.dock.grant_name info _), nofun⟩
  · intro p hp q hq
    obtain ⟨k, hk, of_k, at_k⟩ := moored.views p hp
    obtain ⟨l, hl, of_l, at_l⟩ := moored.views q hq
    rw [of_k, of_l, at_k, at_l]
    refine ⟨⟨fun same => ?_, fun same => ?_⟩, fun c => sound.cell_setCell hk hl c⟩
    · rw [sound.of_place hk hl same]
    · rw [sound.of_name hk hl same]

/-- Always the port of this name. -/
def Selection.named (name : String) : Selection := ⟨some name, fun _ => none, 20⟩

/-- Two ports are granted, a request finds nothing, the known ports are listed, and the first one is
granted again: it is the same device as before, and a state that is set through it shows through the
handle that was listed, and does not show through one of the other device. -/
theorem granted_again_shares :
    let one : NativePort := ⟨.bare "/dev/ttyUSB0", 20, 0⟩
    let other : NativePort := ⟨.bare "/dev/ttyUSB1", 20, 1⟩
    let h := Harbor.new.run [.request (.named "/dev/ttyUSB0") [] [],
      .request (.named "/dev/ttyUSB1") [] [], .request ⟨none, fun _ => some 0, 20⟩ [] [], .list,
      .request (.named "/dev/ttyUSB0") [] []]
    h.handles = [one, other, one, other, one] ∧ h.dock.known = [one, other] ∧
    one.info.name ≠ other.info.name ∧
    ∀ c, (h.dock.setCell one.cell c).cell one.cell = c ∧
      (h.dock.setCell one.cell c).cell other.cell = h.dock.cell other.cell := by
  intro one other h
  have out : h.handles = [one, other, one, other, one] := by decide
  have apart : one.info.name ≠ other.info.name := by decide
  obtain ⟨-, -, share⟩ := known_ports_share [.request (.named "/dev/ttyUSB0") [] [],
    .request (.named "/dev/ttyUSB1") [] [], .request ⟨none, fun _ => some 0, 20⟩ [] [], .list,
    .request (.named "/dev/ttyUSB0") [] []]
  have hone : one ∈ h.handles := by simp [out]
  have hother : other ∈ h.handles := by simp [out]
  refine ⟨out, by decide, apart, fun c => ⟨?_, ?_⟩⟩
  · exact ((share one hone one hone).2 c).trans (if_pos rfl)
  · exact ((share one hone other hother).2 c).trans (if_neg apart)

end FlashStation
