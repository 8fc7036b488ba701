/-
# What a handle tells of its device

A name that was granted before is granted as another view of the port that is known under it, and
the view brings along what was known of the port then. So a handle tells of the device that was the
first to be picked under its name. If another board was put in its place meanwhile, the handle still
has the numbers and the texts of the board before.

A connect reports what the handle says: in the trail, when a port was chosen and when a loader is
made for it, and to its caller, who gets it with what the board tells of itself.

Key definitions: `Dock.told`, `DockStep.pickedInfo`, `firstPicked`, `Config.announces`.
Key theorems: `Dock.told_grant`, `Harbor.run_told`, `Dock.request_tells`, `attempt_announces`,
`Course.connect_reports`, `granted_tells_first`.
-/
import FlashStation.Proofs.Complaints
import FlashStation.Proofs.Selecting

namespace FlashStation

open Station Program

/-! ### What is picked -/

/-- What is picked was found, or it is a fixed name that was not. -/
theorem Selection.pick_there {s : Selection} {filters : List UsbFilter}
    {detected : List DetectedPort} {info : PortInfo} (picked : s.pick filters detected = .ok info) :
    info ∈ detected.map (·.info) ∨
      s.portName = some info.name ∧ info = .bare info.name ∧
        info.name ∉ detected.map (·.info.name) := by
  cases fixed : s.portName with
  | none =>
    obtain ⟨p, member, rfl, _⟩ := Selection.pick_found fixed picked
    exact .inl (List.mem_map_of_mem member)
  | some name =>
    unfold Selection.pick at picked
    simp only [fixed, Except.ok.injEq] at picked
    cases found : detected.find? (·.info.name == name) with
    | none =>
      rw [found] at picked
      subst picked
      have apart : name ∉ detected.map (·.info.name) := by
        intro member
        obtain ⟨p, hp, same⟩ := List.mem_map.mp member
        exact List.find?_eq_none.mp found p hp (beq_iff_eq.mpr same)
      exact .inr ⟨rfl, rfl, apart⟩
    | some p =>
      rw [found] at picked
      subst picked
      exact .inl (List.mem_map_of_mem (List.mem_of_find?_eq_some found))

/-- What is known of the port that a step picks. -/
def DockStep.pickedInfo : DockStep → Option PortInfo
  | .request selection filters detected => (selection.pick filters detected).toOption
  | _ => none

/-- What was known of the port that was the first to be picked under a name. -/
def firstPicked (steps : List DockStep) (name : String) : Option PortInfo :=
  (steps.filterMap DockStep.pickedInfo).find? (·.name == name)

theorem firstPicked_concat (steps : List DockStep) (s : DockStep) (name : String) :
    firstPicked (steps ++ [s]) name =
      (firstPicked steps name).or (s.pickedInfo.filter (·.name == name)) := by
  have last : ([s].filterMap DockStep.pickedInfo).find? (·.name == name) =
      s.pickedInfo.filter (·.name == name) := by
    cases picked : s.pickedInfo with
    | none => rw [List.filterMap_cons_none picked]; rfl
    | some info =>
      rw [List.filterMap_cons_some picked, List.filterMap_nil, List.find?_singleton,
        Option.filter_some]
  unfold firstPicked
  rw [List.filterMap_append, List.find?_append, last]

/-! ### What a dock tells -/

namespace Dock

/-- What a dock tells of a name: what is known of the port that it knows under it. -/
def told (d : Dock) (name : String) : Option PortInfo :=
  (d.known.find? (·.info.name == name)).map (·.info)

/-- **A handle tells what the dock tells of its name**, and of a new name what was picked. -/
theorem grant_tells (d : Dock) (info : PortInfo) (timeout : Nat) :
    (d.grant info timeout).1.info = (d.told info.name).getD info := by
  unfold grant told known
  cases d.granted.find? (·.info.name == info.name) with
  | none => rfl
  | some k => rfl

/-- **A grant changes nothing of what a dock tells**, but for a new name. -/
theorem told_grant (d : Dock) (info : PortInfo) (timeout : Nat) (name : String) :
    (d.grant info timeout).2.told name =
      (d.told name).or ((some info).filter (·.name == name)) := by
  unfold grant
  cases found : d.granted.find? (·.info.name == info.name) with
  | some k =>
    have same : d.told info.name = some k.info := by
      unfold told known
      rw [found, Option.map_some]
    by_cases own : info.name = name
    · rw [← own, same, Option.some_or]
    · rw [Option.filter_some, if_neg (by simpa using own), Option.or_none]
  | none =>
    unfold told known fresh
    rw [List.find?_append, Option.map_or, List.find?_singleton, Option.filter_some]
    cases info.name == name <;> rfl

/-- What a request grants tells what the dock tells of its name. -/
theorem request_tells (d : Dock) (s : Selection) (filters : List UsbFilter)
    (detected : List DetectedPort) :
    (d.request s filters detected).1.map (·.info) =
      (s.pick filters detected).map fun info => (d.told info.name).getD info := by
  rw [request_pick]
  cases s.pick filters detected with
  | error fault => rfl
  | ok info => exact congrArg Except.ok (d.grant_tells info s.timeout)

end Dock

namespace Harbor

/-- A step changes what is told of a name only if it is the first that picks it. -/
theorem told_step (h : Harbor) (s : DockStep) (name : String) :
    (h.step s).dock.told name =
      (h.dock.told name).or (s.pickedInfo.filter (·.name == name)) := by
  cases s with
  | request selection filters detected =>
    rw [step_request]
    simp only [DockStep.pickedInfo]
    cases selection.pick filters detected with
    | error fault => exact Option.or_none.symm
    | ok info => exact h.dock.told_grant info _ name
  | list | fresh _ _ | work _ _ => exact Option.or_none.symm

/-- **Of a name the device is told that was the first to be picked under it.** -/
theorem run_told (steps : List DockStep) (name : String) :
    (new.run steps).dock.told name = firstPicked steps name := by
  induction steps using List.reverseRecOn with
  | nil => rfl
  | append_singleton steps s ih => rw [run_concat, told_step, ih, firstPicked_concat]

end Harbor

/-! ### What a connect reports of its port -/

/-- The entries with which a connect tells of the port that it got. -/
def Config.announces (config : Config) (baud : UInt32) (info : PortInfo) :
    List (Variant × String) :=
  [(.trace, s!"User selected: {info.describe}"),
    (.trace, s!"Loader created for {info.describe}. Starting bootloader handshake " ++
      s!"({Text.decimal config.romBaud.toNat} baud ROM, " ++
      s!"{Text.decimal baud.toNat} baud flashing)…")]

section
variable {config : Config} {calls : List (Exchange Station)} {told : List (Variant × String)}
  {g : Nat} {baud : UInt32} {previous : Option Session}

/-- A loader is made for the port that was granted last, and the trail tells of that port. -/
theorem acquire_announces {loader : Loader}
    (h : (acquire config g baud).Tells calls told (.ok loader)) :
    (picks calls).getLast? = some (.ok loader.port) ∧
      config.announces baud loader.port.info ⊆ told := by
  have made (fault : ConnectFault) : Except.ok loader ≠ .error fault := nofun
  obtain ⟨_, sweeping, _, told1, _, rfl, rfl, swept, h1⟩ := Tells.bind_inv h
  have h2 := Tells.onward h1 (Speaks.not_error (made _))
  obtain ⟨selected, choosing, _, told2, _, rfl, rfl, asked, h3⟩ := Tells.bind_inv h2
  obtain ⟨chosen, chooses, rfl⟩ := selectPort_chooses asked.speaks
  cases chosen with
  | error fault =>
    obtain ⟨_, _, wrong⟩ := h3.done_inv
    cases wrong
  | ok port =>
    obtain ⟨_, rfl, h4⟩ := Tells.log_inv h3
    obtain ⟨seen, _, rfl, _, h5⟩ := Tells.call_inv (.link (.streams port)) h4 rfl rfl
    obtain ⟨_, rfl, h6⟩ := Tells.log_inv h5
    obtain ⟨_, reclaiming, _, told3, _, rfl, rfl, restored, h7⟩ := Tells.bind_inv h6
    have h8 := Tells.onward h7 fun calls late => by
      obtain ⟨_, _, _, _, _, late⟩ := Speaks.bind_inv late
      exact Speaks.not_error (made _) _ late
    obtain ⟨_, rfl, h9⟩ := Tells.log_inv h8
    obtain ⟨_, _, rfl, ⟨_, _, settled⟩, h10⟩ :=
      Tells.call_inv (.attach port baud config.romBaud) h9 rfl rfl
    obtain ⟨rfl, rfl, same⟩ := h10.done_inv
    obtain rfl := Except.ok.inj same
    obtain rfl : loader.port = port := congrArg Loader.port settled
    -- only the choosing asks for ports
    obtain ⟨sweeps, _⟩ := beside (reclaimKnown_sweeps swept.speaks).beside
    obtain ⟨restores, _⟩ := beside (restorePort_reclaims restored.speaks).beside
    have looked : picks [⟨.link (.streams loader.port), seen⟩] = [] := rfl
    have attached : picks [⟨.attach loader.port baud config.romBaud, loader⟩] = [] := rfl
    refine ⟨?_, ?_⟩
    · rw [← List.singleton_append]
      simp only [picks_append, sweeps, restores, looked, attached, List.nil_append, List.append_nil]
      exact chooses.answers.1
    · intro entry member
      simp only [Config.announces, List.mem_cons, List.not_mem_nil, or_false] at member
      rcases member with rfl | rfl
      · simp [Port.describe]
      · simp [Port.describe]

/-- What is told of a board names the port of its loader. -/
theorem inventory_port {loader : Loader} {info : DeviceInfo}
    (h : (inventory g loader).Tells calls told (.ok info)) : info.port = some loader.port.info := by
  have late : Except.ok info ≠ .error (α := DeviceInfo) ConnectFault.superseded := nofun
  obtain ⟨answer, asks, same⟩ := inventory_interviews h.speaks late
  cases asks with
  | refused fault => cases same
  | told =>
    obtain rfl := Except.ok.inj same
    rfl

/-- **A connect that succeeds reports the port that was granted last**, in the trail and to its
caller. -/
theorem attempt_announces {info : DeviceInfo}
    (h : (attempt config g baud previous).Tells calls told (.ok info)) :
    ∃ port, (picks calls).getLast? = some (.ok port) ∧ info.port = some port.info ∧
      config.announces baud port.info ⊆ told := by
  obtain ⟨checks, cleans, acquires, meets⟩ := attempt_parts h
  cases meets with
  | nobody ends | fails _ _ ends => cases (fails_silent ends.speaks).2
  | @joins loader _ _ told4 asks =>
    obtain ⟨granted, announced⟩ := acquire_announces acquires
    refine ⟨loader.port, ?_, inventory_port asks, fun entry member => ?_⟩
    · -- only the acquiring asks for ports
      obtain ⟨looks, _⟩ := beside (startupCheck_census checks.speaks).beside
      obtain ⟨cleans, _⟩ := beside (cleanUp_cleans cleans.speaks).beside
      obtain ⟨_, interviews, _⟩ := inventory_interviews asks.speaks nofun
      simp only [picks_append, looks, cleans, interviews.answers.1, List.nil_append,
        List.append_nil]
      exact granted
    · simp [announced member]

/-- A connect that has succeeded reports the port that it was granted last. -/
theorem Course.connect_reports {preferred : Option UInt32} {f f' : Floor} {x : List Event}
    {info : DeviceInfo}
    (h : Course none ((Errand.connect preferred).program config) f x f'
      (.done (.connected (.ok info)))) :
    ∃ port, (picks (outward (dialogue x))).getLast? = some (.ok port) ∧
      info.port = some port.info ∧
      config.announces (preferred.getD config.defaultBaud) port.info ⊆ entries (dialogue x) := by
  have begins := h.connect_begins
  generalize joined : Result.connected (.ok info) = r at begins
  cases begins with
  | refused _ _ failed =>
    rw [← joined] at failed
    cases failed
  | accepted tag _ =>
    obtain ⟨pre, y, r, split, record, same, _, course⟩ := h.connect_opens tag
    cases same
    obtain ⟨port, granted, reported, announced⟩ := attempt_announces course.tells
    refine ⟨port, ?_, reported, ?_⟩
    · rw [split, dialogue_does, outward_cons rfl, dialogue_append, outward_append,
        outward_record record, List.nil_append]
      exact granted
    · rw [split, dialogue_does, entries_skip rfl, dialogue_append, entries_append,
        entries_record record, List.nil_append]
      exact announced

end

open Traffic

/-- **A handle tells of the device that was there first.** Take any requests for ports and listings
of the known ports, whatever the selection, the filters and the ports that were found each time, and
then one more request. It picks a port that was found, or a fixed name that was not. What it grants
tells what was known of the port that was the first to be picked under that name, and of the picked
one only if there was no other before. So it describes the device that was picked if and only if
nothing else was known of the first. A connect that has succeeded, and whose last request was
answered like that, has told in the trail of this first device, and so it tells its caller, whatever
is found under that name now. -/
theorem granted_tells_first (steps : List DockStep) (s : Selection) (filters : List UsbFilter)
    (detected : List DetectedPort) :
    let d := (Harbor.new.run steps).dock
    let answer := (d.request s filters detected).1
    answer.map (·.info) =
      (s.pick filters detected).map (fun info => (firstPicked steps info.name).getD info) ∧
    (∀ info, s.pick filters detected = .ok info →
      (info ∈ detected.map (·.info) ∨ s.portName = some info.name ∧ info = .bare info.name ∧
        info.name ∉ detected.map (·.info.name)) ∧
      (answer.map (·.info) = .ok info ↔
        ∀ first, firstPicked steps info.name = some first → first = info)) ∧
    ∀ config t log i c preferred told, Run config .new log t → t.calls[i]? = some c →
      c.errand = .connect preferred → c.rest = .done (.connected (.ok told)) →
      (picks (outward (dialogue (diary log i)))).getLast? = some (answer.map NativePort.handle) →
      ∃ info first, s.pick filters detected = .ok info ∧
        first = (firstPicked steps info.name).getD info ∧ told.port = some first ∧
        config.announces (preferred.getD config.defaultBaud) first ⊆
          entries (dialogue (diary log i)) := by
  intro d answer
  have tells : answer.map (·.info) =
      (s.pick filters detected).map fun info => (firstPicked steps info.name).getD info := by
    have same : d.told = firstPicked steps := funext (Harbor.run_told steps)
    rw [← same]
    exact d.request_tells s filters detected
  refine ⟨tells, fun info picked => ⟨Selection.pick_there picked, ?_⟩, ?_⟩
  · rw [tells, picked]
    cases first : firstPicked steps info.name <;> simp [Except.map, first]
  · intro config t log i c preferred told run hc he ended granted
    obtain ⟨_, course, _⟩ := run.followed hc
    rw [he, ended] at course
    obtain ⟨port, last, reported, announced⟩ := course.connect_reports
    have handed : answer.map NativePort.handle = .ok port := by
      rw [last] at granted
      exact (Option.some.inj granted).symm
    cases got : answer with
    | error fault =>
      rw [got] at handed
      cases handed
    | ok native =>
      rw [got] at tells handed
      obtain rfl : native.handle = port := Except.ok.inj handed
      cases picked : s.pick filters detected with
      | error fault =>
        rw [picked] at tells
        cases tells
      | ok info =>
        rw [picked] at tells
        have described : native.info = (firstPicked steps info.name).getD info :=
          Except.ok.inj tells
        refine ⟨info, _, rfl, rfl, ?_, ?_⟩
        · rw [reported, ← described]
          rfl
        · rw [← described]
          exact announced

/-! ### A board that was replaced -/

namespace Traffic

/-- What is done while a call goes on through a number of waits. -/
def deeds (answer : (op : StationOp) → op.Answer) (i : Nat) : Nat → Traffic → List Deed
  | 0, _ => []
  | n + 1, t =>
    ⟨i, t.events answer i, t.floor, (t.resume answer i).floor⟩ ::
      deeds answer i n (t.resume answer i)

/-- A call that waits so often goes on through all these waits. -/
theorem Run.carriesOn {config : Config} {t t' : Traffic} {log : List Deed}
    (run : Run config t log t') (answer : (op : StationOp) → op.Answer) (i n : Nat)
    (waits : ∀ k < n, (t'.carryOn answer i k).calls[i]?.map Call.pending = some true) :
    Run config t (log ++ t'.deeds answer i n) (t'.carryOn answer i n) := by
  induction n generalizing t' log with
  | zero =>
    rw [deeds, List.append_nil]
    exact run
  | succ n ih =>
    have first : t'.calls[i]?.map Call.pending = some true := waits 0 n.succ_pos
    have later : ∀ k < n, ((t'.resume answer i).carryOn answer i k).calls[i]?.map Call.pending =
        some true := fun k hk => waits (k + 1) (Nat.succ_lt_succ hk)
    have whole := ih (run.step (Step.resume answer first)) later
    rw [List.append_assoc] at whole
    exact whole

end Traffic

/-- The port of another board, under the same name. -/
def otherPort : PortInfo := { boardPort with vid := some 0x303A, pid := some 0x1001 }

/-- A board is granted. -/
def boardSteps : List DockStep := [.request .likely Config.default.filters boardFound]

/-- The provider has granted a board, and finds the other one in its place now. -/
def replacing : (op : StationOp) → op.Answer
  | .requestPort filters =>
    ((Harbor.new.run boardSteps).dock.request .likely filters [.ofInfo otherPort]).1.map
      NativePort.handle
  | op => obliging default .closed op

/-- A connect that gets the other board has begun. -/
def Traffic.replaced : Traffic := Traffic.new.begin .default replacing (.connect none)

/-- A connect to a board that was put in the place of another one tells of the one before. -/
theorem replaced_told_first :
    ∃ log c told, Run .default .new log (Traffic.replaced.carryOn replacing 0 7) ∧
      (Traffic.replaced.carryOn replacing 0 7).calls[0]? = some c ∧
      c.rest = .done (.connected (.ok told)) ∧
      Selection.likely.pick Config.default.filters [.ofInfo otherPort] = .ok otherPort ∧
      told.port = some boardPort ∧ boardPort ≠ otherPort ∧
      Config.default.announces Config.default.defaultBaud boardPort ⊆
        entries (dialogue (diary log 0)) := by
  have begins : Step .default .new Traffic.new.calls.length _ Traffic.replaced :=
    .begins (.connect none) (.advance replacing _ _)
  obtain ⟨log, run, asked⟩ : ∃ log,
      Run .default .new log (Traffic.replaced.carryOn replacing 0 7) ∧
      (picks (outward (dialogue (diary log 0)))).getLast? =
        some (((Harbor.new.run boardSteps).dock.request .likely Config.default.filters
          [.ofInfo otherPort]).1.map NativePort.handle) :=
    ⟨_, (Run.here.step begins).carriesOn replacing 0 7 (by decide +kernel), by decide +kernel⟩
  have after : (Traffic.replaced.carryOn replacing 0 7).calls[0]?.map
      (fun c => (c.errand, c.tag, c.pending, c.failure)) =
      some (.connect none, some (Traffic.replaced.carryOn replacing 0 7).floor.desk.generation,
        false, none) := by
    decide +kernel
  obtain ⟨c, hc, look⟩ := Option.map_eq_some_iff.mp after
  simp only [Prod.mk.injEq] at look
  obtain ⟨he, ht, ended, unfailed⟩ := look
  obtain ⟨r, rest, _⟩ := run.concludes hc he ht ended
  cases r with
  | error fault =>
    rw [Call.failure, rest] at unfailed
    cases unfailed
  | ok told =>
    obtain ⟨_, _, reports⟩ := granted_tells_first boardSteps .likely Config.default.filters
      [.ofInfo otherPort]
    obtain ⟨info, first, picked, known, reported, announced⟩ :=
      reports .default _ log 0 c none told run hc he rest asked
    have other : Selection.likely.pick Config.default.filters [.ofInfo otherPort] =
        .ok otherPort := by decide +kernel
    obtain rfl : otherPort = info := Except.ok.inj (other.symm.trans picked)
    obtain rfl : first = boardPort := known
    exact ⟨log, c, told, run, hc, rest, other, reported, by decide, announced⟩

end FlashStation
