/-
# The filters decide which ports are offered

A provider without a fixed name lets its chooser choose among the ports that pass the filters, in
the order in which they were found, and grants the one that it chooses. It fails if there is none of
them, and otherwise only if the chooser chooses none. One that always chooses the most likely board
always chooses.

A connect asks such a provider for a port that passes the filters of the station, and asks once more
without filters only if none was found that does. So a port that the filters keep back is never
granted as long as there is one that they let through; and who always chooses the most likely board
never calls a connect off.

Key definitions: `Passes`, `Dock.Grants`, `Selection.Answers`, `portRequests`, `Picks`, `Selects`.
Key theorems: `candidatesOf_passes`, `Dock.request_grants`, `attempt_picks`, `Traffic.Run.picks`,
`Chooses.selects`, `Traffic.Run.selects`, `selection_respects_filters`.
-/
import FlashStation.Proofs.Grants
import FlashStation.Proofs.Ranking
import FlashStation.Proofs.Refusals
import FlashStation.Proofs.Tolerance

namespace FlashStation

open Station Program

/-! ### Ports that pass the filters -/

/-- A port passes a list of filters: there are none, or one of them names its vendor, and its
product if it names one. -/
def Passes (filters : List UsbFilter) (p : DetectedPort) : Prop :=
  filters = [] ∨ ∃ f ∈ filters, p.info.vid = some f.vendor ∧
    ∀ product, f.product = some product → p.info.pid = some product

section
variable {filters : List UsbFilter} {detected : List DetectedPort} {p : DetectedPort}

theorem passesFilters_iff :
    passesFilters filters p.info.vid p.info.pid = true ↔ Passes filters p := by
  have one (f : UsbFilter) : f.matches? p.info.vid p.info.pid = true ↔
      p.info.vid = some f.vendor ∧
        ∀ product, f.product = some product → p.info.pid = some product := by
    unfold UsbFilter.matches?
    cases f.product <;> simp
  simp only [passesFilters, Passes, Bool.or_eq_true, List.isEmpty_iff, List.any_eq_true, one]

instance : DecidablePred (Passes filters) := fun _ => decidable_of_iff _ passesFilters_iff

/-- The candidates are the ports that pass, in the order in which they were found. -/
theorem candidatesOf_passes :
    candidatesOf filters detected = detected.filter (Passes filters ·) := by
  refine List.filter_congr fun p _ => ?_
  rw [Bool.eq_iff_iff, passesFilters_iff, decide_eq_true_iff]

theorem candidatesOf_eq_nil :
    candidatesOf filters detected = [] ↔ ∀ p ∈ detected, ¬ Passes filters p := by
  simp [candidatesOf_passes]

end

/-! ### What a request comes to -/

/-- The port that is chosen among some ports, if one is. -/
def Selection.chosen (s : Selection) (offered : List DetectedPort) : Option DetectedPort :=
  (s.chooser offered).bind (offered[·]?)

/-- How a provider answers a request: it lets its chooser choose among the ports that pass. -/
structure Dock.Grants (d : Dock) (s : Selection) (filters : List UsbFilter)
    (detected : List DetectedPort) (offered : List DetectedPort) : Prop where
  /-- The chooser is asked about what is offered and about nothing else. -/
  offers : ∀ chooser, chooser offered = s.chooser offered →
    d.request { s with chooser } filters detected = d.request s filters detected
  /-- It fails for want of a port if and only if none passes. -/
  none_iff : (d.request s filters detected).1 = .error .noCompatibleDevice ↔
    ∀ p ∈ detected, ¬ Passes filters p
  /-- It is called off if and only if there are some, and the chooser declines or is beside them. -/
  cancelled_iff : (d.request s filters detected).1 = .error .cancelled ↔
    offered ≠ [] ∧ ∀ i, s.chooser offered = some i → offered.length ≤ i
  /-- It gives a handle of the port that was chosen. -/
  granted_iff : ∀ port, (d.request s filters detected).1 = .ok port ↔
    ∃ i p, s.chooser offered = some i ∧ offered[i]? = some p ∧
      port = (d.grant p.info s.timeout).1
  /-- A handle of a port has its name. What else is known of it is what was known when the name was
  granted first. -/
  handle : ∀ p timeout, (d.grant p timeout).1.info.name = p.name ∧
    (p.name ∉ d.names → (d.grant p timeout).1.info = p) ∧
    (p.name ∈ d.names → ∃ k ∈ d.known, k.info.name = p.name ∧ (d.grant p timeout).1.IsView k)

section
variable {d : Dock} {s : Selection} {filters : List UsbFilter} {detected : List DetectedPort}

theorem Selection.chosen_eq_some {offered : List DetectedPort} {p : DetectedPort} :
    s.chosen offered = some p ↔ ∃ i, s.chooser offered = some i ∧ offered[i]? = some p :=
  Option.bind_eq_some_iff

theorem Selection.chosen_eq_none {offered : List DetectedPort} :
    s.chosen offered = none ↔ ∀ i, s.chooser offered = some i → offered.length ≤ i := by
  simp [chosen, Option.bind_eq_none_iff]

/-- A request without a fixed name, by the candidates and the choice among them. -/
theorem Dock.request_free (d : Dock) (s : Selection) (filters : List UsbFilter)
    (detected : List DetectedPort) (free : s.portName = none) :
    (d.request s filters detected).1 =
      if candidatesOf filters detected = [] then .error .noCompatibleDevice
      else match s.chosen (candidatesOf filters detected) with
        | none => .error .cancelled
        | some p => .ok (d.grant p.info s.timeout).1 := by
  rw [Dock.request_pick]
  unfold Selection.pick Selection.chosen
  simp only [free, List.isEmpty_iff]
  by_cases empty : candidatesOf filters detected = []
  · simp only [if_pos empty]
  · simp only [if_neg empty]
    cases (s.chooser (candidatesOf filters detected)).bind
      ((candidatesOf filters detected)[·]?) <;> rfl

/-- What a chooser says about other lists than the candidates does not matter. -/
theorem Dock.request_congr {chooser : List DetectedPort → Option Nat} (free : s.portName = none)
    (same : chooser (candidatesOf filters detected) = s.chooser (candidatesOf filters detected)) :
    d.request { s with chooser } filters detected = d.request s filters detected := by
  rw [Dock.request_pick, Dock.request_pick]
  unfold Selection.pick
  simp only [free, same]

/-- **A request without a fixed name lets the chooser choose among the ports that pass.** -/
theorem Dock.request_grants (d : Dock) (filters : List UsbFilter) (detected : List DetectedPort)
    (free : s.portName = none) :
    d.Grants s filters detected (detected.filter (Passes filters ·)) := by
  rw [← candidatesOf_passes]
  have request := d.request_free s filters detected free
  refine ⟨fun _ same => Dock.request_congr free same, ?_, ?_, fun port => ?_, fun p timeout => ?_⟩
  · rw [request, ← candidatesOf_eq_nil]
    split
    · simp [*]
    · split <;> simp [*]
  · rw [request, ← Selection.chosen_eq_none]
    split
    · simp [*]
    · split <;> simp [*]
  · have by_choice : (∃ i p, s.chooser (candidatesOf filters detected) = some i ∧
        (candidatesOf filters detected)[i]? = some p ∧ port = (d.grant p.info s.timeout).1) ↔
        ∃ p, s.chosen (candidatesOf filters detected) = some p ∧
          port = (d.grant p.info s.timeout).1 := by
      simp only [Selection.chosen_eq_some]
      exact ⟨fun ⟨i, p, chosen, there, same⟩ => ⟨p, ⟨i, chosen, there⟩, same⟩,
        fun ⟨p, ⟨i, chosen, there⟩, same⟩ => ⟨i, p, chosen, there, same⟩⟩
    rw [request, by_choice]
    split
    · rename_i empty
      simp [empty, Selection.chosen]
    · split <;> simp [*, eq_comm]
  · by_cases known : p.name ∈ d.names
    · obtain ⟨k, hk, same, granted⟩ := Dock.grant_known timeout known
      refine ⟨d.grant_name p timeout, absurd known, fun _ => ⟨k, hk, same, ?_⟩⟩
      rw [granted]
      exact ⟨rfl, rfl⟩
    · refine ⟨d.grant_name p timeout, fun _ => ?_, fun h => absurd h known⟩
      rw [Dock.grant_new timeout known]

/-- Who always chooses the most likely board never calls a request off. -/
theorem Dock.request_best (d : Dock) (filters : List UsbFilter) (detected : List DetectedPort)
    (free : s.portName = none) (best : s.chooser = bestCandidate) :
    (d.request s filters detected).1 ≠ .error .cancelled := by
  intro cancelled
  obtain ⟨some?, beside⟩ := (d.request_grants filters detected free).cancelled_iff.mp cancelled
  obtain ⟨i, chosen, there⟩ := bestCandidate_there some?
  have := beside i (by rw [best, chosen])
  omega

end

/-! ### What a connect asks for -/

/-- Whether an operation asks for a port. -/
def StationOp.asksPort : StationOp → Bool
  | .requestPort _ => true
  | _ => false

/-- An operation that asks for no port. -/
def StationOp.Unasking (op : StationOp) : Prop := op.asksPort = false

/-- The requests for a port. -/
def portRequests (calls : List (Exchange Station)) : List (Exchange Station) :=
  calls.filter (·.op.asksPort)

/-- The requests are none, or a selection of a port; it was called off if the call says so. -/
def Picks (config : Config) (asked : List (Exchange Station)) (cancelled : Prop) : Prop :=
  (asked = [] ∧ ¬ cancelled) ∨
    ∃ chosen, Chooses config asked chosen ∧ (cancelled → chosen = .error .cancelled)

section
variable {config : Config} {calls calls' : List (Exchange Station)} {g : Nat} {baud : UInt32}
  {previous : Option Session} {loader : Loader}

@[simp] theorem portRequests_nil : portRequests [] = [] := rfl

@[simp] theorem portRequests_append :
    portRequests (calls ++ calls') = portRequests calls ++ portRequests calls' :=
  List.filter_append _ _

theorem portRequests_skip {e : Exchange Station} (h : e.op.asksPort = false) :
    portRequests (e :: calls) = portRequests calls :=
  List.filter_cons_of_neg (by simp [h])

theorem portRequests_eq_nil (h : ∀ e ∈ calls, e.op.Unasking) : portRequests calls = [] :=
  List.filter_eq_nil_iff.mpr fun e he => Bool.eq_false_iff.mp (h e he)

theorem Chooses.asks {chosen : Except SelectFault Port} (h : Chooses config calls chosen) :
    portRequests calls = calls := by
  cases h <;> rfl

theorem restorePort_unasking {port : Port} {context : String} {variant : Variant}
    {complaint : String → String} {u : Unit}
    (h : (restorePort config port context variant complaint).Speaks calls u) :
    portRequests calls = [] :=
  portRequests_eq_nil (h.uses (restorePort_uses fun _ => rfl))

/-- Asking the board about itself asks for no port. -/
theorem inventory_unasking : (inventory g loader).Uses StationOp.Unasking := by
  have asks {op : StationOp} (h : op.Unasking) : (Station.perform op).Uses StationOp.Unasking :=
    .perform (S := Station) h
  have logs (variant : Variant) (message : String) :
      (log variant message).Uses StationOp.Unasking := log_uses (fun _ => rfl) variant message
  refine Uses.bind (asks rfl) fun shaken => ifCurrent_uses rfl trivial ?_
  cases shaken with
  | error fault => trivial
  | ok _ =>
    refine (logs _ _).bind fun _ => Uses.bind ?_ fun _ => ifCurrent_uses rfl trivial ?_
    · refine Uses.bind (asks rfl) fun stub => ?_
      cases stub <;> exact logs _ _
    refine Uses.bind (asks rfl) fun chip => Uses.bind ?_ fun id => ifCurrent_uses rfl trivial ?_
    · refine Uses.bind (asks rfl) fun id => ?_
      cases id with
      | ok id => trivial
      | error fault => exact (logs _ _).bind fun _ => trivial
    refine Uses.bind ?_ fun size => ifCurrent_uses rfl trivial trivial
    refine Uses.bind (asks rfl) fun size => ?_
    cases size with
    | ok size => trivial
    | error fault => exact (logs _ _).bind fun _ => trivial

theorem acquire_picks {r : Except ConnectFault Loader}
    (h : (acquire config g baud).Speaks calls r) :
    Picks config (portRequests calls) (r = .error .selectionCancelled) := by
  obtain ⟨_, sweeping, _, rfl, swept, h1⟩ := Speaks.bind_inv h
  have sweeps : portRequests sweeping = [] :=
    portRequests_eq_nil (swept.uses (reclaimKnown_uses (fun _ => rfl) rfl))
  rw [portRequests_append, sweeps, List.nil_append]
  rcases Speaks.either h1 with late | h2
  · -- it was superseded before it asked for a port
    obtain ⟨rfl, rfl⟩ := Speaks.done_inv late
    exact .inl ⟨rfl, nofun⟩
  · obtain ⟨selected, choosing, boarding, rfl, asked, h3⟩ := Speaks.bind_inv h2
    obtain ⟨chosen, chooses, rfl⟩ := selectPort_chooses asked
    rw [portRequests_append, chooses.asks]
    cases chosen with
    | error fault =>
      obtain ⟨rfl, rfl⟩ := Speaks.done_inv h3
      refine .inr ⟨_, by rwa [portRequests_nil, List.append_nil], fun cancelled => ?_⟩
      cases fault with
      | cancelled => rfl
      | noCompatibleDevice | port _ => cases cancelled
    | ok port =>
      -- the port is brought back, and no other is asked for
      obtain ⟨seen, _, rfl, _, h4⟩ :=
        Speaks.call_inv (.link (.streams port)) (Speaks.log_inv h3) rfl
      obtain ⟨_, reclaiming, _, rfl, reclaimed, h5⟩ := Speaks.bind_inv (Speaks.log_inv h4)
      rw [portRequests_skip rfl, portRequests_append, restorePort_unasking reclaimed]
      rcases Speaks.either h5 with late | h6
      · obtain ⟨_, again, _, rfl, reclaimed, h7⟩ := Speaks.bind_inv late
        obtain ⟨rfl, rfl⟩ := Speaks.done_inv h7
        rw [portRequests_append, restorePort_unasking reclaimed]
        exact .inr ⟨_, by simpa using chooses, nofun⟩
      · obtain ⟨loader, _, rfl, _, h7⟩ :=
          Speaks.call_inv (.attach port baud config.romBaud) (Speaks.log_inv h6) rfl
        obtain ⟨rfl, rfl⟩ := Speaks.done_inv h7
        rw [portRequests_skip rfl]
        exact .inr ⟨_, by simpa using chooses, nofun⟩

/-- A selection that went on is one of a connect that was not called off. -/
theorem Picks.onward {asked : List (Exchange Station)} {cancelled cancelled' : Prop}
    (h : Picks config asked cancelled) (other : ¬ cancelled') : Picks config asked cancelled' := by
  rcases h with ⟨none, _⟩ | ⟨chosen, chooses, _⟩
  · exact .inl ⟨none, other⟩
  · exact .inr ⟨chosen, chooses, fun cancelled => absurd cancelled other⟩

/-- **What an attempt asks for is a selection of a port**, unless it is superseded before. -/
theorem attempt_picks {told : List (Variant × String)} {r : Except ConnectFault DeviceInfo}
    (h : (attempt config g baud previous).Tells calls told r) :
    Picks config (portRequests calls) (r = .error .selectionCancelled) := by
  obtain ⟨checks, cleans, acquires, meets⟩ := attempt_parts h
  have looks := portRequests_eq_nil (checks.speaks.uses (startupCheck_uses (fun _ => rfl) rfl))
  have frees := portRequests_eq_nil
    (cleans.speaks.uses (cleanUp_uses (fun _ => rfl) (fun _ => rfl) _))
  have picks := acquire_picks acquires.speaks
  simp only [portRequests_append, looks, frees, List.nil_append]
  -- what comes after the loader was made asks for no port, and is not called off
  cases meets with
  | nobody ends =>
    obtain ⟨rfl, rfl⟩ := fails_silent ends.speaks
    simpa using picks
  | joins asks =>
    have asked := portRequests_eq_nil (asks.speaks.uses inventory_unasking)
    rw [asked, List.append_nil]
    exact picks.onward nofun
  | fails asks releases ends =>
    obtain ⟨rfl, rfl⟩ := fails_silent ends.speaks
    have asked := portRequests_eq_nil (asks.speaks.uses inventory_unasking)
    have released := portRequests_eq_nil
      (releases.speaks.uses (release_uses (fun _ => rfl) fun _ => rfl))
    simp only [portRequests_append, asked, released, List.append_nil]
    refine picks.onward ?_
    rintro ⟨⟩
    obtain ⟨answer, _, same⟩ := inventory_interviews asks.speaks nofun
    cases answer <;> cases same

end

/-- **What a connect asks for is a selection of a port**, unless it is refused or superseded
before. -/
theorem Course.connect_picks {config : Config} {preferred : Option UInt32} {f f' : Floor}
    {x : List Event} {r : Result}
    (h : Course none ((Errand.connect preferred).program config) f x f' (.done r)) :
    Picks config (portRequests (outward (dialogue x)))
      (r.failure = some (.connect .selectionCancelled)) := by
  have begins := h.connect_begins
  cases begins with
  | refused text refusal refused =>
    obtain ⟨_, _, minds⟩ := h.connect_refusal
    have asks := (minds.refuses_done refused refusal.refuses).asks
    refine .inl ⟨portRequests_eq_nil fun e he => ?_, fun cancelled => ?_⟩
    · rw [StationOp.Unasking, asks e he]
      rfl
    · obtain rfl := Option.some.inj (refused.symm.trans cancelled)
      cases refusal
  | @accepted _ _ _ r' tag _ =>
    obtain ⟨pre, y, _, split, record, ⟨⟩, _, course⟩ := h.connect_opens tag
    rw [split, dialogue_does, outward_cons rfl, portRequests_skip rfl, dialogue_append,
      outward_append, outward_record record, List.nil_append]
    have same : (Result.connected r').failure = some (.connect .selectionCancelled) ↔
        r' = .error .selectionCancelled := by
      cases r' <;> simp [Result.failure]
    rw [same]
    exact attempt_picks course.tells

/-- What a connect has asked for so far is a beginning of a selection; if it is over, it is all of
it. -/
theorem Traffic.Run.picks {config : Config} {t : Traffic} {log : List Deed} {i : Nat} {c : Call}
    {preferred : Option UInt32} (run : Run config .new log t) (hc : t.calls[i]? = some c)
    (he : c.errand = .connect preferred) :
    ∃ asked cancelled, Picks config asked cancelled ∧
      portRequests (outward (dialogue (diary log i))) <+: asked ∧
      (c.pending = false → portRequests (outward (dialogue (diary log i))) = asked ∧
        (c.failure = some (.connect .selectionCancelled) → cancelled)) := by
  cases rest : c.rest with
  | done r =>
    obtain ⟨_, course, _⟩ := run.followed hc
    rw [he, rest] at course
    refine ⟨_, _, course.connect_picks, List.prefix_rfl, fun _ => ⟨rfl, fun failed => ?_⟩⟩
    rwa [Call.failure, rest] at failed
  | call op next =>
    -- a connect that waits can be answered until it is over
    obtain ⟨later, t', r, run', hc', _⟩ := run.completes hc
    obtain ⟨_, course, _⟩ := run'.followed hc'
    simp only [he] at course
    have picks := course.connect_picks
    rw [diary_append, dialogue_append, outward_append, portRequests_append] at picks
    refine ⟨_, _, picks, List.prefix_append .., fun ended => ?_⟩
    rw [Call.pending, rest] at ended
    cases ended

/-! ### Providers of native ports -/

/-- The handle of a port, as the station gets it. -/
def NativePort.handle (p : NativePort) : Port := ⟨p.info.name, p.info⟩

/-- A provider that finds these ports gives that answer to a request, whatever it granted before. -/
def Selection.Answers (s : Selection) (detected : List DetectedPort) (e : Exchange Station) :
    Prop :=
  ∃ filters d,
    e = ⟨.requestPort filters, ((d : Dock).request s filters detected).1.map NativePort.handle⟩

/-- What a connect asks a provider for that has found these ports, for one request after the
other. -/
structure Selects (config : Config) (found : List (List DetectedPort))
    (asked : List (Exchange Station)) : Prop where
  /-- It asks for a port that passes the filters, and after that for any port. -/
  order : asked.map (·.op) <+: [.requestPort config.filters, .requestPort []]
  /-- If a port was found at first that passes, no more is asked for, and only such a port is
  granted; it is told by its name. -/
  passing : ∀ first more, found = first :: more → (∃ p ∈ first, Passes config.filters p) →
    more = [] ∧ ∀ e ∈ asked, ∀ filters port, e = ⟨.requestPort filters, .ok port⟩ →
      ∃ p ∈ first, Passes config.filters p ∧ port.device = p.info.name
  /-- If any port is asked for, there are filters, and none was found at first that passes. -/
  fallback : ∀ first second more, found = first :: second :: more →
    config.filters ≠ [] ∧ ∀ p ∈ first, ¬ Passes config.filters p

section
variable {config : Config} {s : Selection} {found : List (List DetectedPort)}
  {asked whole : List (Exchange Station)}

/-- The answer to one request. -/
theorem Selection.Answers.request {detected : List DetectedPort} {filters : List UsbFilter}
    {answer : Except SelectFault Port} (h : s.Answers detected ⟨.requestPort filters, answer⟩) :
    ∃ d : Dock, answer = (d.request s filters detected).1.map NativePort.handle := by
  obtain ⟨_, d, same⟩ := h
  cases same
  exact ⟨d, rfl⟩

/-- A port that is granted was found and passes the filters. -/
theorem Selection.Answers.granted {detected : List DetectedPort} {filters : List UsbFilter}
    {port : Port} (h : s.Answers detected ⟨.requestPort filters, .ok port⟩)
    (free : s.portName = none) :
    ∃ p ∈ detected, Passes filters p ∧ port.device = p.info.name := by
  obtain ⟨d, same⟩ := h.request
  have grants := d.request_grants filters detected free
  cases granted : (d.request s filters detected).1 with
  | error fault =>
    rw [granted] at same
    cases same
  | ok native =>
    obtain ⟨i, p, _, there, rfl⟩ := (grants.granted_iff native).mp granted
    obtain ⟨member, passes⟩ := List.mem_filter.mp (List.mem_of_getElem? there)
    rw [granted] at same
    cases same
    exact ⟨p, member, of_decide_eq_true passes, (grants.handle _ _).1⟩

/-- If a request fails for want of a port, none passes. -/
theorem Selection.Answers.refused {detected : List DetectedPort} {filters : List UsbFilter}
    (h : s.Answers detected ⟨.requestPort filters, .error .noCompatibleDevice⟩)
    (free : s.portName = none) : ∀ p ∈ detected, ¬ Passes filters p := by
  obtain ⟨d, same⟩ := h.request
  refine (d.request_grants filters detected free).none_iff.mp ?_
  cases failed : (d.request s filters detected).1 <;> rw [failed] at same <;> cases same
  rfl

/-- A provider that always chooses the most likely board never calls a request off. -/
theorem Selection.Answers.best {detected : List DetectedPort} {filters : List UsbFilter}
    (h : s.Answers detected ⟨.requestPort filters, .error .cancelled⟩)
    (free : s.portName = none) : s.chooser ≠ bestCandidate := by
  intro best
  obtain ⟨d, same⟩ := h.request
  refine d.request_best filters detected free best ?_
  cases failed : (d.request s filters detected).1 <;> rw [failed] at same <;> cases same
  rfl

/-- The requests that a selection begins with. -/
theorem Chooses.beginnings {chosen : Except SelectFault Port} (h : Chooses config whole chosen)
    (begins : asked <+: whole) :
    asked = [] ∨ (∃ answer, asked = [⟨.requestPort config.filters, answer⟩]) ∨
      config.filters ≠ [] ∧ ∃ answer, asked =
        [⟨.requestPort config.filters, .error .noCompatibleDevice⟩, ⟨.requestPort [], answer⟩] := by
  cases h with
  | once =>
    rcases List.prefix_cons_iff.mp begins with rfl | ⟨_, rfl, more⟩
    · exact .inl rfl
    · obtain rfl := List.prefix_nil.mp more
      exact .inr (.inl ⟨_, rfl⟩)
  | again some? =>
    rcases List.prefix_cons_iff.mp begins with rfl | ⟨_, rfl, more⟩
    · exact .inl rfl
    · rcases List.prefix_cons_iff.mp more with rfl | ⟨_, rfl, last⟩
      · exact .inr (.inl ⟨_, rfl⟩)
      · obtain rfl := List.prefix_nil.mp last
        exact .inr (.inr ⟨some?, _, rfl⟩)

/-- Nothing is asked for. -/
theorem Selects.nothing : Selects config [] [] where
  order := List.nil_prefix
  passing _ _ same := by cases same
  fallback _ _ _ same := by cases same

/-- **A selection at a provider of native ports minds the filters.** -/
theorem Chooses.selects {chosen : Except SelectFault Port} (h : Chooses config whole chosen)
    (begins : asked <+: whole) (served : List.Forall₂ s.Answers found asked)
    (free : s.portName = none) : Selects config found asked := by
  rcases h.beginnings begins with rfl | ⟨answer, rfl⟩ | ⟨some?, answer, rfl⟩
  · cases served
    exact .nothing
  · cases served with
    | cons first served =>
      cases served
      refine ⟨List.prefix_append .., fun first more same _ => ?_,
        fun _ _ _ same => by cases same⟩
      obtain ⟨rfl, rfl⟩ := List.cons.inj same
      refine ⟨rfl, List.forall_mem_singleton.mpr ?_⟩
      rintro _ _ ⟨⟩
      exact first.granted free
  · cases served with
    | cons first served =>
      have refused := first.refused free
      refine ⟨List.prefix_rfl, fun first more same passes => ?_, fun first second more same => ?_⟩
      · obtain ⟨rfl, rfl⟩ := List.cons.inj same
        obtain ⟨p, member, passes⟩ := passes
        exact absurd passes (refused p member)
      · obtain ⟨rfl, rfl⟩ := List.cons.inj same
        exact ⟨some?, refused⟩

/-- Who always chooses the most likely board never calls a selection off. -/
theorem Chooses.best (h : Chooses config asked (.error .cancelled))
    (served : List.Forall₂ s.Answers found asked) (free : s.portName = none) :
    s.chooser ≠ bestCandidate := by
  cases h with
  | once =>
    cases served with
    | cons first _ => exact first.best free
  | again =>
    cases served with
    | cons _ served =>
      cases served with
      | cons second _ => exact second.best free

end

open Traffic

/-- **A connect minds the filters**, and with a provider that always chooses the most likely board
it is not called off. -/
theorem Traffic.Run.selects {config : Config} {t : Traffic} {log : List Deed} {i : Nat} {c : Call}
    {preferred : Option UInt32} {s : Selection} {found : List (List DetectedPort)}
    (run : Run config .new log t) (hc : t.calls[i]? = some c) (he : c.errand = .connect preferred)
    (free : s.portName = none)
    (served : List.Forall₂ s.Answers found (portRequests (outward (dialogue (diary log i))))) :
    Selects config found (portRequests (outward (dialogue (diary log i)))) ∧
      (s.chooser = bestCandidate → c.failure ≠ some (.connect .selectionCancelled)) := by
  obtain ⟨whole, cancelled, picks, begins, done⟩ := run.picks hc he
  have ended (failed : c.failure = some (.connect .selectionCancelled)) : c.pending = false := by
    cases rest : c.rest with
    | done r => rw [Call.pending, rest]
    | call op next =>
      rw [Call.failure, rest] at failed
      cases failed
  rcases picks with ⟨rfl, goes⟩ | ⟨chosen, chooses, last⟩
  · have none := List.prefix_nil.mp begins
    rw [none] at served ⊢
    cases served
    exact ⟨.nothing, fun _ failed => goes ((done (ended failed)).2 failed)⟩
  · refine ⟨chooses.selects begins served free, fun best failed => ?_⟩
    obtain ⟨all, called⟩ := done (ended failed)
    rw [last (called failed), ← all] at chooses
    exact chooses.best served free best

/-- **The filters decide which ports are offered.** A request without a fixed name lets the chooser
choose among exactly the ports that were found and pass the filters, in the order in which they were
found, and all ports pass if there are no filters; it grants what is chosen, and fails as it should
if there is nothing to choose from or nothing is chosen. A request with a fixed name grants that
name. Take any connect in any run, at any time, whose requests a provider without a fixed name has
answered. If a port was found for its first request that passes the station's filters, that was its
only request, and only such a port was granted; it asks for any port only if there was none. And it
does not fail because it was called off if the provider always chooses the most likely board. -/
theorem selection_respects_filters (s : Selection) :
    (s.portName = none → ∀ (d : Dock) filters detected,
      d.Grants s filters detected (detected.filter (Passes filters ·)) ∧
      d.Grants s [] detected detected) ∧
    (∀ name, s.portName = some name → ∀ (d : Dock) filters detected,
      ∃ port, (d.request s filters detected).1 = .ok port ∧ port.info.name = name) ∧
    (s.portName = none → ∀ config t log i c preferred found, Run config .new log t →
      t.calls[i]? = some c → c.errand = .connect preferred →
      let asked := portRequests (outward (dialogue (diary log i)))
      List.Forall₂ s.Answers found asked → Selects config found asked ∧
        (s.chooser = bestCandidate → c.failure ≠ some (.connect .selectionCancelled))) := by
  refine ⟨?_, ?_, ?_⟩
  · intro free d filters detected
    have all : detected.filter (Passes [] ·) = detected :=
      List.filter_eq_self.mpr fun p _ => decide_eq_true (.inl rfl)
    have grants := d.request_grants [] detected free
    rw [all] at grants
    exact ⟨d.request_grants filters detected free, grants⟩
  · intro name fixed d filters detected
    obtain ⟨info, picked, named⟩ : ∃ info, s.pick filters detected = .ok info ∧ info.name = name :=
      Selection.pick_named fixed
    have granted : (d.grant info s.timeout).1.info.name = name :=
      (d.grant_name info s.timeout).trans named
    rw [Dock.request_pick, picked]
    exact ⟨_, rfl, granted⟩
  · intro free config t log i c preferred found run hc he asked served
    exact run.selects hc he free served

/-- A provider that always chooses the most likely board. -/
def Selection.likely : Selection := ⟨none, bestCandidate, 20⟩

/-- The port of a board. -/
def boardPort : PortInfo := { PortInfo.bare "/dev/ttyUSB0" with vid := some 0x10C4 }

/-- A port of the machine itself, and the port of a board. -/
def boardFound : List DetectedPort := [.ofInfo (.bare "/dev/ttyS0"), .ofInfo boardPort]

/-- The provider finds the port of a board, and all else works. -/
def granting : (op : StationOp) → op.Answer
  | .requestPort filters =>
    (Dock.empty.request .likely filters boardFound).1.map NativePort.handle
  | op => obliging default .closed op

/-- A connect that asks for a port. -/
def Traffic.asking : Traffic :=
  (Traffic.new.begin .default granting (.connect none)).carryOn granting 0 2

/-- A connect is granted the board, and asks for nothing more. -/
theorem board_granted :
    ∃ log c, Run .default .new log (Traffic.asking.resume granting 0) ∧
      (Traffic.asking.resume granting 0).calls[0]? = some c ∧
      List.Forall₂ Selection.likely.Answers [boardFound]
        (portRequests (outward (dialogue (diary log 0)))) ∧
      Selects .default [boardFound] (portRequests (outward (dialogue (diary log 0)))) ∧
      c.failure ≠ some (.connect .selectionCancelled) := by
  have begins : Step .default .new Traffic.new.calls.length _ _ :=
    .begins (.connect none) (.advance granting _ _)
  have looks : Step .default (Traffic.new.begin .default granting (.connect none)) 0 _ _ :=
    Step.resume granting (by decide +kernel)
  have lists : Step .default
      ((Traffic.new.begin .default granting (.connect none)).resume granting 0) 0 _ .asking :=
    Step.resume granting (by decide +kernel)
  have asks : Step .default .asking 0 _ (Traffic.asking.resume granting 0) :=
    Step.resume granting (by decide +kernel)
  obtain ⟨log, run, ops, answers⟩ : ∃ log,
      Run .default .new log (Traffic.asking.resume granting 0) ∧
      (portRequests (outward (dialogue (diary log 0)))).map (·.op) =
        [.requestPort Config.default.filters] ∧
      picks (portRequests (outward (dialogue (diary log 0)))) =
        [(Dock.empty.request .likely Config.default.filters boardFound).1.map
          NativePort.handle] :=
    ⟨_, (((Run.here.step begins).step looks).step lists).step asks, by decide +kernel,
      by decide +kernel⟩
  have served : List.Forall₂ Selection.likely.Answers [boardFound]
      (portRequests (outward (dialogue (diary log 0)))) := by
    obtain ⟨⟨op, answer⟩, asked, rfl⟩ := List.map_eq_singleton_iff.mp ops
    rw [asked] at answers ⊢
    obtain rfl := List.singleton_inj.mp answers
    exact .cons ⟨_, .empty, rfl⟩ .nil
  have after : (Traffic.asking.resume granting 0).calls[0]?.map Call.errand =
      some (.connect none) := by
    decide +kernel
  obtain ⟨c, hc, errand⟩ := Option.map_eq_some_iff.mp after
  obtain ⟨selects, best⟩ := (selection_respects_filters .likely).2.2 rfl .default _ log 0 c none
    [boardFound] run hc errand served
  exact ⟨log, c, run, hc, served, selects, best rfl⟩

end FlashStation
