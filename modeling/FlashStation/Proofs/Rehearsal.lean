/-
# The trail on the bench

A script may clear the trail, in a step of its own or in one that is hooked to an operation of the
station; such a step is seen to begin. As long as none does, every entry that is in the trail of the
bench stays where it is, whatever the station does, whatever the loader prints and however deep
steps are hooked into each other: an operation leads from one world to another that has the same
entries and perhaps more behind them, and so does a program, a step and a script.

Key definitions: `Bench.World.Leads`, `Bench.World.after`.
Key theorems: `Bench.World.Leads.run`, `Bench.serve_leads`, `Bench.script_keeps`.
-/
import FlashStation.Bench.Run

namespace FlashStation.Bench

/-! ### From one world to another -/

namespace World

/-- From one world to another, entries of the trail are kept unless a step that clears it began. -/
def Leads (w w' : World) : Prop :=
  ∃ more, w'.events = w.events ++ more ∧
    (.begins Step.clearLog.word ∉ more → w.trail.entries <+: w'.trail.entries)

variable {w w' w'' : World}

/-- Whatever neither happens on the bench nor concerns the trail changes nothing. -/
theorem Leads.of_same (events : w'.events = w.events) (trail : w'.trail = w.trail) :
    w.Leads w' :=
  ⟨[], by rw [events, List.append_nil], fun _ => trail ▸ List.prefix_refl _⟩

theorem Leads.refl (w : World) : w.Leads w :=
  .of_same rfl rfl

theorem Leads.trans (h : w.Leads w') (h' : w'.Leads w'') : w.Leads w'' := by
  obtain ⟨more, events, kept⟩ := h
  obtain ⟨more', events', kept'⟩ := h'
  refine ⟨more ++ more', by rw [events', events, List.append_assoc], fun unclear => ?_⟩
  obtain ⟨early, late⟩ := not_or.mp (mt List.mem_append.mpr unclear)
  exact (kept early).trans (kept' late)

theorem leads_emit (w : World) (e : Event) : w.Leads (w.emit e) :=
  ⟨[e], rfl, fun _ => List.prefix_refl _⟩

theorem leads_log (w : World) (variant : Variant) (message : String) :
    w.Leads (w.log variant message) :=
  ⟨[_], rfl, fun _ => List.prefix_append _ _⟩

/-- Changes one after another lead on if each does. -/
theorem leads_foldl {α : Type} {f : World → α → World} (each : ∀ (w : World) a, w.Leads (f w a))
    (list : List α) (w : World) : w.Leads (list.foldl f w) := by
  induction list generalizing w with
  | nil => exact .refl w
  | cons a list ih => exact (each w a).trans (ih (f w a))

/-- A loader that prints only adds to the trail, also when it wishes to wipe the screen. -/
theorem leads_print (w : World) (call : TerminalCall) : w.Leads (w.print call) :=
  leads_foldl (fun w line => w.leads_log .trace line) call.traces w

theorem leads_portFault (w : World) (spot : PortSpot) : w.Leads (w.nextPortFault spot).2 :=
  .of_same rfl rfl

theorem leads_loaderFault (w : World) (call : LoaderCall) : w.Leads (w.nextLoaderFault call).2 :=
  .of_same rfl rfl

theorem leads_hook (w : World) (point : Point) : w.Leads (w.nextHook point).2 := by
  unfold nextHook
  split <;> exact .of_same rfl rfl

/-- A program leads on if each operation does. -/
theorem Leads.run {α : Type} {handler : Handler} (each : ∀ op (w : World), w.Leads (handler op w).2)
    (p : Program Station α) (w : World) : w.Leads (p.run handler w).2 := by
  induction p generalizing w with
  | done a => exact .refl w
  | call op next ih => exact (each op w).trans (ih _ _)

end World

/-! ### Operations -/

section
variable {hook : Hook} (hooked : ∀ point (w : World), w.Leads (hook point w))
include hooked

theorem servePort_leads (id : String) (call : PortCall) (baud : UInt32) (w : World) :
    w.Leads (servePort hook id call baud w).2 := by
  have first : w.Leads (if call.suspends then hook (.port call) w else w) := by
    split
    · exact hooked _ w
    · exact .refl w
  unfold servePort
  refine first.trans ?_
  generalize (if call.suspends then hook (.port call) w else w) = w
  dsimp only
  have planned := w.leads_portFault (.call id call)
  generalize w.nextPortFault (.call id call) = next at planned ⊢
  obtain ⟨_ | fault, w'⟩ := next
  · have called : w'.Leads (w'.setStreams id (callPort (w'.streamsOf id) call).2) :=
      .of_same rfl rfl
    exact planned.trans (called.trans (World.leads_emit _ _))
  · exact planned.trans (w'.leads_emit _)

theorem serveLink_leads (op : LinkOp) (w : World) : w.Leads (serveLink hook op w).2 := by
  cases op with
  | cancelReader | releaseReader | closeWriter | releaseWriter | close =>
    exact servePort_leads hooked _ _ _ w
  | log variant message => exact w.leads_log variant message
  | streams | sleep | note => exact .of_same rfl rfl

theorem serveSupply_leads (op : SupplyOp) (w : World) : w.Leads (serveSupply hook op w).2 := by
  cases op with
  | log variant message => exact w.leads_log variant message
  | locate | readLocal | note => exact .of_same rfl rfl
  | fetch path =>
    show w.Leads (serveFetch hook path w).2
    unfold serveFetch
    split
    · exact .refl w
    · exact (hooked _ w).trans (World.leads_emit _ _)

theorem serveKnownPorts_leads (w : World) : w.Leads (serveKnownPorts hook w).2 := by
  unfold serveKnownPorts
  refine (hooked .knownPorts w).trans ?_
  generalize hook .knownPorts w = w
  dsimp only
  have planned := w.leads_portFault .knownPorts
  generalize w.nextPortFault .knownPorts = next at planned ⊢
  obtain ⟨_ | fault, w'⟩ := next <;> exact planned.trans (w'.leads_emit _)

theorem serveRequest_leads (filters : List UsbFilter) (w : World) :
    w.Leads (serveRequest hook filters w).2 := by
  unfold serveRequest
  refine (hooked .requestPort w).trans ?_
  generalize hook .requestPort w = w
  have answered (rest : List Response) (result : Except SelectFault String) :
      w.Leads ({ w with responses := rest }.emit (.requestPort filters result)) :=
    .trans (.of_same rfl rfl) (World.leads_emit _ _)
  dsimp only
  split
  · exact answered _ _
  · exact (answered _ _).trans (.of_same rfl rfl)

theorem serveCall_leads {α : Type} (call : LoaderCall) (word what : String)
    (answer : LoaderScript → Answered α) (w : World) :
    w.Leads (serveCall hook call word what answer w).2 := by
  unfold serveCall
  refine (hooked (.loader call) w).trans ?_
  generalize hook (.loader call) w = w
  dsimp only
  split
  · exact w.leads_emit _
  · have planned := w.leads_loaderFault call
    generalize w.nextLoaderFault call = next at planned ⊢
    obtain ⟨_ | fault, w'⟩ := next <;> exact planned.trans (w'.leads_emit _)

theorem serveHandshake_leads (loader : Loader) (w : World) :
    w.Leads (serveHandshake hook loader w).2 := by
  unfold serveHandshake
  refine (hooked (.loader .handshake) w).trans ?_
  generalize hook (.loader .handshake) w = w
  have opened : w.Leads (if w.loader.opens then
      servePort hook loader.port.device .opening loader.romBaud w else (.ok (), w)).2 := by
    split
    · exact servePort_leads hooked _ _ _ w
    · exact .refl w
  dsimp only
  generalize (if w.loader.opens then
      servePort hook loader.port.device .opening loader.romBaud w else (.ok (), w)) = next
      at opened ⊢
  obtain ⟨fault | ⟨⟩, w⟩ := next
  · exact opened.trans (w.leads_emit _)
  · refine opened.trans ((World.leads_foldl World.leads_print w.loader.terminal w).trans ?_)
    dsimp only
    generalize w.loader.terminal.foldl World.print w = w
    have planned := w.leads_loaderFault .handshake
    generalize w.nextLoaderFault .handshake = next at planned ⊢
    obtain ⟨_ | fault, w'⟩ := next
    · exact planned.trans (.trans (.of_same rfl rfl) (World.leads_emit _ _))
    · exact planned.trans (w'.leads_emit _)

variable {steps : List Step → World → World} {report : Nat → UInt64 → UInt64 → World → World}
  (meanwhile : ∀ list (w : World), w.Leads (steps list w))
  (reported : ∀ generation written total (w : World), w.Leads (report generation written total w))
include meanwhile reported

theorem serveWrite_leads (payload : Payload) (compress : Bool) (generation : Nat) (w : World) :
    w.Leads (serveWrite hook steps (report generation) payload compress w).2 := by
  unfold serveWrite
  refine (hooked (.loader .write) w).trans ?_
  generalize hook (.loader .write) w = w
  have write (w : World) (step : WriteStep) :
      w.Leads (serveWriteStep steps (report generation) w step) := by
    cases step with
    | report written total => exact reported generation written total w
    | steps list => exact meanwhile list w
  refine (w.leads_emit (.write payload compress)).trans ?_
  dsimp only
  generalize w.emit (.write payload compress) = w
  refine (World.leads_foldl write w.loader.writes w).trans ?_
  generalize w.loader.writes.foldl (serveWriteStep steps (report generation)) w = w
  exact (w.leads_loaderFault .write).trans (World.leads_emit _ _)

/-- **Every operation of the station leads on**, if what is hooked in does. -/
theorem serveWith_leads (op : StationOp) (w : World) :
    w.Leads (serveWith hook steps report op w).2 := by
  cases op with
  | link op => exact serveLink_leads hooked op w
  | supply op => exact serveSupply_leads hooked op w
  | changed before after => exact w.leads_emit _
  | progress percent => exact w.leads_emit _
  | knownPorts => exact serveKnownPorts_leads hooked w
  | requestPort filters => exact serveRequest_leads hooked filters w
  | attach port baud romBaud => exact .trans (.of_same rfl rfl) (World.leads_emit _ _)
  | handshake loader => exact serveHandshake_leads hooked loader w
  | runStub | flashId | flashSize | hardReset | softReset =>
    exact serveCall_leads hooked _ _ _ _ w
  | writeFlash loader payload compress generation =>
    exact serveWrite_leads hooked meanwhile reported payload compress generation w
  | read | current | write | supported | intoPort | chipName | hasHardReset =>
    exact .of_same rfl rfl

end

/-! ### Steps -/

section
variable {handler : Handler} (served : ∀ op (w : World), w.Leads (handler op w).2)
include served

/-- A step that is not there to clear the trail leads on. -/
theorem runStep_leads {step : Step} (kept : step ≠ .clearLog) (w : World) :
    w.Leads (runStep handler step w).2 := by
  cases step with
  | clearLog => exact absurd rfl kept
  | connect baud => exact .run served (Station.connect w.config baud) w
  | disconnect => exact .run served (Station.disconnect w.config) w
  | flash choice =>
    rw [runStep]
    split
    · exact .refl w
    · rename_i source _
      exact .run served (Station.flash w.config source) w
  | flashChoice choice => exact .run served (Station.flashChoice w.config choice) w
  | reclaim id context delays => exact .run served (Station.onLink (reclaim _ _ context)) w
  | log variant message => exact w.leads_log variant message
  | count | look | respond | known | port | supported | loader | fail | files | hooks =>
    exact .of_same rfl rfl

/-- A hooked step is seen to begin, and leads on if it is not there to clear the trail. -/
theorem runHooked_leads (steps : List Step) (w : World) :
    w.Leads (runHooked handler steps w) := by
  refine World.leads_foldl (fun w step => ?_) steps w
  by_cases kept : step = .clearLog
  · subst kept
    exact ⟨[.begins Step.clearLog.word, .ends Step.clearLog.word (.cleared 0 true)], by
      simp [runStep, World.emit, Trail.clear, Trail.size], fun unclear => absurd (.head _) unclear⟩
  · exact ((w.leads_emit _).trans (runStep_leads served kept _)).trans (World.leads_emit _ _)

end

theorem runReport_leads (generation : Nat) (written total : UInt64) (w : World) :
    w.Leads (runReport generation written total w) :=
  .run (serveWith_leads (fun _ => .refl) (fun _ => .refl) fun _ _ _ => .refl) _ w

/-- **The operations of the station lead on**, however deep steps are hooked into each other. -/
theorem serve_leads (depth : Nat) (op : StationOp) (w : World) :
    w.Leads (serve depth op w).2 := by
  induction depth generalizing op w with
  | zero =>
    exact serveWith_leads (fun _ => .refl) (fun _ => .refl) runReport_leads op w
  | succ depth ih =>
    refine serveWith_leads (fun point w => ?_) (runHooked_leads ih) runReport_leads op w
    exact (w.leads_hook point).trans (runHooked_leads ih _ _)

/-! ### Scripts -/

/-- The bench after some steps of a script. -/
def World.after (handler : Handler) (w : World) (steps : List Step) : World :=
  steps.foldl (fun w step => (runStep handler step { w with events := [] }).2) w

theorem World.after_nil (handler : Handler) (w : World) : w.after handler [] = w :=
  rfl

theorem World.after_append (handler : Handler) (w : World) (steps later : List Step) :
    w.after handler (steps ++ later) = (w.after handler steps).after handler later :=
  List.foldl_append

/-- **The trail of the bench is only added to.** After some steps of a script and after more, if
none of these clears the trail or is reported to have begun a step that does, the trail of then is
the beginning of the trail of now. -/
theorem script_keeps {depth : Nat} {later : List Step} (unclear : .clearLog ∉ later) {w : World}
    (unseen : ∀ r ∈ runAll (serve depth) later w, .begins Step.clearLog.word ∉ r.events) :
    w.trail.entries <+: (w.after (serve depth) later).trail.entries := by
  induction later generalizing w with
  | nil => exact List.prefix_refl _
  | cons step later ih =>
    obtain ⟨first, rest⟩ := not_or.mp (mt List.mem_cons.mpr unclear)
    obtain ⟨seen, more⟩ := List.forall_mem_cons.mp unseen
    obtain ⟨events, same, kept⟩ :=
      runStep_leads (serve_leads depth) (Ne.symm first) { w with events := [] }
    rw [List.nil_append] at same
    exact (kept (same ▸ seen)).trans (ih rest more)

end FlashStation.Bench
