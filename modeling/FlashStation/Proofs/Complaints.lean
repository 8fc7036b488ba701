/-
# What the trail tells of failures

A flash that fails tells of it in one error, and one that works tells of none, whatever the restart
of the board came to. A connect that fails tells of it in one entry as well, and on its way it tells
of each stage of a reclaim that failed, of each known or chosen port that could not be brought back,
and of the identifier if that was not had. Each of these is told once and nothing else is told as an
error; the rest of what went wrong is left as a trace.

The account is kept along the program: a part is balanced if it tells as many errors as calls of it
went wrong. Almost all parts are; only those that bring known and chosen ports back tell one more
for each port that is stuck.

Key definitions: `failedStages`, `failedIds`, `Program.Balanced`, `Restores`, `Swept`, `Boarded`,
`Stuck`, `Account`.
Key theorems: `reclaim_errors`, `restorePort_told`, `reclaimKnown_told`, `acquire_told`,
`attempt_told`, `Course.flash_told`, `Course.connect_account`, `failures_told`.
-/
import FlashStation.Proofs.Progress
import FlashStation.Proofs.Refusals
import FlashStation.Proofs.Upshot

namespace FlashStation

open Station Program

/-! ### Calls that go wrong -/

namespace Exchange

/-- Whether an exchange makes a stage of a reclaim fail. A writer that is closing already is no
failure. -/
def failsStage : Exchange Station → Bool
  | ⟨.link (.cancelReader _), .error _⟩ | ⟨.link (.releaseReader _), .error _⟩
  | ⟨.link (.releaseWriter _), .error _⟩ | ⟨.link (.close _), .error _⟩ => true
  | ⟨.link (.closeWriter _), .error fault⟩ => fault != .writerClosing
  | _ => false

/-- Whether an exchange is a question for the flash chip's identifier that was not answered. -/
def failsId : Exchange Station → Bool
  | ⟨.flashId _, .error _⟩ => true
  | _ => false

end Exchange

/-- How many stages of reclaims failed. -/
def failedStages (calls : List (Exchange Station)) : Nat :=
  calls.countP Exchange.failsStage

/-- How many questions for the flash chip's identifier failed. -/
def failedIds (calls : List (Exchange Station)) : Nat :=
  calls.countP Exchange.failsId

/-- How many calls went wrong of which is told. -/
def mishaps (calls : List (Exchange Station)) : Nat :=
  failedStages calls + failedIds calls

/-- An operation that never goes wrong like that, and that tells of no failure. -/
structure StationOp.Plain (op : StationOp) : Prop where
  calls : ∀ answer, Exchange.failsStage ⟨op, answer⟩ = false ∧ Exchange.failsId ⟨op, answer⟩ = false
  tells : op.entry?.map (·.1) ≠ some .error

/-- A program tells as many errors as calls of it go wrong. -/
def Program.Balanced {α : Type} (p : Program Station α) : Prop :=
  ∀ ⦃calls told a⦄, p.Tells calls told a → (errors told).length = mishaps calls

section
variable {α β ι : Type} {calls calls' : List (Exchange Station)} {e : Exchange Station}
  {told : List (Variant × String)} {a : α} {p : Program Station α}

@[simp] theorem mishaps_nil : mishaps [] = 0 := rfl

@[simp] theorem mishaps_append : mishaps (calls ++ calls') = mishaps calls + mishaps calls' := by
  simp only [mishaps, failedStages, failedIds, List.countP_append]
  omega

theorem mishaps_skip (h : e.failsStage = false ∧ e.failsId = false) :
    mishaps (e :: calls) = mishaps calls := by
  simp [mishaps, failedStages, failedIds, h]

theorem errors_skip {entry : Variant × String} (h : entry.1 ≠ .error) :
    errors (entry :: told) = errors told :=
  List.filter_cons_of_neg (by simpa using h)

namespace Program.Balanced

theorem done (a : α) : (.done a : Program Station α).Balanced := by
  intro calls told b h
  obtain ⟨rfl, rfl, _⟩ := h.done_inv
  rfl

theorem bind {k : α → Program Station β} (hp : p.Balanced) (hk : ∀ a, (k a).Balanced) :
    (p.bind k).Balanced := by
  intro calls told b h
  obtain ⟨a, calls1, calls2, told1, told2, rfl, rfl, first, second⟩ := h.bind_inv
  rw [errors_append, List.length_append, mishaps_append, hp first, hk a second]

/-- A plain operation comes first. -/
theorem call {op : StationOp} {next : op.Answer → Program Station α} (h : op.Plain)
    (rest : ∀ answer, (next answer).Balanced) : (.call op next : Program Station α).Balanced := by
  intro calls told b tells
  obtain ⟨talk, yields, settled, rfl, rfl⟩ := tells
  obtain ⟨answer, talk, rfl, later⟩ := Yields.call_inv (S := Station) op yields
  obtain ⟨_, others⟩ := List.forall_mem_cons.mp settled
  have same : (errors (entries talk)).length = mishaps (outward talk) :=
    rest answer ⟨talk, later, others, rfl, rfl⟩
  have told : (errors (entries (⟨op, answer⟩ :: talk))).length =
      (errors (entries talk)).length := by
    cases entry : op.entry? with
    | none => rw [entries_skip entry]
    | some pair =>
      have told : entries (⟨op, answer⟩ :: talk) = pair :: entries talk := entries_cons entry
      rw [told, errors_skip]
      intro wrong
      exact h.tells (by rw [entry, Option.map_some, wrong])
  rw [told, same]
  cases ho : op.outward with
  | true => rw [outward_cons ho, mishaps_skip (h.calls answer)]
  | false => rw [outward_skip ho]

theorem log (variant : Variant) (h : variant ≠ .error) (message : String) :
    (Station.log variant message).Balanced :=
  .call ⟨fun _ => ⟨rfl, rfl⟩, fun wrong => h (Option.some.inj wrong)⟩ .done

theorem trace (message : String) : (Station.trace message).Balanced :=
  log .trace nofun message

theorem info (message : String) : (Station.log .info message).Balanced :=
  log .info nofun message

theorem success (message : String) : (Station.log .success message).Balanced :=
  log .success nofun message

theorem asks {op : StationOp} (plain : ∀ answer,
      Exchange.failsStage ⟨op, answer⟩ = false ∧ Exchange.failsId ⟨op, answer⟩ = false)
    (untold : op.entry? = none) : (Station.perform op).Balanced :=
  .call ⟨plain, by rw [untold]; nofun⟩ .done

theorem each {act : ι → Program Station Unit} {items : List ι} (h : ∀ item, (act item).Balanced) :
    (Program.each act items).Balanced := by
  induction items with
  | nil => exact .done ()
  | cons item items ih => exact (h item).bind fun _ => ih

end Program.Balanced

end

/-! ### Ports that are brought back -/

/-- Whether an exchange with a port makes a stage of a reclaim fail. -/
def Link.fails (e : Exchange Link) : Bool := (Exchange.ofLink e).failsStage

section
variable {port : Port} {talk : List (Exchange Link)}

/-- Only calls of the handle go wrong. -/
theorem mishaps_link (talk : List (Exchange Link)) :
    mishaps (outward (talk.map .ofLink)) = (Link.handled talk).countP Link.fails := by
  induction talk with
  | nil => rfl
  | cons e talk ih =>
    obtain ⟨op, answer⟩ := e
    have first : mishaps (outward [Exchange.ofLink ⟨op, answer⟩]) =
        (Link.handled [⟨op, answer⟩]).countP Link.fails := by
      cases op with
      | sleep | log | note => rfl
      | streams | cancelReader | releaseReader | closeWriter | releaseWriter | close =>
        simp only [outward, Exchange.ofLink, StationOp.outward, List.filter_cons_of_pos,
          List.filter_nil, mishaps, failedStages, failedIds, Link.handled, LinkOp.onHandle]
        rfl
    calc mishaps (outward ((⟨op, answer⟩ :: talk).map .ofLink))
        = mishaps (outward [Exchange.ofLink ⟨op, answer⟩]) +
            mishaps (outward (talk.map .ofLink)) := by
          rw [← mishaps_append, ← outward_append]
          rfl
      _ = (Link.handled (⟨op, answer⟩ :: talk)).countP Link.fails := by
          rw [first, ih, ← List.countP_append, ← Link.handled_append]
          rfl

/-- A stage that frees a stream has one call that goes wrong if it fails, and none if not. -/
theorem Frees.fails {s : StreamKind} {locked : Bool} {outcome : Outcome}
    (h : Frees port s locked talk outcome) (kind : PortFault → ReclaimFault) :
    talk.countP Link.fails = (outcome.fault? kind).toList.length := by
  cases h with
  | unlocked => rfl
  | @kept fault stays =>
    cases s with
    | readable => rfl
    | writable =>
      have other : fault ≠ .writerClosing := fun same => stays (.inr (congrArg _ same))
      have wrong : Link.fails (StreamKind.writable.stopping port (.error fault)) = true :=
        bne_iff_ne.mpr other
      exact List.countP_singleton.trans (if_pos wrong)
  | asked stops result =>
    cases s with
    | readable =>
      obtain rfl := stops
      cases result <;> rfl
    | writable => rcases stops with rfl | rfl <;> cases result <;> rfl

theorem Closes.fails {isOpen : Bool} {outcome : Outcome} (h : Closes port isOpen talk outcome)
    (kind : PortFault → ReclaimFault) :
    talk.countP Link.fails = (outcome.fault? kind).toList.length := by
  cases h with
  | closed => rfl
  | asked result => cases result <;> rfl

/-- **A reclaim tells of each stage that failed.** -/
theorem reclaim_errors {delays : Delays} {context : String} {result : Except ReclaimFault Unit}
    (h : (reclaim delays port context).Yields talk result) :
    (errors (Link.entries talk)).length = mishaps (outward (talk.map .ofLink)) := by
  have same : (errors (Link.entries talk)).length = (Link.complaints talk).length :=
    (List.length_map ..).symm
  rw [same, mishaps_link]
  rcases reclaim_talk h with ⟨seen, _, rfl, _⟩ |
    ⟨seen, rc, wc, cc, _, _, _, _, reads, writes, closes, _, part⟩
  · rfl
  · have look (seen : Streams) : Link.fails (Link.look port seen) = false := rfl
    rw [part.complaints, part.handled, List.length_map, stageFaults, Looks.around]
    simp only [List.countP_append, List.countP_cons, List.countP_nil, look, List.length_append,
      reads.fails (.lockRelease .readable), writes.fails (.lockRelease .writable),
      closes.fails .close]
    simp

end

/-- The calls that bring a port back, and whether it is stuck: the reclaim failed. -/
def Restores (config : Config) (port : Port) (stuck : Bool) (calls : List (Exchange Station)) :
    Prop :=
  ∃ context talk result,
    (reclaim ⟨config.settle, config.closeSettle⟩ port context).Yields talk result ∧
      calls = outward (talk.map .ofLink) ∧ stuck = !result.isOk

section
variable {config : Config} {port : Port} {context : String} {variant : Variant}
  {complaint : String → String} {calls : List (Exchange Station)}
  {told : List (Variant × String)} {u : Unit}

/-- **Bringing a port back** tells of the stages that failed, and of a port that is stuck if that is
told as an error. -/
theorem restorePort_told
    (h : (restorePort config port context variant complaint).Tells calls told u) :
    ∃ stuck, Restores config port stuck calls ∧
      (errors told).length = mishaps calls + if variant = .error then stuck.toNat else 0 := by
  obtain ⟨result, calls1, calls2, told1, told2, rfl, rfl, first, later⟩ := h.bind_inv
  obtain ⟨talk, yields, rfl, rfl⟩ := first.onLink_inv
  refine ⟨!result.isOk, ?_⟩
  have counted := reclaim_errors yields
  cases result with
  | ok _ =>
    obtain ⟨rfl, rfl, _⟩ := later.done_inv
    rw [List.append_nil, List.append_nil]
    exact ⟨⟨context, talk, _, yields, rfl, rfl⟩, by rw [counted]; simp [Except.isOk, Except.toBool]⟩
  | error fault =>
    obtain ⟨_, rfl, ended⟩ := later.log_inv (k := Program.done)
    obtain ⟨rfl, rfl, _⟩ := ended.done_inv
    rw [List.append_nil]
    refine ⟨⟨context, talk, _, yields, rfl, rfl⟩, ?_⟩
    rw [errors_append, List.length_append, counted]
    cases variant <;> rfl

/-- Bringing a port back is balanced if only a trace is left of one that is stuck. -/
theorem restorePort_balanced : (restorePort config port context .trace complaint).Balanced := by
  intro calls told u h
  obtain ⟨_, _, counted⟩ := restorePort_told h
  rw [counted, if_neg nofun, Nat.add_zero]

end

/-! ### Parts that are balanced -/

section
variable {config : Config} {g : Nat} {loader : Loader}

theorem startupCheck_balanced : startupCheck.Balanced := by
  refine .bind (.asks (fun _ => ⟨rfl, rfl⟩) rfl) fun known => ?_
  cases known with
  | error fault => exact .trace _
  | ok ports =>
    refine .bind (.info _) fun _ => .each fun p => ?_
    exact .bind (.asks (fun _ => ⟨rfl, rfl⟩) rfl) fun seen => .info _

theorem release_balanced {context : String} : (release config loader context).Balanced :=
  .bind (.asks (fun _ => ⟨rfl, rfl⟩) rfl) fun _ => restorePort_balanced

theorem cleanUp_balanced (previous : Option Session) : (cleanUp config previous).Balanced := by
  cases previous with
  | none => exact .done ()
  | some previous =>
    refine .bind (.trace _) fun _ => release_balanced.bind fun _ => ?_
    exact .asks (fun _ => ⟨rfl, rfl⟩) rfl

theorem selectPort_balanced : (Station.selectPort config).Balanced := by
  refine .bind (.trace _) fun _ => .bind ?_ fun chosen => ?_
  · refine .bind (.asks (fun _ => ⟨rfl, rfl⟩) rfl) fun first => ?_
    rcases first with fault | port
    · cases fault with
      | noCompatibleDevice =>
        by_cases empty : config.filters.isEmpty
        · simp only [if_pos empty]
          exact .done _
        · simp only [if_neg empty]
          exact .bind (.trace _) fun _ => .asks (fun _ => ⟨rfl, rfl⟩) rfl
      | cancelled | port _ => exact .done _
    · exact .done _
  · rcases chosen with fault | port
    · cases fault with
      | cancelled => exact .bind (.trace _) fun _ => .done _
      | noCompatibleDevice | port _ => exact .done _
    · exact .done _

theorem loadStub_balanced : (loadStub loader).Balanced := by
  refine .bind (.asks (fun _ => ⟨rfl, rfl⟩) rfl) fun stub => ?_
  cases stub with
  | error fault => exact .trace _
  | ok _ => exact .success _

theorem askFlashSize_balanced : (askFlashSize loader).Balanced := by
  refine .bind (.asks (fun _ => ⟨rfl, rfl⟩) rfl) fun size => ?_
  cases size with
  | ok size => exact .done _
  | error fault => exact .bind (.trace _) fun _ => .done _

/-- Of an identifier that was not had, one error tells. -/
theorem askFlashId_balanced : (askFlashId loader).Balanced := by
  intro calls told text h
  obtain ⟨id, rest, rfl, _, h1⟩ := Tells.call_inv (.flashId loader) h rfl rfl
  cases id with
  | ok id =>
    obtain ⟨rfl, rfl, _⟩ := h1.done_inv
    rfl
  | error fault =>
    obtain ⟨_, rfl, h2⟩ := Tells.log_inv h1
    obtain ⟨rfl, rfl, _⟩ := h2.done_inv
    rfl

/-- A look at the generation, and one of two ways to go on. -/
theorem ifCurrent_balanced {α : Type} {A B : Program Station α} (hA : A.Balanced)
    (hB : B.Balanced) :
    ((isCurrent g).bind fun b => if (!b) = true then A else B).Balanced := by
  refine .bind (.asks (fun _ => ⟨rfl, rfl⟩) rfl) fun current => ?_
  cases current with
  | false => exact hA
  | true => exact hB

/-- **Asking the board about itself is balanced.** -/
theorem inventory_balanced : (inventory g loader).Balanced := by
  refine .bind (.asks (fun _ => ⟨rfl, rfl⟩) rfl) fun shaken => ifCurrent_balanced (.done _) ?_
  cases shaken with
  | error fault => exact .done _
  | ok _ =>
    refine .bind (.success _) fun _ => loadStub_balanced.bind fun _ =>
      ifCurrent_balanced (.done _) ?_
    refine .bind (.asks (fun _ => ⟨rfl, rfl⟩) rfl) fun chip => askFlashId_balanced.bind fun id =>
      ifCurrent_balanced (.done _) ?_
    exact askFlashSize_balanced.bind fun size => ifCurrent_balanced (.done _) (.done _)

end

/-! ### Ports that are stuck -/

/-- The known ports are brought back if they can be listed, and so many of them are stuck. -/
inductive Swept (config : Config) : List (Exchange Station) → Nat → Prop where
  | fails (fault : PortFault) : Swept config [⟨.knownPorts, .error fault⟩] 0
  | sweeps {ports : List Port} {parts : List (Bool × List (Exchange Station))}
      (h : List.Forall₂ (fun port part => Restores config port part.1 part.2) ports parts) :
      Swept config (⟨.knownPorts, .ok ports⟩ :: (parts.map (·.2)).flatten) (parts.countP (·.1))

/-- The port that was chosen, if one was, is brought back, and a loader is made for it; so many
ports are stuck. -/
inductive Boarded (config : Config) (baud : UInt32) : Except SelectFault Port →
    List (Exchange Station) → Nat → Prop where
  | nobody (fault : SelectFault) : Boarded config baud (.error fault) [] 0
  | boards {port : Port} {loader : Loader} {stuck : Bool} {reclaiming : List (Exchange Station)}
      (seen : Streams) (h : Restores config port stuck reclaiming) :
      Boarded config baud (.ok port)
        (⟨.link (.streams port), seen⟩ ::
          (reclaiming ++ [⟨.attach port baud config.romBaud, loader⟩])) stuck.toNat

/-- What a connect asks for, and how many of the ports that are known or chosen are stuck. -/
inductive Stuck (config : Config) (baud : UInt32) (previous : Option Session) :
    List (Exchange Station) → Nat → Prop where
  | refused {calls : List (Exchange Station)} (h : ∀ e ∈ calls, e.op = .supported) :
      Stuck config baud previous calls 0
  | tries {census cleaning sweeping choosing boarding meeting : List (Exchange Station)}
      {known selected : Nat} {chosen : Except SelectFault Port} (looks : Census census)
      (cleans : CleansUp config previous cleaning) (sweeps : Swept config sweeping known)
      (chooses : Chooses config choosing chosen)
      (boards : Boarded config baud chosen boarding selected) :
      Stuck config baud previous (⟨.supported, true⟩ ::
        (census ++ (cleaning ++ (sweeping ++ (choosing ++ (boarding ++ meeting))))))
        (known + selected)

section
variable {config : Config} {calls : List (Exchange Station)} {told : List (Variant × String)}
  {g : Nat} {baud : UInt32}

/-- Ports are brought back one after the other, and one more error tells of each that is stuck. -/
theorem restored_told {ports : List Port}
    {parts : List (List (Exchange Station) × List (Variant × String))}
    (h : List.Forall₂ (fun port part => ∃ stuck, Restores config port stuck part.1 ∧
      (errors part.2).length = mishaps part.1 + stuck.toNat) ports parts) :
    ∃ restored : List (Bool × List (Exchange Station)),
      List.Forall₂ (fun port part => Restores config port part.1 part.2) ports restored ∧
      restored.map (·.2) = parts.map (·.1) ∧
      (errors (parts.map (·.2)).flatten).length =
        mishaps (parts.map (·.1)).flatten + restored.countP (·.1) := by
  induction h with
  | nil => exact ⟨[], .nil, rfl, rfl⟩
  | @cons port part ports parts first _ ih =>
    obtain ⟨stuck, restores, counted⟩ := first
    obtain ⟨restored, all, calls, rest⟩ := ih
    refine ⟨(stuck, part.1) :: restored, .cons restores all, by simp [calls], ?_⟩
    simp only [List.map_cons, List.flatten_cons, errors_append, List.length_append, counted, rest,
      mishaps_append, List.countP_cons]
    cases stuck <;> simp <;> omega

/-- **The known ports are brought back**, and one more error tells of each that is stuck. -/
theorem reclaimKnown_told {u : Unit} (h : (reclaimKnown config).Tells calls told u) :
    ∃ known, Swept config calls known ∧ (errors told).length = mishaps calls + known := by
  obtain ⟨_, rfl, h1⟩ := Tells.log_inv h
  obtain ⟨ports, rest, rfl, _, h2⟩ := Tells.call_inv .knownPorts h1 rfl rfl
  cases ports with
  | error fault =>
    obtain ⟨_, rfl, h3⟩ := Tells.log_inv (k := Program.done) h2
    obtain ⟨rfl, rfl, _⟩ := h3.done_inv
    exact ⟨0, .fails fault, rfl⟩
  | ok ports =>
    obtain ⟨_, rfl, h3⟩ := Tells.log_inv h2
    obtain ⟨parts, rfl, rfl, all⟩ := Tells.each_inv h3
    obtain ⟨restored, each, same, counted⟩ := restored_told (all.imp fun port part tells => by
      obtain ⟨_, told, h4⟩ := Tells.log_inv tells
      rw [told]
      exact restorePort_told h4)
    rw [← same] at counted ⊢
    exact ⟨_, .sweeps each, counted⟩

/-- **A loader is made for the port that was chosen**, and one more error tells of each port that is
stuck. -/
theorem acquire_told {r : Except ConnectFault Loader}
    (h : (acquire config g baud).Tells calls told r) (hr : r ≠ .error .superseded) :
    ∃ sweeping choosing boarding known chosen selected,
      calls = sweeping ++ (choosing ++ boarding) ∧ Swept config sweeping known ∧
      Chooses config choosing chosen ∧ Boarded config baud chosen boarding selected ∧
      (errors told).length = mishaps calls + (known + selected) := by
  obtain ⟨_, sweeping, _, told1, _, rfl, rfl, swept, h1⟩ := Tells.bind_inv h
  obtain ⟨known, sweeps, counted⟩ := reclaimKnown_told swept
  have h2 := Tells.onward h1 (Speaks.not_error hr)
  obtain ⟨selected, choosing, rest, told2, _, rfl, rfl, asked, h3⟩ := Tells.bind_inv h2
  obtain ⟨chosen, chooses, rfl⟩ := selectPort_chooses asked.speaks
  have balanced := selectPort_balanced asked
  cases chosen with
  | error fault =>
    obtain ⟨rfl, rfl, _⟩ := h3.done_inv
    refine ⟨sweeping, choosing, [], known, _, 0, rfl, sweeps, chooses, .nobody fault, ?_⟩
    simp only [errors_append, List.length_append, mishaps_append, counted, balanced]
    simp
    omega
  | ok port =>
    obtain ⟨_, rfl, h4⟩ := Tells.log_inv h3
    obtain ⟨seen, _, rfl, _, h5⟩ := Tells.call_inv (.link (.streams port)) h4 rfl rfl
    obtain ⟨_, rfl, h6⟩ := Tells.log_inv h5
    obtain ⟨_, reclaiming, _, told3, _, rfl, rfl, restored, h7⟩ := Tells.bind_inv h6
    obtain ⟨stuck, restores, one⟩ := restorePort_told restored
    have h8 := Tells.onward h7 fun calls late => by
      obtain ⟨_, _, _, _, _, late⟩ := Speaks.bind_inv late
      exact Speaks.not_error hr _ late
    obtain ⟨_, rfl, h9⟩ := Tells.log_inv h8
    obtain ⟨loader, _, rfl, _, h10⟩ :=
      Tells.call_inv (.attach port baud config.romBaud) h9 rfl rfl
    obtain ⟨rfl, rfl, _⟩ := h10.done_inv
    refine ⟨sweeping, choosing, _, known, _, stuck.toNat, rfl, sweeps, chooses, ?_, ?_⟩
    · exact .boards seen restores
    have attached : mishaps [⟨.attach port baud config.romBaud, loader⟩] = 0 := rfl
    have looked (rest : List (Exchange Station)) :
        mishaps (⟨.link (.streams port), seen⟩ :: rest) = mishaps rest := mishaps_skip ⟨rfl, rfl⟩
    have traced (message : String) (rest : List (Variant × String)) :
        errors ((.trace, message) :: rest) = errors rest := errors_skip nofun
    rw [if_pos rfl] at one
    simp only [errors_append, traced, errors_nil, List.append_nil, List.length_append, counted,
      balanced, one, mishaps_append, looked, attached]
    omega

/-- What a program tells that ends a connect: as many errors as calls of it went wrong, and `more`;
and after these, if the connect fails, its notice. -/
def Concludes (calls : List (Exchange Station)) (told : List (Variant × String)) (more : Nat)
    (r : Except ConnectFault DeviceInfo) : Prop :=
  match r with
  | .ok _ => (errors told).length = mishaps calls + more
  | .error fault => ∃ before, told = before ++ [fault.notice] ∧
      (errors before).length = mishaps calls + more

theorem Concludes.after {calls' : List (Exchange Station)} {told' : List (Variant × String)}
    {more more' : Nat} {r : Except ConnectFault DeviceInfo} (h : Concludes calls told more r)
    (before : (errors told').length = mishaps calls' + more') :
    Concludes (calls' ++ calls) (told' ++ told) (more' + more) r := by
  have sum {last : List (Variant × String)}
      (counted : (errors last).length = mishaps calls + more) :
      (errors (told' ++ last)).length = mishaps (calls' ++ calls) + (more' + more) := by
    rw [errors_append, List.length_append, before, counted, mishaps_append]
    omega
  cases r with
  | ok info => exact sum h
  | error fault =>
    obtain ⟨last, rfl, counted⟩ := h
    exact ⟨told' ++ last, (List.append_assoc _ _ _).symm, sum counted⟩

/-- A balanced part comes first. -/
theorem Concludes.balanced {calls' : List (Exchange Station)} {told' : List (Variant × String)}
    {more : Nat} {r : Except ConnectFault DeviceInfo} (h : Concludes calls told more r)
    (before : (errors told').length = mishaps calls') :
    Concludes (calls' ++ calls) (told' ++ told) more r := by
  have all : Concludes (calls' ++ calls) (told' ++ told) (0 + more) r := h.after before
  rwa [Nat.zero_add] at all

/-- An entry that tells of no failure comes first. -/
theorem Concludes.entry {entry : Variant × String} {more : Nat}
    {r : Except ConnectFault DeviceInfo} (h : Concludes calls told more r)
    (plain : entry.1 ≠ .error) : Concludes calls (entry :: told) more r :=
  have before : (errors [entry]).length = mishaps [] := by
    rw [errors_skip plain]
    rfl
  h.balanced before

/-- A connect that fails tells of that in its notice, and asks for nothing more. -/
theorem fails_told {fault : ConnectFault} {r : Except ConnectFault DeviceInfo}
    (h : ((failConnect g fault).bind fun _ => .done (.error fault)).Tells calls told r)
    (hf : fault ≠ .superseded) : calls = [] ∧ r = .error fault ∧ told = [fault.notice] := by
  obtain ⟨_, calls1, calls2, told1, told2, rfl, rfl, failed, h1⟩ := Tells.bind_inv h
  obtain ⟨rfl, rfl, rfl⟩ := h1.done_inv
  rw [failConnect, if_neg hf] at failed
  obtain ⟨rest, rfl, h2⟩ := Tells.log_inv failed
  obtain ⟨rfl, rfl⟩ := Tells.tacit h2 <| by
    refine Uses.bind (.perform (S := Station) ⟨rfl, rfl⟩) fun current => ?_
    cases current with
    | false => trivial
    | true => exact (update_tacit _).bind fun _ => setPhase_tacit _
  refine ⟨rfl, rfl, ?_⟩
  cases fault <;> rfl

/-- A connect that is not superseded has made its loader in time, or has failed to. -/
theorem Encounter.on_time {made : Except ConnectFault Loader} {r : Except ConnectFault DeviceInfo}
    (h : Encounter config g made calls told r) (hr : r ≠ .error .superseded) :
    made ≠ .error .superseded := by
  rintro rfl
  cases h with
  | nobody ends => exact hr (fails_silent ends.speaks).2

/-- What a connect tells once it has made a loader, or has not. -/
theorem Encounter.concludes {made : Except ConnectFault Loader} {r : Except ConnectFault DeviceInfo}
    (h : Encounter config g made calls told r) (hr : r ≠ .error .superseded) :
    Concludes calls told 0 r := by
  -- an end that tells of nothing is the one of a connect that was superseded
  have late {fault : ConnectFault} {calls : List (Exchange Station)}
      (ends : ((failConnect g fault).bind fun _ => .done (.error fault)).Speaks calls r) :
      fault ≠ .superseded := by
    rintro rfl
    exact hr (fails_silent ends).2
  cases h with
  | nobody ends =>
    obtain ⟨rfl, rfl, rfl⟩ := fails_told ends (late ends.speaks)
    exact ⟨[], rfl, rfl⟩
  | joins asks =>
    show (errors _).length = _
    rw [errors_append, List.length_append, inventory_balanced asks]
    rfl
  | fails asks releases ends =>
    obtain ⟨rfl, rfl, rfl⟩ := fails_told ends (late ends.speaks)
    exact .balanced (.balanced ⟨[], rfl, rfl⟩ (release_balanced releases)) (inventory_balanced asks)

/-- **What an attempt tells that is not superseded**: one error for each call that went wrong and
for each port that is stuck, and after these, if it fails, its notice. -/
theorem attempt_told {previous : Option Session} {r : Except ConnectFault DeviceInfo}
    (h : (attempt config g baud previous).Tells calls told r) (hr : r ≠ .error .superseded) :
    ∃ stuck, Stuck config baud previous (⟨.supported, true⟩ :: calls) stuck ∧
      Concludes calls told stuck r := by
  obtain ⟨checks, cleans, acquires, meets⟩ := attempt_parts h
  obtain ⟨sweeping, choosing, boarding, known, chosen, selected, rfl, sweeps, chooses, boards,
    counted⟩ := acquire_told acquires (meets.on_time hr)
  refine ⟨known + selected, ?_, .entry (.balanced (.entry (.balanced ?_ ?_) nofun) ?_) nofun⟩
  · rw [List.append_assoc, List.append_assoc]
    exact .tries (startupCheck_census checks.speaks) (cleanUp_cleans cleans.speaks) sweeps chooses
      boards
  · exact (meets.concludes hr).after counted
  · exact cleanUp_balanced _ cleans
  · exact startupCheck_balanced checks

end

/-! ### A flash -/

/-- An operation that tells of no failure. -/
def StationOp.Unworried (op : StationOp) : Prop := op.entry?.map (·.1) ≠ some .error

/-- An operation of the fetcher that leaves no more than a trace. -/
def SupplyOp.Traces (op : SupplyOp) : Prop :=
  ∀ variant message, op = .log variant message → variant = .trace

section
variable {config : Config} {g : Nat} {session : Session} {source : Source} {chip : Option String}
  {calls : List (Exchange Station)} {told : List (Variant × String)}

/-- A program whose operations tell of no failure tells of none. -/
theorem Program.Yields.unworried {α : Type} {p : Program Station α}
    {talk : List (Exchange Station)} {a : α} (h : p.Yields talk a)
    (hp : p.Uses StationOp.Unworried) : errors (entries talk) = [] := by
  refine List.filter_eq_nil_iff.mpr fun entry he wrong => ?_
  obtain ⟨e, told, same⟩ := List.mem_filterMap.mp he
  exact h.uses hp e told (by rw [same, Option.map_some, beq_iff_eq.mp wrong])

/-- While bytes are fetched, only traces are left. -/
theorem fetchImages_traces (images : List PlacedImage) :
    (fetchImages images).Uses SupplyOp.Traces := by
  induction images with
  | nil => trivial
  | cons image images ih =>
    refine Uses.bind (.perform (S := Supply) nofun) fun location => ?_
    refine Uses.bind (.perform (S := Supply) ?_) fun _ => ?_
    · rintro _ _ ⟨⟩
      rfl
    refine Uses.bind (.perform (S := Supply) nofun) fun fetched => ?_
    cases fetched with
    | error fault => trivial
    | ok data =>
      refine ih.bind fun rest => ?_
      cases rest <;> trivial

theorem materialize_traces (source : Source) :
    (materialize source).Uses SupplyOp.Traces := by
  cases source with
  | catalog id images params =>
    refine (fetchImages_traces images).bind fun files => ?_
    cases files <;> trivial
  | custom file address params =>
    refine Uses.bind (.perform (S := Supply) ?_) fun _ => ?_
    · rintro _ _ ⟨⟩
      rfl
    refine Uses.bind (.perform (S := Supply) nofun) fun data => ?_
    cases data <;> trivial

theorem materialize_unworried (source : Source) :
    (onSupply (materialize source)).Uses StationOp.Unworried := by
  refine (materialize_traces source).embed fun op traces => .perform (S := Station) ?_
  cases op with
  | log variant message =>
    rw [traces variant message rfl]
    exact nofun
  | locate | fetch | readLocal | note => exact nofun

/-- **Getting and writing a source, and restarting the board, tells of no failure.** -/
theorem writeSource_unworried (loader : Loader) :
    (writeSource g loader source chip).Uses StationOp.Unworried :=
  writeSource_performs (materialize_unworried source)
    (fun _ _ h wrong => h (Option.some.inj wrong)) nofun (fun _ => nofun) nofun
    fun hard => by cases hard <;> exact nofun

/-- **What a flash tells that has the session and keeps the station**: nothing of failures if it
works, and its notice if it fails. -/
theorem Course.flash_told {f f' : Floor} {x : List Event}
    {outcome : Except FlashFault FlashSummary}
    (h : Course (some g) (flashWith config g session source chip) f x f' (.done outcome))
    (hf : f.desk.generation = g) (hg : f'.desk.generation ≤ g) :
    match outcome with
    | .ok _ => errors (entries (dialogue x)) = []
    | .error fault => errors (entries (dialogue x)) = [(Failure.flash fault).notice] ∧
        f'.desk.lastError = some fault.message := by
  obtain ⟨y, z, f1, rfl, wrote, ends, now, kept⟩ := h.flash_splits hf hg
  have quiet : errors (entries (dialogue y)) = [] :=
    (wrote.yields_dialogue rfl).unworried (writeSource_unworried _)
  have informed (message : String) (rest : List (Variant × String)) :
      errors ((.info, message) :: rest) = errors rest := errors_skip nofun
  have whole : errors (entries (dialogue (.does (.progress 0) () f ::
      telling f .info "Preparing firmware payload…" :: (y ++ z)))) =
      errors (entries (dialogue z)) := by
    rw [dialogue_does, entries_skip rfl, telling, dialogue_does, entries_cons rfl, informed,
      dialogue_append, entries_append, errors_append, quiet, List.nil_append]
  rw [whole]
  have tells := Tells.onward ends.tells fun calls late => by
    obtain ⟨_, _, _, rfl, _, h2⟩ := Speaks.bind_inv (Speaks.log_inv late)
    exact Speaks.not_error kept _ h2
  cases outcome with
  | ok summary =>
    obtain ⟨_, none⟩ := tells.tacit <| by
      refine (update_tacit _).bind fun _ => (setPhase_tacit _).bind fun _ => ?_
      exact ⟨⟨rfl, rfl⟩, fun _ => trivial⟩
    simp only [none, errors_nil]
  | error fault =>
    obtain ⟨_, told, rest⟩ := Tells.log_inv tells
    obtain ⟨_, rfl⟩ := rest.tacit <|
      (update_tacit _).bind fun _ => (setPhase_tacit _).bind fun _ => trivial
    have named : (Failure.flash fault).notice = (.error, s!"Flash failed: {fault.message}") := by
      have never := h.returns (flashWith_returns g session source chip)
      cases fault with
      | notConnected phase => exact absurd rfl (never phase)
      | fetch | write | superseded => rfl
    refine ⟨by rw [told, named]; rfl, ?_⟩
    have finishes := ends.finishes
    generalize hr : Program.value _ = r at finishes
    cases finishes with
    | givesBack late => exact absurd now late
    | failed => rfl

end

/-! ### Calls that are over -/

section
variable {config : Config} {f f' : Floor} {x : List Event} {r : Result}

/-- Nothing of that goes wrong of which is told. -/
theorem supported_calm {calls : List (Exchange Station)} (h : ∀ e ∈ calls, e.op = .supported) :
    mishaps calls = 0 := by
  induction calls with
  | nil => rfl
  | cons e calls ih =>
    obtain ⟨first, others⟩ := List.forall_mem_cons.mp h
    obtain ⟨op, answer⟩ := e
    obtain rfl : op = .supported := first
    rw [mishaps_skip ⟨rfl, rfl⟩, ih others]

/-- Who has worked has no fault. -/
theorem Result.worked_failure (h : r.worked = true) : r.failure = none := by
  cases r with
  | connected | disconnected => cases h
  | flashed r => cases r <;> first | rfl | cases h
  | flashedChoice r => cases r <;> first | rfl | cases h

/-- **What a flash tells that is over and was not superseded.** -/
theorem Course.flash_account {errand : Errand} (he : errand.isFlash = true)
    (there : f.desk.session.isSome = true ↔ f.desk.phase = .connected)
    (h : Course none (errand.program config) f x f' (.done r))
    (current : ∀ g, Event.tags x none = some g → g = f'.desk.generation) :
    (r.worked = true → errors (entries (dialogue x)) = []) ∧
    ∀ e, r.failure = some e → errors (entries (dialogue x)) = [e.notice] ∧ e.notice.1 = .error ∧
      f'.desk.lastError = some e.message := by
  have starts := h.flash_starts he
  generalize hv : Program.value (.done r : Program Station Result) = v at starts
  cases starts with
  | @refused _ e r' refusal failed _ _ =>
    obtain rfl : r = r' := Option.some.inj hv
    have minds := h.flash_refusal he there
    have refuses := minds.refuses_done failed refusal.refuses
    have wrong : e.notice.1 = .error := by
      cases refusal with
      | unsupported | notConnected | choice => rfl
      | busy => cases he
    refine ⟨fun worked => ?_, fun e' he' => ?_⟩
    · rw [Result.worked_failure worked] at failed
      cases failed
    · obtain rfl : e = e' := Option.some.inj (failed.symm.trans he')
      refine ⟨?_, wrong, rfl⟩
      rw [refuses.tells]
      exact List.filter_cons_of_pos (beq_iff_eq.mpr wrong)
  | @accepted session source pre y _ q _ _ _ _ record tag body =>
    obtain ⟨outcome, ended, rfl⟩ := Option.map_eq_some_iff.mp hv.symm
    rw [Program.value_eq] at ended
    subst ended
    have told := body.flash_told rfl (Nat.le_of_eq (current _ tag).symm)
    have whole : entries (dialogue (pre ++ y)) = entries (dialogue y) := by
      rw [dialogue_append, entries_append, entries_record record, List.nil_append]
    rw [whole, Errand.flashed_worked]
    cases outcome with
    | ok summary =>
      refine ⟨fun _ => told, fun e failed => ?_⟩
      obtain ⟨_, wrong, _⟩ := (Errand.flashed_failure he _ e).mp failed
      cases wrong
    | error fault =>
      refine ⟨nofun, fun e failed => ?_⟩
      obtain ⟨_, same, rfl⟩ := (Errand.flashed_failure he _ e).mp failed
      cases same
      obtain ⟨one, kept⟩ := told
      exact ⟨one, by cases fault <;> rfl, kept⟩

/-- What a connect tells of a fault: one error for each call that went wrong and for each port that
is stuck, and then its notice. -/
structure Account (config : Config) (baud : UInt32) (previous : Option Session)
    (calls : List (Exchange Station)) (told : List (Variant × String)) (fault : ConnectFault) :
    Prop where
  counts : ∃ stuck before, Stuck config baud previous calls stuck ∧
    told = before ++ [(Failure.connect fault).notice] ∧
    (errors before).length = failedStages calls + stuck + failedIds calls
  notice : (Failure.connect fault).notice.1 =
    if fault = .selectionCancelled then .info else .error

/-- A connect fails with a fault of connects. -/
theorem Course.connect_fault {preferred : Option UInt32} {e : Failure}
    (h : Course none ((Errand.connect preferred).program config) f x f' (.done r))
    (failed : r.failure = some e) : ∃ fault, e = .connect fault := by
  have begins := h.connect_begins
  cases begins with
  | refused _ refusal refused =>
    obtain rfl := Option.some.inj (refused.symm.trans failed)
    cases refusal with
    | unsupported | busy => exact ⟨_, rfl⟩
    | notConnected flash => cases flash
  | @accepted _ _ _ r' =>
    cases r' with
    | ok info => cases failed
    | error fault => exact ⟨fault, (Option.some.inj failed).symm⟩

/-- A connect that was accepted and fails keeps the text of its fault. -/
theorem Attempted.kept {g : Nat} {baud : UInt32} {since f : Floor} {fault : ConnectFault}
    (h : Attempted g baud since f (.error fault)) (now : f.desk.generation ≤ g) :
    f.desk.lastError = some fault.message := by
  cases h with
  | superseded late same =>
    rw [same] at now
    omega
  | failed _ same => rw [same]; rfl

/-- Whether the notice of a connect is an error, if the connect was accepted. -/
theorem ConnectFault.notice_variant {fault : ConnectFault}
    (meant : fault.kind.isSome = true ∨ fault = .superseded) :
    (Failure.connect fault).notice.1 =
      if fault = .selectionCancelled then .info else .error := by
  cases fault with
  | unsupported | busy => rcases meant with kind | other <;> first | cases kind | cases other
  | selectionCancelled | selection | handshake | superseded => rfl

/-- **What a connect tells that is over, failed and was not superseded.** -/
theorem Course.connect_account {preferred : Option UInt32} {fault : ConnectFault}
    (h : Course none ((Errand.connect preferred).program config) f x f' (.done r))
    (current : ∀ g, Event.tags x none = some g → g = f'.desk.generation)
    (failed : r.failure = some (.connect fault)) (free : ∀ p, fault ≠ .busy p) :
    Account config (preferred.getD config.defaultBaud) f.desk.session (outward (dialogue x))
      (entries (dialogue x)) fault ∧ f'.desk.lastError = some fault.message := by
  have begins := h.connect_begins
  cases begins with
  | refused text refusal refused =>
    obtain rfl : _ = Failure.connect fault := Option.some.inj (refused.symm.trans failed)
    obtain ⟨_, _, minds⟩ := h.connect_refusal
    have refuses := minds.refuses_done failed refusal.refuses
    cases refusal with
    | busy => exact absurd rfl (free _)
    | unsupported =>
      have calm : mishaps (outward (dialogue x)) = 0 := supported_calm refuses.asks
      refine ⟨⟨⟨0, [], .refused refuses.asks, refuses.tells, ?_⟩, rfl⟩, ?_⟩
      · rw [errors_nil, List.length_nil]
        unfold mishaps at calm
        omega
      · rw [refuses.keeps]
        rfl
  | @accepted _ _ _ r' tag _ =>
    obtain ⟨pre, y, _, split, record, ⟨⟩, counted, course⟩ := h.connect_opens tag
    obtain rfl : r' = .error fault := by
      cases r' with
      | ok info => cases failed
      | error fault' => cases failed; rfl
    obtain ⟨_, ⟨since, attempted⟩, superseded, meant⟩ := course.attempted counted.symm
    have now := current _ tag
    have fresh : Except.error (α := DeviceInfo) fault ≠ .error .superseded := fun late => by
      have := superseded late
      omega
    obtain ⟨stuck, tries, before, told, count⟩ := attempt_told course.tells fresh
    rw [split, dialogue_does, outward_cons rfl, entries_skip rfl, dialogue_append, outward_append,
      entries_append, outward_record record, entries_record record, List.nil_append,
      List.nil_append]
    refine ⟨⟨⟨stuck, before, tries, ?_, ?_⟩, ConnectFault.notice_variant (meant fault rfl)⟩,
      attempted.kept (by omega)⟩
    · rw [told]
      rcases meant fault rfl with kind | rfl
      · cases fault <;> first | rfl | cases kind
      · rfl
    · rw [count, mishaps]
      exact Nat.add_right_comm ..

end

open Traffic

/-- **Every failure is told once, and kept.** Take any state that a new station can come to, and a
step after which a call is over that was not superseded, so that a generation that it carries is
still the record's; and of all that was entered in the trail, what that call entered itself. A flash
that has worked told of no error, and one that failed told of it in one. A connect that failed told
of it in its notice, and before that of one error for each stage of a reclaim that failed, each port
that is stuck and each question for an identifier that failed. If a fault was given back, its text
is the record's, unless the fault was only that the station was busy. -/
theorem failures_told {config : Config} {t t' : Traffic} {log : List Deed} {i : Nat}
    {es : List Event} {c : Call} (run : Run config .new log t) (hs : Step config t i es t')
    (hc : t'.calls[i]? = some c)
    (current : ∀ g, c.tag = some g → g = t'.floor.desk.generation) :
    let own := dialogue (diary (log ++ [⟨i, es, t.floor, t'.floor⟩]) i)
    (c.errand.isFlash = true →
      (c.worked = true → errors (entries own) = []) ∧
      ∀ e, c.failure = some e → errors (entries own) = [e.notice] ∧ e.notice.1 = .error) ∧
    (∀ preferred fault, c.errand = .connect preferred → c.failure = some (.connect fault) →
      (∀ p, fault ≠ .busy p) → Account config (preferred.getD config.defaultBaud)
        c.start.desk.session (outward own) (entries own) fault) ∧
    ∀ e, c.failure = some e → (∀ p, e ≠ .connect (.busy p)) →
      t'.floor.desk.lastError = some e.message := by
  intro own
  obtain ⟨f, course, _, last⟩ := hs.course run hc
  have there := ((run.step hs).start_sound hc).coherent.session
  rw [← (run.step hs).noted.2 hc] at current
  have whole {r : Result} (ended : c.rest.value = some r) :
      Course none (c.errand.program config) c.start
        (diary (log ++ [⟨i, es, t.floor, t'.floor⟩]) i) t'.floor (.done r) := by
    rw [Program.value_eq] at ended
    obtain rfl : f = t'.floor := last (by rw [Call.pending, ended])
    rwa [ended] at course
  refine ⟨?_, ?_, ?_⟩
  · intro flash
    constructor
    · intro worked
      obtain ⟨r, ended, did⟩ := (Option.any_eq_true ..).mp worked
      exact ((whole ended).flash_account flash there current).1 did
    · intro e failed
      obtain ⟨r, ended, did⟩ := Option.bind_eq_some_iff.mp failed
      obtain ⟨one, wrong, _⟩ := ((whole ended).flash_account flash there current).2 e did
      exact ⟨one, wrong⟩
  · intro preferred fault errand failed free
    obtain ⟨r, ended, did⟩ := Option.bind_eq_some_iff.mp failed
    have course := whole ended
    rw [errand] at course
    exact (course.connect_account current did free).1
  · intro e failed free
    obtain ⟨r, ended, did⟩ := Option.bind_eq_some_iff.mp failed
    have course := whole ended
    cases errand : c.errand with
    | flash | flashChoice =>
      exact ((course.flash_account (by rw [errand]; rfl) there current).2 e did).2.2
    | connect preferred =>
      rw [errand] at course
      obtain ⟨fault, rfl⟩ := course.connect_fault did
      exact (course.connect_account current did fun p busy => free p (congrArg _ busy)).2
    | disconnect =>
      -- a disconnect never fails
      rw [errand] at course
      have returns : (Errand.disconnect.program config).Returns (· = .disconnected) :=
        .anyway fun _ => rfl
      obtain rfl : r = .disconnected := course.returns returns
      cases did

/-- There is one port, which is known; it is open, cannot be closed, and its board does not
answer. -/
def unanswered : (op : StationOp) → op.Answer
  | .knownPorts => .ok [default]
  | .link (.close _) => .error (.io "busy")
  | .handshake _ => .error (.timeout "no answer")
  | op => obliging default ⟨some true, some true⟩ op

/-- A connect to a board that does not answer, right before it ends. -/
def Traffic.unanswered : Traffic :=
  (Traffic.new.begin .default FlashStation.unanswered (.connect none)).carryOn
    FlashStation.unanswered 0 18

/-- A connect to a board that does not answer tells of each reclaim that failed, of the known and of
the chosen port, and of itself. -/
theorem unanswered_told :
    ∃ log c, Run .default .new log (Traffic.unanswered.resume unanswered 0) ∧
      (Traffic.unanswered.resume unanswered 0).calls[0]? = some c ∧
      Account .default Config.default.defaultBaud none (outward (dialogue (diary log 0)))
        (entries (dialogue (diary log 0))) (.handshake (.timeout "no answer")) ∧
      (Traffic.unanswered.resume unanswered 0).floor.desk.lastError =
        some "Timeout: no answer" := by
  obtain ⟨before, run⟩ : Reach .default .unanswered := (Reach.new.begin _ _).carryOn _ _ _
  have step : Step .default .unanswered 0 (Traffic.unanswered.events unanswered 0) _ :=
    Step.resume unanswered (by decide +kernel)
  have after : (Traffic.unanswered.resume unanswered 0).calls[0]?.map (fun c =>
      (c.failure, c.tag, c.errand, c.start.desk.session)) =
      some (some (.connect (.handshake (.timeout "no answer"))),
        some (Traffic.unanswered.resume unanswered 0).floor.desk.generation, .connect none,
        none) := by
    decide +kernel
  obtain ⟨c, hc, look⟩ := Option.map_eq_some_iff.mp after
  simp only [Prod.mk.injEq] at look
  obtain ⟨failed, carried, errand, start⟩ := look
  obtain ⟨_, account, kept⟩ := failures_told run step hc (by rw [carried]; rintro g ⟨⟩; rfl)
  have told := account none _ errand failed nofun
  rw [start] at told
  exact ⟨_, c, run.step step, hc, told, kept _ failed nofun⟩

end FlashStation
