/-
# What a connect asks for, and in what order

A connect looks at the ports that are known, gives the port of the session before it back and waits
a while, brings every known port back to the closed state, asks for a port, brings that one back
too, and only then makes a loader for it, shakes hands and asks the board about itself. Whatever
fails on the way is passed over, but for the request and the handshake.

What was asked for up to some moment is a beginning of this, as long as the connect is not
superseded.

Key definitions: `Reclaims`, `Census`, `CleansUp`, `Sweeps`, `Chooses`, `Boards`, `Interviews`,
`Meets`, `Approaches`, `Shakes`.
Key theorems: `Reclaims.looks`, `acquire_boards`, `inventory_interviews`,
`Course.attempt_approaches`, `Meets.shakes`, `connect_calls_in_order`.
-/
import FlashStation.Proofs.Dialogue
import FlashStation.Proofs.Duties
import FlashStation.Proofs.Reversion
import FlashStation.Proofs.Stages

namespace FlashStation

open Station Program

/-! ### The parts of a connect -/

/-- The calls that bring a port back to the closed state. -/
def Reclaims (config : Config) (port : Port) (calls : List (Exchange Station)) : Prop :=
  ∃ context talk result,
    (reclaim ⟨config.settle, config.closeSettle⟩ port context).Yields talk result ∧
      calls = outward (talk.map .ofLink)

/-- A look at all ports that are known, if they can be listed. -/
inductive Census : List (Exchange Station) → Prop where
  | fails (fault : PortFault) : Census [⟨.knownPorts, .error fault⟩]
  | looks {ports : List Port} {looks : List (Exchange Station)}
      (h : List.Forall₂ (fun port e => ∃ seen, e = ⟨.link (.streams port), seen⟩) ports looks) :
      Census (⟨.knownPorts, .ok ports⟩ :: looks)

/-- The port of the session before is brought back, and some time passes. -/
inductive CleansUp (config : Config) : Option Session → List (Exchange Station) → Prop where
  | nothing : CleansUp config none []
  | releases {previous : Session} {reclaiming : List (Exchange Station)}
      (h : Reclaims config previous.loader.port reclaiming) :
      CleansUp config (some previous)
        (⟨.intoPort previous.loader, previous.loader.port⟩ ::
          (reclaiming ++ [⟨.link (.sleep config.supersede), ()⟩]))

/-- The known ports are brought back, one after the other, if they can be listed. -/
inductive Sweeps (config : Config) : List (Exchange Station) → Prop where
  | fails (fault : PortFault) : Sweeps config [⟨.knownPorts, .error fault⟩]
  | sweeps {ports : List Port} {parts : List (List (Exchange Station))}
      (h : List.Forall₂ (Reclaims config) ports parts) :
      Sweeps config (⟨.knownPorts, .ok ports⟩ :: parts.flatten)

/-- A port is asked for, and once more without filters if none passed those there are. -/
inductive Chooses (config : Config) : List (Exchange Station) → Except SelectFault Port → Prop where
  | once {chosen : Except SelectFault Port}
      (h : chosen = .error .noCompatibleDevice → config.filters = []) :
      Chooses config [⟨.requestPort config.filters, chosen⟩] chosen
  | again (h : config.filters ≠ []) (chosen : Except SelectFault Port) :
      Chooses config [⟨.requestPort config.filters, .error .noCompatibleDevice⟩,
        ⟨.requestPort [], chosen⟩] chosen

/-- The port that was chosen, if one was, is brought back, and a loader is made for it. -/
inductive Boards (config : Config) (baud : UInt32) :
    Except SelectFault Port → List (Exchange Station) → Except SelectFault Loader → Prop where
  | nobody (fault : SelectFault) : Boards config baud (.error fault) [] (.error fault)
  | boards {port : Port} {loader : Loader} {reclaiming : List (Exchange Station)} (seen : Streams)
      (h : Reclaims config port reclaiming) (hp : loader.port = port) (hb : loader.baud = baud) :
      Boards config baud (.ok port)
        (⟨.link (.streams port), seen⟩ ::
          (reclaiming ++ [⟨.attach port baud config.romBaud, loader⟩])) (.ok loader)

/-- The board is asked about itself if it shakes hands. What it does not tell is left out. -/
inductive Interviews (loader : Loader) :
    List (Exchange Station) → Except ProtocolFault DeviceInfo → Prop where
  | refused (fault : ProtocolFault) :
      Interviews loader [⟨.handshake loader, .error fault⟩] (.error fault)
  | told (stub : Except ProtocolFault Unit) (chip : Option String)
      (id : Except ProtocolFault UInt32) (size : Except ProtocolFault Nat) :
      Interviews loader
        [⟨.handshake loader, .ok ()⟩, ⟨.runStub loader, stub⟩, ⟨.chipName loader, chip⟩,
          ⟨.flashId loader, id⟩, ⟨.flashSize loader, size⟩]
        (.ok ⟨chip, id.toOption.map flashIdText, size.toOption, some loader.port.info⟩)

/-- The board is met if there is a loader, and the port is given back if it is none. -/
inductive Meets (config : Config) :
    Except SelectFault Loader → List (Exchange Station) →
      Except ConnectFault (Loader × DeviceInfo) → Prop where
  | nobody (fault : SelectFault) : Meets config (.error fault) [] (.error (.ofSelect fault))
  | stranger {loader : Loader} {fault : ProtocolFault}
      {interview reclaiming : List (Exchange Station)}
      (asks : Interviews loader interview (.error fault))
      (reclaims : Reclaims config loader.port reclaiming) :
      Meets config (.ok loader) (interview ++ ⟨.intoPort loader, loader.port⟩ :: reclaiming)
        (.error (.handshake fault))
  | board {loader : Loader} {info : DeviceInfo} {interview : List (Exchange Station)}
      (asks : Interviews loader interview (.ok info)) :
      Meets config (.ok loader) interview (.ok (loader, info))

/-- What an attempt asks for that is not superseded, and what it comes to. -/
inductive Approaches (config : Config) (baud : UInt32) (previous : Option Session) :
    List (Exchange Station) → Except ConnectFault (Loader × DeviceInfo) → Prop where
  | parts {census cleaning sweeping choosing boarding meeting : List (Exchange Station)}
      {chosen : Except SelectFault Port} {made : Except SelectFault Loader}
      {r : Except ConnectFault (Loader × DeviceInfo)} (looks : Census census)
      (cleans : CleansUp config previous cleaning) (sweeps : Sweeps config sweeping)
      (chooses : Chooses config choosing chosen) (boards : Boards config baud chosen boarding made)
      (meets : Meets config made meeting r) :
      Approaches config baud previous
        (census ++ (cleaning ++ (sweeping ++ (choosing ++ (boarding ++ meeting))))) r

/-! ### Their calls -/

section
variable {config : Config} {calls : List (Exchange Station)}

theorem restorePort_reclaims {port : Port} {context : String} {variant : Variant}
    {complaint : String → String} {u : Unit}
    (h : (restorePort config port context variant complaint).Speaks calls u) :
    Reclaims config port calls := by
  obtain ⟨result, before, after, rfl, first, later⟩ := Speaks.bind_inv h
  obtain ⟨talk, yields, rfl⟩ := first.onLink_inv
  have quiet : after = [] := by
    cases result with
    | ok _ => exact later.done_inv.1
    | error fault => exact later.silent (log_silent _ _)
  exact ⟨context, talk, result, yields, by rw [quiet, List.append_nil]⟩

theorem release_reclaims {loader : Loader} {context : String} {u : Unit}
    (h : (release config loader context).Speaks calls u) :
    ∃ reclaiming, calls = ⟨.intoPort loader, loader.port⟩ :: reclaiming ∧
      Reclaims config loader.port reclaiming := by
  obtain ⟨port, rest, rfl, ⟨_, _, same⟩, later⟩ := Speaks.call_inv (.intoPort loader) h rfl
  obtain rfl : port = loader.port := same
  exact ⟨rest, rfl, restorePort_reclaims later⟩

/-- Looking at a port is one call. -/
theorem looks_flatten {ports : List (Port × Nat)} {parts : List (List (Exchange Station))}
    (h : List.Forall₂ (fun p part => ∃ seen, part = [⟨.link (.streams p.1), seen⟩]) ports parts) :
    List.Forall₂ (fun port e => ∃ seen, e = ⟨.link (.streams port), seen⟩)
      (ports.map (·.1)) parts.flatten := by
  induction h with
  | nil => exact .nil
  | cons look _ ih =>
    obtain ⟨seen, rfl⟩ := look
    exact .cons ⟨seen, rfl⟩ ih

theorem startupCheck_census {u : Unit} (h : startupCheck.Speaks calls u) : Census calls := by
  obtain ⟨known, rest, rfl, _, h1⟩ := Speaks.call_inv .knownPorts h rfl
  cases known with
  | error fault =>
    obtain rfl : rest = [] := h1.silent (log_silent _ _)
    exact .fails fault
  | ok ports =>
    obtain ⟨parts, rfl, all⟩ := Speaks.each_inv (Speaks.log_inv h1)
    have looks : List.Forall₂ (fun p part => ∃ seen, part = [⟨.link (.streams p.1), seen⟩])
        ports.zipIdx parts := by
      refine all.imp fun p part spoken => ?_
      obtain ⟨seen, told, rfl, _, h2⟩ := Speaks.call_inv (.link (.streams p.1)) spoken rfl
      obtain rfl : told = [] := h2.silent (log_silent _ _)
      exact ⟨seen, rfl⟩
    have each := looks_flatten looks
    rw [List.zipIdx_map_fst] at each
    exact .looks each

theorem cleanUp_cleans {previous : Option Session} {u : Unit}
    (h : (cleanUp config previous).Speaks calls u) : CleansUp config previous calls := by
  cases previous with
  | none =>
    obtain ⟨rfl, _⟩ := Speaks.done_inv h
    exact .nothing
  | some previous =>
    obtain ⟨_, before, after, rfl, released, h1⟩ := Speaks.bind_inv (Speaks.log_inv h)
    obtain ⟨reclaiming, rfl, reclaims⟩ := release_reclaims released
    obtain ⟨_, rest, rfl, _, h2⟩ := Speaks.call_inv (.link (.sleep config.supersede)) h1 rfl
    obtain ⟨rfl, _⟩ := Speaks.done_inv h2
    exact .releases reclaims

theorem reclaimKnown_sweeps {u : Unit} (h : (reclaimKnown config).Speaks calls u) :
    Sweeps config calls := by
  obtain ⟨known, rest, rfl, _, h1⟩ := Speaks.call_inv .knownPorts (Speaks.log_inv h) rfl
  cases known with
  | error fault =>
    obtain rfl : rest = [] := h1.silent (log_silent _ _)
    exact .fails fault
  | ok ports =>
    obtain ⟨parts, rfl, all⟩ := Speaks.each_inv (Speaks.log_inv h1)
    exact .sweeps (all.imp fun port part spoken => restorePort_reclaims (Speaks.log_inv spoken))

theorem askForPort_chooses {chosen : Except SelectFault Port}
    (h : (askForPort config).Speaks calls chosen) : Chooses config calls chosen := by
  obtain ⟨first, rest, rfl, _, h1⟩ := Speaks.call_inv (.requestPort config.filters) h rfl
  have once (h1 : (.done first : Program Station _).Speaks rest chosen)
      (other : first = .error .noCompatibleDevice → config.filters = []) :
      Chooses config (⟨.requestPort config.filters, first⟩ :: rest) chosen := by
    obtain ⟨rfl, rfl⟩ := Speaks.done_inv h1
    exact .once other
  rcases first with fault | port
  · cases fault with
    | noCompatibleDevice =>
      by_cases empty : config.filters = []
      · rw [empty] at h1
        exact once h1 fun _ => empty
      · rw [← List.isEmpty_iff] at empty
        simp only [empty] at h1
        obtain ⟨again, rest, rfl, _, h2⟩ :=
          Speaks.call_inv (.requestPort []) (Speaks.log_inv h1) rfl
        obtain ⟨rfl, rfl⟩ := Speaks.done_inv h2
        exact .again (by simpa using empty) _
    | cancelled | port _ => exact once h1 nofun
  · exact once h1 nofun

theorem selectPort_chooses {r : Except ConnectFault Port}
    (h : (Station.selectPort config).Speaks calls r) :
    ∃ chosen, Chooses config calls chosen ∧ r = chosen.mapError .ofSelect := by
  obtain ⟨chosen, before, after, rfl, asked, h1⟩ := Speaks.bind_inv (Speaks.log_inv h)
  have chooses := askForPort_chooses asked
  have told : after = [] ∧ r = chosen.mapError .ofSelect := by
    rcases chosen with fault | port
    · cases fault with
      | cancelled => exact Speaks.done_inv (Speaks.log_inv h1)
      | noCompatibleDevice | port _ => exact Speaks.done_inv h1
    · exact Speaks.done_inv h1
  obtain ⟨rfl, rfl⟩ := told
  exact ⟨chosen, by rwa [List.append_nil], rfl⟩

/-! ### All parts together -/

variable {g : Nat} {baud : UInt32} {loader : Loader}

theorem loadStub_calls {u : Unit} (h : (loadStub loader).Speaks calls u) :
    ∃ stub, calls = [⟨.runStub loader, stub⟩] := by
  obtain ⟨stub, rest, rfl, _, told⟩ := Speaks.call_inv (.runStub loader) h rfl
  have quiet : rest = [] := by cases stub <;> exact told.silent (log_silent _ _)
  exact ⟨stub, by rw [quiet]⟩

theorem askFlashId_calls {text : Option String} (h : (askFlashId loader).Speaks calls text) :
    ∃ id, calls = [⟨.flashId loader, id⟩] ∧ text = id.toOption.map flashIdText := by
  obtain ⟨id, rest, rfl, _, told⟩ := Speaks.call_inv (.flashId loader) h rfl
  cases id with
  | error fault =>
    have silent := Speaks.log_inv told
    obtain ⟨rfl, rfl⟩ := Speaks.done_inv silent
    exact ⟨_, rfl, rfl⟩
  | ok id =>
    obtain ⟨rfl, rfl⟩ := Speaks.done_inv told
    exact ⟨_, rfl, rfl⟩

theorem askFlashSize_calls {size : Option Nat} (h : (askFlashSize loader).Speaks calls size) :
    ∃ answer, calls = [⟨.flashSize loader, answer⟩] ∧ size = answer.toOption := by
  obtain ⟨answer, rest, rfl, _, told⟩ := Speaks.call_inv (.flashSize loader) h rfl
  cases answer with
  | error fault =>
    have silent := Speaks.log_inv told
    obtain ⟨rfl, rfl⟩ := Speaks.done_inv silent
    exact ⟨_, rfl, rfl⟩
  | ok answer =>
    obtain ⟨rfl, rfl⟩ := Speaks.done_inv told
    exact ⟨_, rfl, rfl⟩

/-- **The board is asked about itself**, unless it does not shake hands. -/
theorem inventory_interviews {r : Except ConnectFault DeviceInfo}
    (h : (inventory g loader).Speaks calls r) (hr : r ≠ .error .superseded) :
    ∃ told, Interviews loader calls told ∧ r = told.mapError .handshake := by
  obtain ⟨shaken, rest, rfl, _, h1⟩ := Speaks.call_inv (.handshake loader) h rfl
  have h2 := Speaks.onward h1 (Speaks.not_error hr)
  cases shaken with
  | error fault =>
    obtain ⟨rfl, rfl⟩ := Speaks.done_inv h2
    exact ⟨_, .refused fault, rfl⟩
  | ok _ =>
    obtain ⟨_, loading, _, rfl, loaded, h3⟩ := Speaks.bind_inv (Speaks.log_inv h2)
    have h4 := Speaks.onward h3 (Speaks.not_error hr)
    obtain ⟨chip, _, rfl, _, h5⟩ := Speaks.call_inv (.chipName loader) h4 rfl
    obtain ⟨text, asking, _, rfl, asked, h6⟩ := Speaks.bind_inv (p := askFlashId loader) h5
    have h7 := Speaks.onward h6 (Speaks.not_error hr)
    obtain ⟨size, measuring, _, rfl, measured, h8⟩ := Speaks.bind_inv h7
    have h9 := Speaks.onward h8 (Speaks.not_error hr)
    obtain ⟨rfl, rfl⟩ := Speaks.done_inv h9
    obtain ⟨stub, rfl⟩ := loadStub_calls loaded
    obtain ⟨id, rfl, rfl⟩ := askFlashId_calls asked
    obtain ⟨answer, rfl, rfl⟩ := askFlashSize_calls measured
    exact ⟨_, .told stub chip id answer, rfl⟩

/-- **A loader is made for the port that was chosen**, once that is closed. -/
theorem acquire_boards {r : Except ConnectFault Loader}
    (h : (acquire config g baud).Speaks calls r) (hr : r ≠ .error .superseded) :
    ∃ sweeping choosing boarding chosen made, calls = sweeping ++ (choosing ++ boarding) ∧
      Sweeps config sweeping ∧ Chooses config choosing chosen ∧
      Boards config baud chosen boarding made ∧ r = made.mapError .ofSelect := by
  obtain ⟨_, sweeping, _, rfl, swept, h1⟩ := Speaks.bind_inv h
  have sweeps := reclaimKnown_sweeps swept
  have h2 := Speaks.onward h1 (Speaks.not_error hr)
  obtain ⟨selected, choosing, rest, rfl, asked, h3⟩ := Speaks.bind_inv h2
  obtain ⟨chosen, chooses, rfl⟩ := selectPort_chooses asked
  refine ⟨sweeping, choosing, rest, chosen, ?_⟩
  cases chosen with
  | error fault =>
    obtain ⟨rfl, rfl⟩ := Speaks.done_inv h3
    exact ⟨_, rfl, sweeps, chooses, .nobody fault, rfl⟩
  | ok port =>
    obtain ⟨seen, _, rfl, _, h4⟩ := Speaks.call_inv (.link (.streams port)) (Speaks.log_inv h3) rfl
    obtain ⟨_, reclaiming, _, rfl, reclaimed, h5⟩ := Speaks.bind_inv (Speaks.log_inv h4)
    have h6 := Speaks.onward h5 fun calls late => by
      obtain ⟨_, _, _, _, _, late⟩ := Speaks.bind_inv late
      exact Speaks.not_error hr _ late
    obtain ⟨loader, _, rfl, ⟨_, f, made⟩, h7⟩ :=
      Speaks.call_inv (.attach port baud config.romBaud) (Speaks.log_inv h6) rfl
    obtain rfl : loader = ⟨f.loaders.length, port, baud, config.romBaud⟩ := made
    obtain ⟨rfl, rfl⟩ := Speaks.done_inv h7
    exact ⟨.ok ⟨f.loaders.length, port, baud, config.romBaud⟩, rfl, sweeps, chooses,
      .boards seen (restorePort_reclaims reclaimed) rfl rfl, rfl⟩

theorem failConnect_silent (fault : ConnectFault) :
    (failConnect g fault).Uses StationOp.Silent := by
  unfold failConnect
  split
  · exact log_silent _ _
  · refine (log_silent _ _).bind fun _ => ?_
    refine Uses.bind (.perform (S := Station) rfl) fun current => ?_
    cases current with
    | false => trivial
    | true => exact (update_silent _).bind fun _ => setPhase_silent _

/-- An attempt that fails tells so, and asks for nothing more. -/
theorem fails_silent {fault : ConnectFault} {r : Except ConnectFault DeviceInfo}
    (h : ((failConnect g fault).bind fun _ => .done (.error fault)).Speaks calls r) :
    calls = [] ∧ r = .error fault := by
  obtain ⟨_, before, after, rfl, failed, h1⟩ := Speaks.bind_inv h
  obtain ⟨rfl, rfl⟩ := Speaks.done_inv h1
  rw [failed.silent (failConnect_silent fault)]
  exact ⟨rfl, rfl⟩

end

section
variable {config : Config} {g : Nat} {baud : UInt32} {previous : Option Session} {tag : Option Nat}
  {f f' : Floor} {x : List Event} {r : Except ConnectFault DeviceInfo}

/-- **The calls of an attempt** that is not superseded; if it joins the board, the session is with
the loader that shook hands. -/
theorem Course.attempt_approaches
    (h : Course tag (attempt config g baud previous) f x f' (.done r))
    (hr : r ≠ .error .superseded) :
    ∃ made, Approaches config baud previous (outward (dialogue x)) made ∧ r = made.map (·.2) ∧
      ∀ loader info, made = .ok (loader, info) →
        f'.desk.session = some ⟨loader, g, baud⟩ := by
  obtain ⟨_, rfl, h1⟩ := Course.log_inv h
  obtain ⟨_, y1, _, _, rfl, checked, h2⟩ := Course.bind_done (p := startupCheck) h1
  obtain ⟨_, rfl, h3⟩ := Course.log_inv h2
  obtain ⟨_, y2, _, _, rfl, cleaned, h4⟩ := Course.bind_done (p := cleanUp config previous) h3
  obtain ⟨made, y3, z, _, rfl, acquired, h5⟩ := Course.bind_done (p := acquire config g baud) h4
  have looks := startupCheck_census checked.speaks
  have cleans := cleanUp_cleans cleaned.speaks
  simp only [dialogue_does, dialogue_append, outward_append, outward_log]
  have late : made ≠ .error .superseded := by
    rintro rfl
    exact hr (fails_silent h5.speaks).2
  obtain ⟨sweeping, choosing, boarding, chosen, made, same, sweeps, chooses, boards, rfl⟩ :=
    acquire_boards acquired.speaks late
  have whole {meeting : List (Exchange Station)} {r : Except ConnectFault (Loader × DeviceInfo)}
      (meets : Meets config made meeting r) :
      Approaches config baud previous (outward (dialogue y1) ++ (outward (dialogue y2) ++
        (outward (dialogue y3) ++ meeting))) r := by
    rw [same, List.append_assoc, List.append_assoc]
    exact .parts looks cleans sweeps chooses boards meets
  cases made with
  | error fault =>
    obtain ⟨quiet, rfl⟩ := fails_silent h5.speaks
    rw [quiet]
    exact ⟨_, whole (.nobody fault), rfl, fun _ _ joined => by cases joined⟩
  | ok loader =>
    obtain ⟨told, y4, w, _, rfl, asked, h6⟩ := Course.bind_done (p := inventory g loader) h5
    simp only [dialogue_append, outward_append]
    have late : told ≠ .error .superseded := by
      rintro rfl
      obtain ⟨_, _, _, _, rfl, _, h7⟩ := Course.bind_done h6
      exact hr (fails_silent h7.speaks).2
    obtain ⟨answer, asks, rfl⟩ := inventory_interviews asked.speaks late
    cases answer with
    | error fault =>
      obtain ⟨_, y5, _, _, rfl, released, h7⟩ := Course.bind_done h6
      obtain ⟨quiet, rfl⟩ := fails_silent h7.speaks
      obtain ⟨reclaiming, calls, reclaims⟩ := release_reclaims released.speaks
      simp only [dialogue_append, outward_append, quiet, calls, List.append_nil]
      exact ⟨_, whole (.stranger asks reclaims), rfl, fun _ _ joined => by cases joined⟩
    | ok info =>
      have quiet : outward (dialogue w) = [] := h6.speaks.silent <| (log_silent _ _).bind fun _ =>
        (update_silent _).bind fun _ => (setPhase_silent _).bind fun _ => trivial
      rw [quiet, List.append_nil]
      obtain ⟨_, rfl, h7⟩ := Course.log_inv h6
      obtain ⟨_, rfl, h8⟩ := Course.read_inv h7
      obtain ⟨_, rfl, h9⟩ := Course.write_inv h8
      obtain ⟨_, _, rfl, _, _, _, h10⟩ := Course.setPhase_inv h9
      obtain ⟨rfl, rfl, ended⟩ := Course.done_inv h10
      cases ended
      refine ⟨_, whole (.board asks), rfl, ?_⟩
      rintro _ _ ⟨⟩
      rfl

/-- A connect that was accepted has looked whether there are ports at all, has worked on the record,
and is an attempt then. -/
theorem Course.connect_opens {preferred : Option UInt32} {result : Result}
    (h : Course none ((Errand.connect preferred).program config) f x f' (.done result))
    (ht : Event.tags x none = some g) :
    ∃ pre y r, x = .does .supported true f :: (pre ++ y) ∧ (∀ e ∈ pre, e.free = false) ∧
      result = .connected r ∧ g = f.desk.generation + 1 ∧
      Course (some g) (attempt config g (preferred.getD config.defaultBaud) f.desk.session)
        { f with desk := f.desk.connecting } y f' (.done r) := by
  obtain ⟨supported, _, rfl, h1⟩ := Course.does_inv .supported h rfl
  cases supported with
  | false =>
    obtain ⟨_, tags, _, _⟩ := Course.complains h1
    cases ht.symm.trans tags
  | true =>
    obtain ⟨_, rfl, h2⟩ := Course.read_inv h1
    by_cases hb : f.desk.phase = .connecting ∨ f.desk.phase = .flashing
    · simp only [StationOp.settle, Program.done_bind, if_pos hb] at h2
      obtain ⟨_, rfl, h3⟩ := Course.log_inv h2
      obtain ⟨rfl, _, _⟩ := Course.done_inv h3
      cases ht
    · simp only [StationOp.settle, Program.done_bind, Program.bind_def, if_neg hb] at h2
      obtain ⟨_, rfl, h3⟩ := Course.write_inv h2
      obtain ⟨_, rfl, h4⟩ := Course.read_inv h3
      have other : f.desk.phase ≠ .connecting := fun e => hb (.inl e)
      simp only [Program.done_bind, Program.bind_assoc, if_pos other] at h4
      obtain ⟨_, rfl, h5⟩ := Course.write_inv h4
      obtain ⟨_, y, rfl, h6⟩ := Course.does_inv (.changed f.desk.phase .connecting) h5 rfl
      obtain ⟨q, course, value⟩ := Course.map_inv h6
      obtain ⟨r, ended, rfl⟩ := Option.map_eq_some_iff.mp value.symm
      rw [Program.value_eq] at ended
      subst ended
      have carried := (course.attempted rfl).1
      obtain rfl : g = f.desk.generation + 1 := Option.some.inj (ht.symm.trans carried)
      refine ⟨[_, _, _, _, _], y, r, rfl, ?_, rfl, rfl, course⟩
      simp [Event.free, StationOp.onRecord]

/-- **A connect that was accepted is an attempt**, once it has looked whether there are ports at
all. -/
theorem Course.connect_accepted {preferred : Option UInt32} {result : Result}
    (h : Course none ((Errand.connect preferred).program config) f x f' (.done result))
    (ht : Event.tags x none = some g) :
    ∃ y r, outward (dialogue x) = ⟨.supported, true⟩ :: outward (dialogue y) ∧
      result = .connected r ∧ g = f.desk.generation + 1 ∧
      Course (some g) (attempt config g (preferred.getD config.defaultBaud) f.desk.session)
        { f with desk := f.desk.connecting } y f' (.done r) := by
  obtain ⟨pre, y, r, rfl, record, same, counted, course⟩ := h.connect_opens ht
  refine ⟨y, r, ?_, same, counted, course⟩
  rw [dialogue_does, outward_cons rfl, dialogue_append, outward_append, outward_record record,
    List.nil_append]

end

/-! ### Their order -/

/-- Whether an operation looks for a port, makes a loader or shakes hands. -/
def StationOp.seeks : StationOp → Bool
  | .knownPorts | .requestPort _ | .attach _ _ _ | .handshake _ => true
  | _ => false

/-- The handle that an operation works on. -/
def LinkOp.port? : LinkOp → Option Port
  | .streams port | .cancelReader port | .releaseReader port | .closeWriter port
  | .releaseWriter port | .close port => some port
  | .sleep _ | .log _ _ | .note _ => none

/-- A loader that was made shakes hands, and nothing more is looked for. -/
def Shakes : Except SelectFault Loader → List (Exchange Station) → Prop
  | .error _, calls => calls = []
  | .ok loader, calls => ∃ shaken after, calls = ⟨.handshake loader, shaken⟩ :: after ∧
      ∀ e ∈ after, e.op.seeks = false

section
variable {config : Config} {port : Port} {calls : List (Exchange Station)} {baud : UInt32}

theorem Frees.on_port {s : StreamKind} {locked : Bool} {talk : List (Exchange Link)}
    {outcome : Outcome} (h : Frees port s locked talk outcome) :
    ∀ a ∈ talk, a.op.port? = some port := by
  cases h <;> cases s <;>
    simp [StreamKind.stopping, StreamKind.freeing, LinkOp.port?]

theorem Closes.on_port {isOpen : Bool} {talk : List (Exchange Link)} {outcome : Outcome}
    (h : Closes port isOpen talk outcome) : ∀ a ∈ talk, a.op.port? = some port := by
  cases h <;> simp [LinkOp.port?]

/-- A reclaim works on the handle of its port and on no other. -/
theorem reclaim_on_port {delays : Delays} {context : String} {talk : List (Exchange Link)}
    {result : Except ReclaimFault Unit} (h : (reclaim delays port context).Yields talk result) :
    ∀ a ∈ talk, a.op.onHandle = true → a.op.port? = some port := by
  intro a ha handled
  rcases reclaim_talk h with ⟨seen, _, rfl, _⟩ |
    ⟨seen, rc, wc, cc, _, _, _, _, reads, writes, closes, _, part⟩
  · simp only [List.mem_cons, List.not_mem_nil, or_false] at ha
    rcases ha with rfl | rfl
    · rfl
    · cases handled
  · have mem : a ∈ seen.around port rc wc cc := part.handled ▸ List.mem_filter.mpr ⟨ha, handled⟩
    have look (seen : Streams) : (Link.look port seen).op.port? = some port := rfl
    simp only [Looks.around, List.mem_append, List.mem_cons, List.not_mem_nil, or_false] at mem
    have read := reads.on_port a
    have wrote := writes.on_port a
    have closed := closes.on_port a
    grind

/-- All calls of a reclaim are on the handle of its port or waits, and the first is a look. -/
theorem Reclaims.looks (h : Reclaims config port calls) :
    (∃ seen rest, calls = ⟨.link (.streams port), seen⟩ :: rest) ∧
      ∀ e ∈ calls, ∃ op, e.op = .link op ∧ (op.onHandle = true → op.port? = some port) := by
  obtain ⟨context, talk, result, yields, rfl⟩ := h
  refine ⟨?_, fun e he => ?_⟩
  · obtain ⟨seen, rest, rfl, _⟩ := Link.look_inv yields
    exact ⟨seen, _, rfl⟩
  · obtain ⟨a, ha, rfl⟩ := List.mem_map.mp (List.mem_filter.mp he).1
    exact ⟨a.op, rfl, reclaim_on_port yields a ha⟩

/-- An interview begins with the handshake, and looks for nothing after it. -/
theorem Interviews.begins {loader : Loader} {told : Except ProtocolFault DeviceInfo}
    (h : Interviews loader calls told) :
    ∃ shaken after, calls = ⟨.handshake loader, shaken⟩ :: after ∧
      ∀ e ∈ after, e.op.seeks = false := by
  cases h with
  | refused fault => exact ⟨_, [], rfl, List.forall_mem_nil _⟩
  | told =>
    refine ⟨_, _, rfl, ?_⟩
    simp [StationOp.seeks]

theorem Meets.shakes {made : Except SelectFault Loader}
    {r : Except ConnectFault (Loader × DeviceInfo)} (h : Meets config made calls r) :
    Shakes made calls := by
  cases h with
  | nobody fault => rfl
  | stranger asks reclaims =>
    obtain ⟨shaken, after, rfl, quiet⟩ := asks.begins
    refine ⟨shaken, _, rfl, List.forall_mem_append.mpr ⟨quiet, ?_⟩⟩
    refine List.forall_mem_cons.mpr ⟨rfl, fun e he => ?_⟩
    obtain ⟨op, same, _⟩ := reclaims.looks.2 e he
    rw [same]
    rfl
  | board asks => exact asks.begins

end

namespace Traffic

variable {config : Config} {t : Traffic} {log : List Deed} {i : Nat} {c : Call}
  {preferred : Option UInt32}

/-- A connect that was accepted, is over and is not superseded yet has made its attempt. -/
theorem Run.attempt (run : Run config .new log t) (hc : t.calls[i]? = some c)
    (he : c.errand = .connect preferred) (ht : c.tag = some t.floor.desk.generation)
    {result : Result} (ended : c.rest = .done result) :
    ∃ y r f, outward (dialogue (diary log i)) = ⟨.supported, true⟩ :: outward (dialogue y) ∧
      result = .connected r ∧ r ≠ .error .superseded ∧
      t.floor.desk.generation = c.start.desk.generation + 1 ∧
      f.desk.generation ≤ t.floor.desk.generation ∧
      (log.getLast?.map Deed.caller = some i → f = t.floor) ∧
      Course (some t.floor.desk.generation) (Station.attempt config t.floor.desk.generation
        (preferred.getD config.defaultBaud) c.start.desk.session)
        { c.start with desk := c.start.desk.connecting } y f (.done r) := by
  obtain ⟨f, course, bound, last⟩ := run.followed hc
  have carried : Event.tags (diary log i) none = some t.floor.desk.generation :=
    (run.noted.2 hc).trans ht
  rw [he, ended] at course
  obtain ⟨y, r, calls, rfl, same, attempt⟩ := course.connect_accepted carried
  refine ⟨y, r, f, calls, rfl, fun superseded => ?_, same, bound,
    last (by rw [Call.pending, ended]), attempt⟩
  obtain ⟨_, _, late, _⟩ := attempt.attempted same.symm
  have := late superseded
  omega

end Traffic

open Traffic

/-- **What a connect asks for, and in what order.** Take a connect that was accepted, in any run in
which it is not superseded yet. Once it is over, its calls are these, one after the other; before
that, they are a beginning of such a list. It looks at the ports there are. It takes the loader of
the session before apart, if there is one, brings its port back and waits a while. It lists the
known ports and brings each of them back, once and in this order, whatever any of that comes to; if
they cannot be listed, it goes on. It asks for a port that passes the filters, and for any port, if
and only if there are filters and none passed them. If that gives a port, the port is brought back,
one loader is made for it, which shakes hands, and nothing more is looked for; if it does not, that
was all. -/
theorem connect_calls_in_order {config : Config} {t : Traffic} {log : List Deed} {i : Nat}
    {c : Call} {preferred : Option UInt32} (run : Run config .new log t)
    (hc : t.calls[i]? = some c) (he : c.errand = .connect preferred)
    (ht : c.tag = some t.floor.desk.generation) :
    let calls := outward (dialogue (diary log i))
    ∃ census cleaning sweeping choosing boarding meeting chosen made,
      Census census ∧ CleansUp config c.start.desk.session cleaning ∧ Sweeps config sweeping ∧
      Chooses config choosing chosen ∧
      Boards config (preferred.getD config.defaultBaud) chosen boarding made ∧
      Shakes made meeting ∧
      let whole := ⟨.supported, true⟩ ::
        (census ++ (cleaning ++ (sweeping ++ (choosing ++ (boarding ++ meeting)))))
      calls <+: whole ∧ (c.pending = false → calls = whole) := by
  intro calls
  obtain ⟨later, t', result, run', hc', same, now⟩ := run.completes hc
  have ht' : c.tag = some t'.floor.desk.generation := by rw [ht, same]
  obtain ⟨y, r, f, told, rfl, fresh, _, _, _, attempt⟩ := run'.attempt hc' he ht' rfl
  obtain ⟨made, approaches, _, _⟩ := attempt.attempt_approaches fresh
  rw [diary_append, dialogue_append, outward_append] at told
  generalize outward (dialogue y) = whole at told approaches
  cases approaches with
  | parts looks cleans sweeps chooses boards meets =>
    refine ⟨_, _, _, _, _, _, _, _, looks, cleans, sweeps, chooses, boards, meets.shakes, ?_⟩
    refine ⟨⟨_, told⟩, fun ended => ?_⟩
    obtain rfl := now ended
    have none : diary [] i = [] := rfl
    rwa [none, dialogue_nil, outward_nil, List.append_nil] at told

/-- The first connect of a station gives no port back, and asks for all the rest in order. -/
theorem joined_calls_in_order :
    ∃ log, Run .default .new log .joined ∧ ∃ census sweeping choosing boarding meeting chosen made,
      Census census ∧ Sweeps .default sweeping ∧ Chooses .default choosing chosen ∧
      Boards .default Config.default.defaultBaud chosen boarding made ∧ Shakes made meeting ∧
      outward (dialogue (diary log 0)) = ⟨.supported, true⟩ ::
        (census ++ (sweeping ++ (choosing ++ (boarding ++ meeting)))) := by
  obtain ⟨log, run⟩ := Reach.joined
  have look : Traffic.joined.calls[0]?.map (fun c =>
      (c.errand, c.start.desk.session, c.tag, c.pending)) =
      some (.connect none, none, some Traffic.joined.floor.desk.generation, false) := by
    decide +kernel
  obtain ⟨c, hc, look⟩ := Option.map_eq_some_iff.mp look
  obtain ⟨he, look⟩ := Prod.mk.inj look
  obtain ⟨hs, look⟩ := Prod.mk.inj look
  obtain ⟨ht, ended⟩ := Prod.mk.inj look
  obtain ⟨census, cleaning, sweeping, choosing, boarding, meeting, chosen, made, looks, cleans,
    sweeps, chooses, boards, shakes, _, whole⟩ := connect_calls_in_order run hc he ht
  rw [hs] at cleans
  cases cleans
  exact ⟨log, run, census, sweeping, choosing, boarding, meeting, chosen, made, looks, sweeps,
    chooses, boards, shakes, whole ended⟩

end FlashStation
