/-
# Connects, flashes and disconnects conform

The three kinds of calls are followed from the moment at which they were accepted: `attempt` for a
connect, `flashWith` for a flash and `letGo` for a disconnect. Each conforms to `Manners`. A
connect that was not superseded leaves the station connected or idle, a flash puts the session
back, and whoever was superseded leaves the record as it is; so does a disconnect.

Key definitions: `Desk.failed`, `Desk.joined`, `Desk.flashed`, `Desk.flashFailed`, `Attempted`,
`Finished`, `Ended`.
Key theorems: `attempt_conforms`, `flashWith_conforms`, `letGo_conforms`.
-/
import FlashStation.Proofs.Manners

namespace FlashStation

open Station Program StationOp

/-! ### What is left in the record -/

namespace Desk

/-- After a connect that failed. -/
def failed (d : Desk) (message : String) : Desk :=
  { d with phase := .idle, session := none, info := none, lastError := some message }

/-- After a connect that succeeded. -/
def joined (d : Desk) (session : Session) (info : DeviceInfo) : Desk :=
  { d with phase := .connected, session := some session, info := some info }

/-- After a flash that succeeded. -/
def flashed (d : Desk) (session : Session) : Desk :=
  { d with phase := .connected, session := some session, progress := 100 }

/-- After a flash that failed. -/
def flashFailed (d : Desk) (session : Session) (message : String) : Desk :=
  { d with phase := .connected, session := some session, lastError := some message }

end Desk

/-- What a connect of generation `g` at a baud rate leaves behind in its last stretch. -/
inductive Attempted (g : Nat) (baud : UInt32) (since f : Floor) :
    Except ConnectFault DeviceInfo → Prop where
  | superseded {fault : ConnectFault} (h : g < since.desk.generation)
      (hf : f.desk = since.desk) : Attempted g baud since f (.error fault)
  | failed {fault : ConnectFault} (h : since.desk.generation = g)
      (hf : f.desk = since.desk.failed fault.message) : Attempted g baud since f (.error fault)
  | joined {loader : Loader} {info : DeviceInfo} (h : since.desk.generation = g)
      (hl : loader ∈ f.loaders) (hb : loader.baud = baud)
      (hf : f.desk = since.desk.joined ⟨loader, g, baud⟩ info) : Attempted g baud since f (.ok info)

/-- What a flash that took a session under generation `g` leaves behind in its last stretch. -/
inductive Finished (g : Nat) (session : Session) (since f : Floor) : Prop where
  | superseded (h : g < since.desk.generation) (hf : f.desk = since.desk)
  | flashed (h : since.desk.generation = g) (hf : f.desk = since.desk.flashed session)
  | failed (h : since.desk.generation = g) (message : String)
      (hf : f.desk = since.desk.flashFailed session message)

section
variable {closing : Desk → Desk → Prop} {g n : Nat} {known : List Loader} {since f : Floor}
  {α : Type}

/-! ### Looking at the generation, and writing the record -/

theorem conforms_isCurrent {Q : Bool → Floor → Floor → Prop} {tag : Option Nat}
    (h : Held n known since f) (hQ : Q (f.desk.generation == g) since f) :
    (isCurrent g).Conforms (Manners tag closing) Q since f :=
  (conforms_does rfl).mpr ⟨h.proper rfl, fun _ => hQ⟩

/-- A call looks whether it was superseded, and goes one of two ways. -/
theorem conforms_ifCurrent {A B : Program Station α} {Q : α → Floor → Floor → Prop}
    (h : Held g known since f)
    (hA : Held (g + 1) known since f → A.Conforms (Manners (some g) closing) Q since f)
    (hB : f.desk.generation = g → B.Conforms (Manners (some g) closing) Q since f) :
    ((isCurrent g).bind fun b => if (!b) = true then A else B).Conforms
      (Manners (some g) closing) Q since f := by
  refine (conforms_bind _ _).mpr (conforms_isCurrent h ?_)
  by_cases hg : f.desk.generation = g
  · simpa [hg] using hB hg
  · have hb : g + 1 ≤ f.desk.generation := by have := h.bound; omega
    simpa [hg] using hA ⟨h.same, hb, h.known⟩

/-- A call that is not superseded asks a loader for something, and waits. -/
theorem conforms_asks (op : StationOp) (h : Held n known since f) (hg : f.desk.generation = g)
    (hs : op.suspends = true) (ha : op.accepts = false)
    (hw : ∀ g', op.speaksFor = some g' → g' = g) :
    (perform op).Conforms (Manners (some g) closing) (fun _ => Held n known) since f :=
  (conforms_waits hs).mpr ⟨h.proper_now hg ha hw, fun _ _ hd => h.wakes hd⟩

theorem conforms_write {desk : Desk} {Q : Unit → Floor → Floor → Prop}
    (hg : since.desk.generation = g) (hQ : Q () since { f with desk }) :
    (Station.write desk).Conforms (Manners (some g) closing) Q since f :=
  (conforms_does rfl).mpr ⟨proper_onRecord hg rfl rfl, fun _ => hQ⟩

theorem conforms_update {u : Desk → Desk} {Q : Unit → Floor → Floor → Prop}
    (hg : since.desk.generation = g) (hQ : Q () since { f with desk := u f.desk }) :
    (update u).Conforms (Manners (some g) closing) Q since f :=
  (conforms_bind _ _).mpr
    ((conforms_does rfl).mpr ⟨proper_onRecord hg rfl rfl, fun _ => conforms_write hg hQ⟩)

/-- The phase is changed to one that does not accept a call. -/
theorem conforms_setPhase {next : Phase} {Q : Unit → Floor → Floor → Prop}
    (hg : since.desk.generation = g) (hn : ∀ before, accepts (.changed before next) = false)
    (hQ : Q () since { f with desk := { f.desk with phase := next } }) :
    (setPhase next).Conforms (Manners (some g) closing) Q since f := by
  refine (conforms_bind _ _).mpr ((conforms_does rfl).mpr ⟨proper_onRecord hg rfl rfl, fun _ => ?_⟩)
  show (if f.desk.phase ≠ next then _ else _ : Program Station Unit).Conforms _ Q since f
  by_cases hp : f.desk.phase = next
  · rw [if_neg (not_not_intro hp)]
    rw [← hp] at hQ
    exact hQ
  · rw [if_pos hp]
    refine (conforms_bind _ _).mpr (conforms_write hg ?_)
    exact (conforms_does rfl).mpr ⟨proper_onRecord hg rfl (hn _), fun _ => hQ⟩

/-! ### A connect -/

variable (config : Config) (baud : UInt32)

/-- What a connect of generation `g` knows after a fault; one says that it was superseded. -/
def Fell (g : Nat) (known : List Loader) (fault : ConnectFault) (since f : Floor) : Prop :=
  Held (if fault = .superseded then g + 1 else g) known since f

theorem Fell.superseded (h : Held (g + 1) known since f) : Fell g known .superseded since f := by
  rw [Fell, if_pos rfl]
  exact h

theorem Fell.other {fault : ConnectFault} (hf : fault ≠ .superseded) (h : Held g known since f) :
    Fell g known fault since f := by
  rw [Fell, if_neg hf]
  exact h

theorem selectPort_conforms (h : Held g known since f) :
    (Station.selectPort config).Conforms (Manners (some g) closing)
      (fun r since f => r ≠ .error .superseded ∧ Held g known since f) since f := by
  have keeps := manners_keeps (some g) closing g known
  refine keeps.bind (trace_inert _) h fun _ _ _ h => ?_
  refine keeps.bind (askForPort_inert config) h fun r _ _ h => ?_
  rcases r with fault | port
  · cases fault with
    | cancelled => exact keeps.bind (trace_inert _) h fun _ _ _ h => ⟨by simp, h⟩
    | noCompatibleDevice | port _ => exact ⟨by simp, h⟩
  · exact ⟨by simp, h⟩

/-- What is known of the loader that a connect has made. -/
def Acquired (g : Nat) (baud : UInt32) (since f : Floor) : Except ConnectFault Loader → Prop
  | .error fault => Fell g [] fault since f
  | .ok loader => Held g [loader] since f ∧ f.desk.generation = g ∧ loader.baud = baud

theorem acquire_conforms (h : Held g [] since f) :
    (acquire config g baud).Conforms (Manners (some g) closing)
      (fun r since f => Acquired g baud since f r) since f := by
  have keeps (n : Nat) := manners_keeps (some g) closing n []
  refine (keeps g).bind (reclaimKnown_inert config) h fun _ _ _ h => ?_
  refine conforms_ifCurrent h .superseded fun _ => ?_
  refine (selectPort_conforms config h).bind fun r _ _ ⟨hr, h⟩ => ?_
  cases r with
  | error fault => exact Fell.other (fun e => hr (e ▸ rfl)) h
  | ok port =>
    refine (keeps g).bind (trace_inert _) h fun _ _ _ h => ?_
    refine (keeps g).bind (perform_inert rfl) h fun _ _ _ h => ?_
    refine (keeps g).bind (trace_inert _) h fun _ _ _ h => ?_
    refine (keeps g).bind (restorePort_inert config _ _ _ _) h fun _ _ _ h => ?_
    refine conforms_ifCurrent h (fun h => ?_) fun hg => ?_
    · exact (keeps (g + 1)).bind (restorePort_inert config _ _ _ _) h fun _ _ _ h => .superseded h
    · -- no wait from the look at the generation to the making of the loader
      have keeps := manners_keeps_now (some g) closing g [] (·.generation = g)
      refine keeps.bind (trace_still _) ⟨h, hg⟩ fun _ _ f ⟨h, hg⟩ => ?_
      have may : Proper (some g) closing _ f (.attach port baud config.romBaud) :=
        h.proper_now hg rfl nofun
      refine (conforms_bind _ _).mpr ((conforms_does rfl).mpr ⟨may, fun _ => ?_⟩)
      exact ⟨⟨h.same, h.bound, by simp [StationOp.settle]⟩, hg, rfl⟩

/-- A connect asks the board for something that it can do without. -/
theorem loadStub_conforms (loader : Loader) (h : Held g known since f)
    (hg : f.desk.generation = g) :
    (loadStub loader).Conforms (Manners (some g) closing) (fun _ => Held g known) since f := by
  have keeps := manners_keeps (some g) closing g known
  refine (conforms_asks (.runStub loader) h hg rfl rfl nofun).bind fun r _ _ h => ?_
  cases r <;> exact keeps.conforms (log_inert _ _) h

theorem askFlashId_conforms (loader : Loader) (h : Held g known since f)
    (hg : f.desk.generation = g) :
    (askFlashId loader).Conforms (Manners (some g) closing) (fun _ => Held g known) since f := by
  have keeps := manners_keeps (some g) closing g known
  refine (conforms_asks (.flashId loader) h hg rfl rfl nofun).bind fun r _ _ h => ?_
  cases r with
  | error fault => exact keeps.bind (log_inert _ _) h fun _ _ _ h => h
  | ok id => exact h

theorem askFlashSize_conforms (loader : Loader) (h : Held g known since f)
    (hg : f.desk.generation = g) :
    (askFlashSize loader).Conforms (Manners (some g) closing) (fun _ => Held g known) since f := by
  have keeps := manners_keeps (some g) closing g known
  refine (conforms_asks (.flashSize loader) h hg rfl rfl nofun).bind fun r _ _ h => ?_
  cases r with
  | error fault => exact keeps.bind (log_inert _ _) h fun _ _ _ h => h
  | ok size => exact h

/-- What is known after the board was asked about itself. -/
def Asked (g : Nat) (known : List Loader) (since f : Floor) : Except ConnectFault DeviceInfo → Prop
  | .error fault => Fell g known fault since f
  | .ok _ => Held g known since f ∧ f.desk.generation = g

theorem inventory_conforms (loader : Loader) (h : Held g known since f)
    (hg : f.desk.generation = g) :
    (inventory g loader).Conforms (Manners (some g) closing)
      (fun r since f => Asked g known since f r) since f := by
  refine (conforms_asks (.handshake loader) h hg rfl rfl nofun).bind fun r _ _ h => ?_
  refine conforms_ifCurrent h .superseded fun hg => ?_
  cases r with
  | error fault => exact Fell.other nofun h
  | ok _ =>
    have keeps := manners_keeps_now (some g) closing g known (·.generation = g)
    refine keeps.bind (log_still _ _) ⟨h, hg⟩ fun _ _ _ ⟨h, hg⟩ => ?_
    refine (loadStub_conforms loader h hg).bind fun _ _ _ h => ?_
    refine conforms_ifCurrent h .superseded fun hg => ?_
    refine keeps.bind (.perform (S := Station) ⟨rfl, rfl⟩) ⟨h, hg⟩ fun _ _ _ ⟨h, hg⟩ => ?_
    refine (askFlashId_conforms loader h hg).bind fun _ _ _ h => ?_
    refine conforms_ifCurrent h .superseded fun hg => ?_
    refine (askFlashSize_conforms loader h hg).bind fun _ _ _ h => ?_
    exact conforms_ifCurrent h .superseded fun hg => ⟨h, hg⟩

/-- A connect of generation `g` ends; if it says that it was superseded, then it was. -/
def Ended (g : Nat) (baud : UInt32) (since f : Floor) (r : Except ConnectFault DeviceInfo) : Prop :=
  Attempted g baud since f r ∧ (r = .error .superseded → g < f.desk.generation)

theorem failConnect_conforms {fault : ConnectFault} (h : Fell g known fault since f) :
    (failConnect g fault).Conforms (Manners (some g) closing)
      (fun _ since f => Ended g baud since f (.error fault)) since f := by
  unfold Fell at h
  unfold failConnect
  by_cases hs : fault = .superseded
  · rw [if_pos hs] at h ⊢
    refine ((manners_keeps _ _ _ _).conforms (trace_inert _) h).mono fun _ _ _ h => ?_
    exact ⟨.superseded (h.same ▸ h.bound) h.same, fun _ => h.bound⟩
  · have other {f : Floor} (same : (.error fault : Except ConnectFault DeviceInfo) =
        .error .superseded) : g < f.desk.generation := absurd (Except.error.inj same) hs
    rw [if_neg hs] at h ⊢
    refine (manners_keeps _ _ _ _).bind (log_inert _ _) h fun _ since f h => ?_
    refine (conforms_bind _ _).mpr (conforms_isCurrent h ?_)
    by_cases hg : f.desk.generation = g
    · rw [if_pos (beq_iff_eq.mpr hg)]
      have hg' : since.desk.generation = g := h.same ▸ hg
      refine (conforms_bind _ _).mpr (conforms_update hg' ?_)
      refine conforms_setPhase hg' (fun _ => rfl) ⟨.failed hg' ?_, other⟩
      rw [Desk.failed, ← h.same]
    · rw [if_neg (mt beq_iff_eq.mp hg)]
      have := h.bound
      exact ⟨.superseded (by rw [← h.same]; omega) h.same, other⟩

/-- **A connect that was accepted conforms.** -/
theorem attempt_conforms (previous : Option Session) (h : f.desk.generation = g) :
    (attempt config g baud previous).Conforms (Manners (some g) closing)
      (fun r since f => Ended g baud since f r) f f := by
  have held : Held g [] f f := ⟨rfl, Nat.le_of_eq h.symm, nofun⟩
  have keeps (n known) := manners_keeps (some g) closing n known
  refine (keeps _ _).bind (log_inert _ _) held fun _ _ _ h => ?_
  refine (keeps _ _).bind startupCheck_inert h fun _ _ _ h => ?_
  refine (keeps _ _).bind (log_inert _ _) h fun _ _ _ h => ?_
  refine (keeps _ _).bind (cleanUp_inert config _) h fun _ _ _ h => ?_
  refine (acquire_conforms config baud h).bind fun r _ _ h => ?_
  cases r with
  | error fault => exact (conforms_bind _ _).mpr (failConnect_conforms baud h)
  | ok loader =>
    obtain ⟨h, hg, hb⟩ := h
    refine (inventory_conforms loader h hg).bind fun r _ _ h => ?_
    cases r with
    | error fault =>
      refine (keeps _ _).bind (release_inert config _ _) h fun _ _ _ h => ?_
      exact (conforms_bind _ _).mpr (failConnect_conforms baud h)
    | ok info =>
      -- `inventory` looked at the generation last, and nothing waits from there on
      have keepsNow := manners_keeps_now (some g) closing g [loader] (·.generation = g)
      refine keepsNow.bind (log_still _ _) h fun _ since f ⟨h, hg⟩ => ?_
      have hg' : since.desk.generation = g := h.same ▸ hg
      refine (conforms_bind _ _).mpr (conforms_update hg' ?_)
      refine (conforms_bind _ _).mpr (conforms_setPhase hg' (fun _ => rfl) ?_)
      refine ⟨.joined hg' (h.known (List.mem_singleton_self loader)) hb ?_, nofun⟩
      rw [Desk.joined, ← h.same]

/-! ### A flash -/

theorem restart_conforms (loader : Loader) (hard : Bool) (h : Held n known since f)
    (hg : f.desk.generation = g) :
    (restart loader hard).Conforms (Manners (some g) closing) (fun _ => Held n known) since f := by
  cases hard with
  | true => exact conforms_asks (.hardReset loader) h hg rfl rfl nofun
  | false => exact conforms_asks (.softReset loader) h hg rfl rfl nofun

theorem reset_conforms (loader : Loader) (h : Held n known since f) (hg : f.desk.generation = g) :
    (reset loader).Conforms (Manners (some g) closing) (fun _ => Held n known) since f := by
  have keeps := manners_keeps (some g) closing n known
  have keepsNow := manners_keeps_now (some g) closing n known (·.generation = g)
  refine keepsNow.bind (.perform (S := Station) ⟨rfl, rfl⟩) ⟨h, hg⟩ fun _ _ _ ⟨h, hg⟩ => ?_
  refine (restart_conforms loader _ h hg).bind fun r _ _ h => ?_
  cases r with
  | ok _ => exact keeps.bind (log_inert _ _) h fun _ _ _ h => h
  | error fault => exact keeps.bind (trace_inert _) h fun _ _ _ h => h

theorem writeSource_conforms (loader : Loader) (source : Source) (chip : Option String)
    (h : Held g known since f) :
    (writeSource g loader source chip).Conforms (Manners (some g) closing)
      (fun _ => Held g known) since f := by
  have keeps := manners_keeps (some g) closing g known
  have keepsNow := manners_keeps_now (some g) closing g known (·.generation = g)
  refine keeps.bind (onSupply_inert _) h fun r _ _ h => ?_
  cases r with
  | error fault => exact h
  | ok payload =>
    refine conforms_ifCurrent h (·.mono (Nat.le_succ g) fun _ hl => hl) fun hg => ?_
    refine keepsNow.bind (log_still _ _) ⟨h, hg⟩ fun _ _ _ ⟨h, hg⟩ => ?_
    have own : ∀ g', (StationOp.writeFlash loader payload true g).speaksFor = some g' → g' = g := by
      rintro _ ⟨⟩
      rfl
    refine (conforms_asks _ h hg rfl rfl own).bind fun r _ _ h => ?_
    cases r with
    | error fault => exact h
    | ok _ =>
      refine conforms_ifCurrent h (·.mono (Nat.le_succ g) fun _ hl => hl) fun hg => ?_
      refine keepsNow.bind (log_still _ _) ⟨h, hg⟩ fun _ _ _ ⟨h, hg⟩ => ?_
      refine keepsNow.bind (logSummary_still _ _) ⟨h, hg⟩ fun _ _ _ ⟨h, hg⟩ => ?_
      exact (reset_conforms loader h hg).bind fun _ _ _ h => h

theorem finishFlash_conforms (session : Session) (outcome : Except FlashFault FlashSummary)
    (hc : ∀ d : Desk, closing d (d.flashed session)) (h : Held g known since f) :
    (finishFlash config g session outcome).Conforms (Manners (some g) closing)
      (fun _ => Finished g session) since f := by
  have keeps (n) := manners_keeps (some g) closing n known
  refine conforms_ifCurrent h (fun h => ?_) fun hg => ?_
  · -- giving the port back waits, but the generation is past already
    refine (keeps _).bind (trace_inert _) h fun _ _ _ h => ?_
    refine (keeps _).bind (release_inert config _ _) h fun _ _ _ h => ?_
    exact .superseded (h.same ▸ h.bound) h.same
  · cases outcome with
    | ok summary =>
      have hg' : since.desk.generation = g := h.same ▸ hg
      refine (conforms_bind _ _).mpr (conforms_update hg' ?_)
      refine (conforms_bind _ _).mpr (conforms_setPhase hg' (fun _ => rfl) ?_)
      -- the caller hears of it with the record free: this is the flash's last word
      have done : { f.desk with phase := .connected, session := some session, progress := 100 } =
          since.desk.flashed session := by rw [Desk.flashed, ← h.same]
      refine (conforms_bind _ _).mpr ((conforms_does rfl).mpr ⟨⟨fun late => ?_, rfl, fun _ => ?_,
        nofun⟩, fun _ => ?_⟩)
      · exact absurd (late g rfl) (hg' ▸ Nat.lt_irrefl _)
      · exact .inr ⟨rfl, done ▸ hc since.desk⟩
      · exact .flashed hg' done
    | error fault =>
      have keepsNow := manners_keeps_now (some g) closing g known (·.generation = g)
      refine keepsNow.bind (log_still _ _) ⟨h, hg⟩ fun _ since f ⟨h, hg⟩ => ?_
      have hg' : since.desk.generation = g := h.same ▸ hg
      refine (conforms_bind _ _).mpr (conforms_update hg' ?_)
      refine (conforms_bind _ _).mpr (conforms_setPhase hg' (fun _ => rfl) ?_)
      exact .failed hg' fault.message (by rw [Desk.flashFailed, ← h.same])

/-- **A flash that took the session conforms.** With its last word the session is back. -/
theorem flashWith_conforms (session : Session) (source : Source) (chip : Option String)
    (hc : ∀ d : Desk, closing d (d.flashed session)) (h : f.desk.generation = g) :
    (flashWith config g session source chip).Conforms (Manners (some g) closing)
      (fun _ => Finished g session) f f := by
  have held : Held g [] f f := ⟨rfl, Nat.le_of_eq h.symm, nofun⟩
  have keeps := manners_keeps (some g) closing g []
  have may : Proper (some g) closing f f (.progress 0) := held.proper_now h rfl nofun
  refine (conforms_bind _ _).mpr ((conforms_does rfl).mpr ⟨may, fun _ => ?_⟩)
  refine keeps.bind (log_inert _ _) held fun _ _ _ h => ?_
  refine (writeSource_conforms _ _ _ h).bind fun outcome _ _ h => ?_
  exact finishFlash_conforms config session outcome hc h

/-! ### A disconnect -/

/-- **What a disconnect does after the record was torn down conforms**, and leaves the record
alone. -/
theorem letGo_conforms (session : Option Session) (phase : Phase) :
    (letGo config session phase).Conforms (Manners none closing)
      (fun _ since f => f.desk = since.desk) f f :=
  ((manners_keeps none closing 0 []).conforms (letGo_inert config session phase)
    ⟨rfl, Nat.zero_le _, nofun⟩).mono fun _ _ _ h => h.same

end

end FlashStation
