/-
# Who may touch the port of a live session

The fields of the record are guarded by the generation, but the ports are not: a call that was
superseded, or a disconnect, may still have a port to give back, and by then a newer session may
have the device. So a live session has its port to itself exactly if no call that is left over
from before can come to touch the device.

Key definitions: `StationOp.touches`, `Traffic.Live`, `Call.LeftOver`, `Traffic.Exclusive`.
Key theorems: `Traffic.Spared.step`, `Traffic.intrusion`, `exclusive_iff`.
-/
import FlashStation.Proofs.Leftover
import FlashStation.Proofs.Superseded

namespace FlashStation

open Traffic

/-- Whether an operation makes a stream of a device let go, or closes a port that leads to it. -/
def StationOp.touches (device : String) : StationOp → Bool
  | .link (.cancelReader port) | .link (.releaseReader port) | .link (.closeWriter port)
  | .link (.releaseWriter port) | .link (.close port) => port.device == device
  | _ => false

theorem StationOp.touches_onRecord {op : StationOp} {device : String} (h : op.onRecord = true) :
    op.touches device = false := by
  cases op <;> first | rfl | cases h

/-- Before a call is accepted or refused it touches no device. -/
theorem Prelude.spares {f : Floor} {es : List Event} {device : String} (h : Prelude f es) :
    ∀ e ∈ es, ∀ op, e.performed = some op → op.touches device = false := by
  induction h with
  | nil => exact List.forall_mem_nil _
  | record ho _ ih =>
    refine List.forall_mem_cons.mpr ⟨?_, ih⟩
    rintro _ ⟨⟩
    exact StationOp.touches_onRecord ho
  | supported _ ih | log _ ih =>
    refine List.forall_mem_cons.mpr ⟨?_, ih⟩
    rintro _ ⟨⟩
    rfl

/-- A session is live while it is in the record, and while the flash that took it has the
station. -/
def Traffic.Live (t : Traffic) (s : Session) : Prop :=
  t.floor.desk.session = some s ∨ ∃ (i : Nat) (c : Call), t.calls[i]? = some c ∧
    c.errand.isFlash = true ∧ c.Owns t.floor.desk ∧ c.start.desk.session = some s

/-- A call under way is left over if it does not have the station: a connect or a flash that was
superseded, or a disconnect. -/
def Call.LeftOver (c : Call) (d : Desk) : Prop := c.pending = true ∧ c.tag ≠ some d.generation

/-- A session has its port to itself: as long as it is live, whatever steps are taken, no call but
one that has the station touches the device. -/
def Traffic.Exclusive (config : Config) (t : Traffic) (s : Session) : Prop :=
  ∀ log t' i es t'' c, Run config t log t' → t'.Live s → Step config t' i es t'' →
    t''.calls[i]? = some c → c.tag ≠ some t'.floor.desk.generation →
    ∀ e ∈ es, e.floor.desk.generation = t'.floor.desk.generation → ∀ op, e.performed = some op →
      op.touches s.loader.port.device = false

namespace Traffic

variable {config : Config} {t t' : Traffic} {i : Nat} {c : Call} {es : List Event} {s : Session}
  {H : StationOp → Prop}

theorem Live.generation (h : Orderly config t) (live : t.Live s) :
    s.generation = t.floor.desk.generation := by
  rcases live with hs | ⟨i, c, hc, he, own, hs⟩
  · exact h.sound.coherent.generation s hs
  · exact ((h.fits c (List.mem_of_getElem? hc) own.1).taken he hs own.2).1

theorem Orderly.late (h : Orderly config t) (hc : c ∈ t.calls) (left : c.LeftOver t.floor.desk) :
    Late c.tag t.floor.desk := by
  intro g ht
  have bound := (h.fits c hc left.1).bound ht
  exact Nat.lt_of_le_of_ne bound fun e => left.2 (e ▸ ht)

/-- No call that is left over can come to perform an operation in `H`. -/
def Spared (H : StationOp → Prop) (t : Traffic) : Prop :=
  ∀ c ∈ t.calls, c.LeftOver t.floor.desk → ¬ c.Can H t.floor

/-! ### Nobody new is left over -/

/-- A call that is made does not become left over, as long as the generation stays. -/
theorem Move.fresh (h : Orderly config t) (hm : Move config t i es t')
    (hg : t'.floor.desk.generation = t.floor.desk.generation)
    (hc : t'.calls[t.calls.length]? = some c) : ¬ c.LeftOver t'.floor.desk := by
  have past (calls : List Call) (hl : calls.length = t.calls.length)
      (hc : calls[t.calls.length]? = some c) : False := by
    rw [List.getElem?_eq_none (Nat.le_of_eq hl)] at hc
    cases hc
  cases hm with
  | refused =>
    rw [List.getElem?_concat_length] at hc
    cases hc
    exact fun left => by cases left.1
  | @accepted errand f f' tag pre es q ha hpre ran =>
    have turn := h.accepted (q := q) ha
    have same := ran.generation turn.sound turn.fits
    rw [List.getElem?_concat_length] at hc
    cases hc
    cases ha with
    | connect | disconnect => exact absurd (same.symm.trans hg) (Nat.succ_ne_self _)
    | flash => exact fun left => left.2 (by rw [hg])
  | resumed => exact (past _ List.length_set hc).elim
  | reported => exact (past _ rfl hc).elim

/-- A call that is left over goes on, and neither performs an operation in `H` nor leaves one to
come. -/
theorem Spared.resumed (h : Reach config t) (spared : Spared H t) (hc : t.calls[i]? = some c)
    {op : StationOp} {next : op.Answer → Program Station Result} (hr : c.rest = .call op next)
    (ht : c.tag ≠ some t.floor.desk.generation) {answer : op.Answer} {f : Floor}
    {q : Program Station Result} (hst : Stretch (next answer) t.floor es f q) :
    (∀ e ∈ es, ∀ op, e.performed = some op → ¬ H op) ∧
      ∀ op next answer, q = .call op next → ¬ (next answer).Can H t.floor := by
  have order := h.orderly
  have mem := List.mem_of_getElem? hc
  have hp : c.pending = true := by rw [Call.pending, hr]
  refine hst.spared ((order.waits c mem hp).quiet (order.late mem ⟨hp, ht⟩) hr answer) fun can => ?_
  exact spared c mem ⟨hp, ht⟩ ⟨op, next, answer, hr, can⟩

theorem Spared.step (h : Reach config t) (spared : Spared H t) (hs : Step config t i es t')
    (hg : t'.floor.desk.generation = t.floor.desk.generation) : Spared H t' := by
  have order := h.orderly
  have move := h.move hs
  -- who was there before is left over as before, since the generation stays
  have other : ∀ c ∈ t.calls, c.LeftOver t'.floor.desk → ¬ c.Can H t'.floor := by
    intro c hc left can
    rw [Call.LeftOver, hg] at left
    exact spared c hc left (can.move (order.waits c hc left.1) (order.late hc left) hg)
  intro c' hc' left
  cases hs with
  | begins errand hst =>
    rcases List.mem_append.mp hc' with hc | hc
    · exact other c' hc left
    · rw [List.mem_singleton] at hc
      subst hc
      exact absurd left (move.fresh order hg List.getElem?_concat_length)
  | @resumes i c op next hc hr answer es f' q hst =>
    rcases List.mem_or_eq_of_mem_set hc' with hc' | rfl
    · exact other c' hc' left
    · obtain ⟨d, hd, _, _, tag, _⟩ := move.place hc
      have short := (List.getElem?_eq_some_iff.mp hc).1
      rw [List.getElem?_set_self short] at hd
      cases hd
      have ht : c.tag ≠ some t.floor.desk.generation := fun e => left.2 (by rw [tag, e, hg])
      have late := order.late (List.mem_of_getElem? hc) ⟨by rw [Call.pending, hr], ht⟩
      have same := (move.late hc late).1
      rintro ⟨op', next', answer', hr', can⟩
      refine (spared.resumed h hc hr ht hst).2 op' next' answer' hr' ?_
      rw [← same]
      exact can
  | reports => exact other c' hc' left

theorem Spared.run (h : Reach config t) (spared : Spared H t) {log : List Deed}
    (run : Run config t log t') (hg : t'.floor.desk.generation = t.floor.desk.generation) :
    Spared H t' := by
  induction run with
  | here => exact spared
  | @step log t' t'' i es run hs ih =>
    -- the generation is never taken back, so it stayed in each part of the run
    have reach := run.reach h
    have first := run.later h
    have last := reach.orderly.later (reach.move hs)
    exact (ih (by omega)).step reach hs (by omega)

/-! ### Nobody else touches the device -/

/-- A call that is made does not touch the device while the generation stays, unless it has the
station then. -/
theorem Move.spares {device : String} (h : Orderly config t)
    (hm : Move config t t.calls.length es t') (hc : t'.calls[t.calls.length]? = some c)
    (ht : c.tag ≠ some t.floor.desk.generation) :
    ∀ e ∈ es, e.floor.desk.generation = t.floor.desk.generation → ∀ op, e.performed = some op →
      op.touches device = false := by
  have past : t.calls[t.calls.length]? = none := List.getElem?_eq_none (Nat.le_refl _)
  generalize hi : t.calls.length = i at hm
  cases hm with
  | refused _ _ pre => exact fun e he _ => pre.spares e he
  | @accepted errand f f' tag pre es q ha hpre ran =>
    have turn := h.accepted (q := q) ha
    rw [List.getElem?_concat_length] at hc
    cases hc
    intro e he hg op ho
    rcases List.mem_append.mp he with he | he
    · exact hpre.spares e he op ho
    · cases off : op.onRecord with
      | true => exact StationOp.touches_onRecord off
      | false =>
        have free : e.free = true := by rw [Event.free_performed ho, off]; rfl
        have same := (ran.free turn.sound turn.fits e he free).2
        rw [hg] at same
        cases ha with
        | connect | disconnect => exact absurd same.symm (Nat.succ_ne_self _)
        | flash => exact absurd rfl ht
  | resumed hd | reported hd =>
    rw [← hi, past] at hd
    cases hd

/-- In a step of a call that does not have the station, the device is not touched as long as the
generation stays, if nobody that is left over can come to touch it. -/
theorem Spared.events {device : String} (h : Reach config t)
    (spared : Spared (fun op => op.touches device = true) t) (hs : Step config t i es t')
    (hc : t'.calls[i]? = some c) (ht : c.tag ≠ some t.floor.desk.generation) :
    ∀ e ∈ es, e.floor.desk.generation = t.floor.desk.generation → ∀ op, e.performed = some op →
      op.touches device = false := by
  have move := h.move hs
  cases hs with
  | begins errand hst => exact move.spares h.orderly hc ht
  | resumes hd hr answer hst =>
    obtain ⟨c', hc', _, _, tag, _⟩ := move.place hd
    rw [hc] at hc'
    cases hc'
    refine List.forall_mem_cons.mpr ⟨fun _ _ ho => (by cases ho), fun e he _ op ho => ?_⟩
    have none := (spared.resumed h hd hr (tag ▸ ht) hst).1 e he op ho
    exact Bool.eq_false_iff.mpr none
  | reports hd hr written total hst =>
    intro e he _ op ho
    have reports := hst.reports
    cases reports with
    | late =>
      rw [List.mem_singleton] at he
      subst he
      cases ho
      rfl
    | counts _ _ hf =>
      simp only [List.mem_cons, List.not_mem_nil, or_false] at he
      rcases he with rfl | rfl | rfl | rfl <;> cases ho <;> rfl

/-! ### Somebody who is left over does -/

/-- A late call that can come to perform an operation in `H` can do so by steps of its own, and
the floor stays as it is. -/
theorem intrusion {n : Nat} (h : Reach config t) (hc : t.calls[i]? = some c)
    (late : Late c.tag t.floor.desk) {op : StationOp} {next : op.Answer → Program Station Result}
    {answer : op.Answer} (hr : c.rest = .call op next) (can : (next answer).CanIn H t.floor n) :
    ∃ log t' es t'' d, Run config t log t' ∧ t'.floor = t.floor ∧
      (∀ j e, j ≠ i → t.calls[j]? = some e → t'.calls[j]? = some e) ∧ Step config t' i es t'' ∧
      t''.calls[i]? = some d ∧ d.tag = c.tag ∧
      ∃ e ∈ es, e.floor = t.floor ∧ ∃ op, e.performed = some op ∧ H op := by
  -- over the number of operations before the one in `H`: each wait leaves fewer
  induction n using Nat.strongRecOn generalizing t c op next answer with
  | ind n ih =>
    have hp : c.pending = true := by rw [Call.pending, hr]
    have quiet := (h.orderly.waits c (List.mem_of_getElem? hc) hp).quiet late hr answer
    obtain ⟨es, f, q, stretch, found⟩ := quiet.stretch can
    have step : Step config t i _ _ := .resumes hc hr answer stretch
    obtain ⟨same, floors⟩ := (h.move step).late hc late
    obtain ⟨d, hd, _, _, tag, _⟩ := (h.move step).place hc
    rcases found with ⟨e, he, op', ho, hH⟩ | ⟨op', next', answer', m, hq, hm, can'⟩
    · exact ⟨[], t, _, _, d, .here, rfl, fun _ _ _ h => h, step, hd, tag, e, .tail _ he,
        (floors e (.tail _ he)).1, op', ho, hH⟩
    · have rest : d.rest = .call op' next' := by
        rw [List.getElem?_set_self (List.getElem?_eq_some_iff.mp hc).1] at hd
        cases hd
        exact hq
      obtain ⟨log, t', es', t'', d', run, floor, others, last, hd', tag', e, he, at_e, found⟩ :=
        ih m hm (h.step step) hd (by rw [same, tag]; exact late) rest (by rw [same]; exact can')
      refine ⟨_, t', es', t'', d', (Run.here.step step).trans run, floor.trans same, ?_, last, hd',
        tag'.trans tag, e, he, at_e.trans same, found⟩
      exact fun j b hj hb => others j b hj ((List.getElem?_set_ne (Ne.symm hj)).trans hb)

end Traffic

section
variable {config : Config} {t : Traffic} {s : Session}

/-- A session stays live while only calls that do not have the station take steps. -/
theorem Traffic.Live.stay {t' : Traffic} {i : Nat} {c : Call} (live : t.Live s)
    (hc : t.calls[i]? = some c) (ht : c.tag ≠ some t.floor.desk.generation)
    (hf : t'.floor = t.floor)
    (others : ∀ j e, j ≠ i → t.calls[j]? = some e → t'.calls[j]? = some e) : t'.Live s := by
  rcases live with hs | ⟨j, d, hd, he, own, hs⟩
  · exact .inl (hf ▸ hs)
  · refine .inr ⟨j, d, others j d ?_ hd, he, hf ▸ own, hs⟩
    rintro rfl
    rw [hc] at hd
    cases hd
    exact ht own.2

/-- **A live session has its port to itself exactly if no call that is left over can come to touch
the device.** Whatever steps are taken as long as the session is live, a call that touches the
device without having the station was under way before, and did not have the station then. -/
theorem exclusive_iff (h : Reach config t) (live : t.Live s) :
    t.Exclusive config s ↔ ∀ c ∈ t.calls, c.LeftOver t.floor.desk →
      ¬ c.Can (fun op => op.touches s.loader.port.device = true) t.floor := by
  constructor
  · rintro exclusive c mem left ⟨op, next, answer, hr, n, can⟩
    obtain ⟨i, hc⟩ := List.getElem?_of_mem mem
    have late := h.orderly.late mem left
    obtain ⟨log, t', es, t'', d, run, floor, others, step, hd, tag, e, he, at_e, op, ho, touches⟩ :=
      intrusion h hc late hr can
    have live' : t'.Live s := live.stay hc left.2 floor others
    have not : d.tag ≠ some t'.floor.desk.generation := by
      rw [tag, floor]
      exact left.2
    have none := exclusive log t' i es t'' d run live' step hd not e he (by rw [at_e, floor]) op ho
    rw [touches] at none
    cases none
  · intro spared log t' i es t'' d run live' step hd not
    have reach := run.reach h
    have same : t'.floor.desk.generation = t.floor.desk.generation := by
      rw [← live'.generation reach.orderly, live.generation h.orderly]
    exact Spared.events reach (Spared.run h spared run same) step hd not

/-- A flash waits for its file while the session is torn down and a connect to the same device
succeeds. -/
def Traffic.overtaken : Traffic :=
  let answer := obliging default .closed
  let flashing := Traffic.joined.begin .default answer (.flash (.custom "" 0 default))
  let tornDown := flashing.begin .default answer .disconnect
  (tornDown.begin .default answer (.connect none)).carryOn answer 3 7

/-- The session of that connect does not have its port to itself: the flash has it to give back. -/
theorem overtaken_not_exclusive :
    ∃ s, Traffic.overtaken.Live s ∧ ¬ Traffic.overtaken.Exclusive .default s := by
  have reach : Reach .default .overtaken :=
    (((Reach.joined.begin _ _).begin _ _).begin _ _).carryOn _ _ _
  have found : Traffic.overtaken.floor.desk.session.map (·.loader.port.device) = some "" := by
    decide +kernel
  obtain ⟨s, hs, device⟩ := Option.map_eq_some_iff.mp found
  have second : Traffic.overtaken.calls[1]?.map (fun c => (c.pending, c.tag,
      c.meets (obliging default ⟨some true, some true⟩) (·.touches "") Traffic.overtaken.floor 10)) =
      some (true, some 1, true) := by
    decide +kernel
  obtain ⟨c, hc, look⟩ := Option.map_eq_some_iff.mp second
  obtain ⟨hp, ht, meets⟩ : c.pending = true ∧ c.tag = some 1 ∧ _ = true := by
    simpa only [Prod.mk.injEq] using look
  have older : some 1 ≠ some Traffic.overtaken.floor.desk.generation := by decide +kernel
  refine ⟨s, .inl hs, fun exclusive => ?_⟩
  have spared := (exclusive_iff reach (.inl hs)).mp exclusive
  refine spared c (List.mem_of_getElem? hc) ⟨hp, ht ▸ older⟩ ?_
  rw [device]
  exact Call.can_of_meets meets

end

end FlashStation
