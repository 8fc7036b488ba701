/-
# The phase, the record and the calls under way

Whatever the order of steps and whatever is answered, the phase tells who has the station: while
it is connecting, exactly one connect under way carries the record's generation, while it is
flashing exactly one flash does, and otherwise none does. And whenever the record is free, its
fields agree: there is a session exactly when the station is connected, the board is known
exactly when it is connected or flashing, the session is of the record's generation and has the
baud rate at which its loader was made, and the generation is the number of connects that were
accepted and of disconnects.

Key definitions: `Traffic.Holds`, `Traffic.Connects`, `Traffic.Flashes`, `Agrees`.
Key theorems: `phase_iff_holder`, `record_agrees`.
-/
import FlashStation.Proofs.Order
import Mathlib.Logic.ExistsUnique

namespace FlashStation

/-! ### Who has the station -/

namespace Traffic

/-- The call at a place is under way and carries the record's generation. -/
def Holds (t : Traffic) (i : Nat) : Prop :=
  ∃ c, t.calls[i]? = some c ∧ c.Owns t.floor.desk

/-- The call at a place is a connect that has the station. -/
def Connects (t : Traffic) (i : Nat) : Prop :=
  ∃ c, t.calls[i]? = some c ∧ c.errand.isConnect = true ∧ c.Owns t.floor.desk

/-- The call at a place is a flash that has the station. -/
def Flashes (t : Traffic) (i : Nat) : Prop :=
  ∃ c, t.calls[i]? = some c ∧ c.errand.isFlash = true ∧ c.Owns t.floor.desk

variable {config : Config} {t t' : Traffic} {i j : Nat}

theorem Connects.holds (h : t.Connects i) : t.Holds i := by
  obtain ⟨c, hc, _, own⟩ := h
  exact ⟨c, hc, own⟩

theorem Flashes.holds (h : t.Flashes i) : t.Holds i := by
  obtain ⟨c, hc, _, own⟩ := h
  exact ⟨c, hc, own⟩

theorem Holds.unique (h : Orderly config t) (hi : t.Holds i) (hj : t.Holds j) : i = j := by
  obtain ⟨c, hc, own⟩ := hi
  obtain ⟨d, hd, own'⟩ := hj
  exact h.alone hc hd own own'

theorem Holds.phase (h : Orderly config t) (hi : t.Holds i) :
    (t.Connects i ∧ t.floor.desk.phase = .connecting) ∨
      (t.Flashes i ∧ t.floor.desk.phase = .flashing) := by
  obtain ⟨c, hc, own⟩ := hi
  have fits := h.fits c (List.mem_of_getElem? hc) own.1
  exact (fits.busy own.2).imp (fun ⟨he, hp⟩ => ⟨⟨c, hc, he, own⟩, hp⟩)
    fun ⟨he, hp⟩ => ⟨⟨c, hc, he, own⟩, hp⟩

theorem Connects.not_flashes (hi : t.Connects i) : ¬ t.Flashes i := by
  obtain ⟨c, hc, he, _⟩ := hi
  rintro ⟨d, hd, hf, _⟩
  rw [hc] at hd
  cases hd
  rw [Errand.isFlash_not_connect hf] at he
  cases he

theorem Connects.phase (h : Orderly config t) (hi : t.Connects i) :
    t.floor.desk.phase = .connecting :=
  (hi.holds.phase h).elim (·.2) fun hf => absurd hf.1 hi.not_flashes

theorem Flashes.phase (h : Orderly config t) (hi : t.Flashes i) :
    t.floor.desk.phase = .flashing :=
  (hi.holds.phase h).elim (fun hc => absurd hi hc.1.not_flashes) (·.2)

theorem Holds.busy (h : Orderly config t) (hi : t.Holds i) : t.floor.desk.phase.busy = true := by
  rcases hi.phase h with ⟨_, hp⟩ | ⟨_, hp⟩ <;> rw [hp] <;> rfl

/-- A call that has the station and is over then has left it idle or connected. -/
theorem Holds.leaves {es : List Event} (h : Reach config t) (hi : t.Holds i)
    (hs : Step config t i es t') (ended : ∀ c, t'.calls[i]? = some c → c.pending = false) :
    t'.floor.desk.phase.busy = false := by
  obtain ⟨c, hc, own⟩ := hi
  have past : t.calls[t.calls.length]? = none := List.getElem?_eq_none (Nat.le_refl _)
  cases h.move hs with
  | refused | accepted => rw [past] at hc; cases hc
  | @resumed i d op answer es f' q hd hp ran =>
    rw [hd] at hc
    cases hc
    have turn := h.orderly.resumed hd hp q
    have done := ended _ (List.getElem?_set_self (List.getElem?_eq_some_iff.mp hd).1)
    rcases ran.outcome turn.sound turn.fits with ⟨_, kept⟩ | ⟨_, _, _, hb, _⟩
    · exact absurd own.2 (kept done)
    · exact hb
  | reported hd hp =>
    rw [ended _ hd] at hp
    cases hp

end Traffic

open Traffic

section
variable {config : Config} {t : Traffic}

theorem Phase.not_busy {phase : Phase} :
    phase.busy = false ↔ phase = .idle ∨ phase = .connected := by
  cases phase <;> simp [Phase.busy]

/-- **The phase tells who has the station.** While it is connecting exactly one connect under way
carries the record's generation, while it is flashing exactly one flash does, and while it is idle
or connected no call does. At no time do two calls, and a call that has the station leaves it idle
or connected when it is over. -/
theorem phase_iff_holder (h : Reach config t) :
    (t.floor.desk.phase = .connecting ↔ ∃! i, t.Connects i) ∧
    (t.floor.desk.phase = .flashing ↔ ∃! i, t.Flashes i) ∧
    (t.floor.desk.phase = .idle ∨ t.floor.desk.phase = .connected →
      ∀ i, ¬ t.Connects i ∧ ¬ t.Flashes i) ∧
    (∀ i j, t.Connects i ∨ t.Flashes i → t.Connects j ∨ t.Flashes j → i = j) ∧
    (∀ i es t', t.Connects i ∨ t.Flashes i → Step config t i es t' →
      (∀ c, t'.calls[i]? = some c → c.pending = false) →
        t'.floor.desk.phase = .idle ∨ t'.floor.desk.phase = .connected) := by
  have order := h.orderly
  have holds {i : Nat} (hi : t.Connects i ∨ t.Flashes i) : t.Holds i := hi.elim (·.holds) (·.holds)
  refine ⟨⟨fun hp => ?_, fun ⟨i, hi, _⟩ => hi.phase order⟩,
    ⟨fun hp => ?_, fun ⟨i, hi, _⟩ => hi.phase order⟩, fun hp i => ?_,
    fun i j hi hj => (holds hi).unique order (holds hj),
    fun i es t' hi hs ended => Phase.not_busy.mp ((holds hi).leaves h hs ended)⟩
  · obtain ⟨i, hi⟩ := order.owned (by rw [hp]; rfl)
    rcases Holds.phase order hi with ⟨hi, _⟩ | ⟨_, hp'⟩
    · exact ⟨i, hi, fun j hj => hj.holds.unique order hi.holds⟩
    · rw [hp] at hp'
      cases hp'
  · obtain ⟨i, hi⟩ := order.owned (by rw [hp]; rfl)
    rcases Holds.phase order hi with ⟨_, hp'⟩ | ⟨hi, _⟩
    · rw [hp] at hp'
      cases hp'
    · exact ⟨i, hi, fun j hj => hj.holds.unique order hi.holds⟩
  · have free : ¬ t.Holds i := fun hi => by
      have busy := hi.busy order
      rw [Phase.not_busy.mpr hp] at busy
      cases busy
    exact ⟨fun hi => free hi.holds, fun hi => free hi.holds⟩

/-- A connect that waits for the list of ports has the station, and no other connect does. -/
theorem connecting_has_holder :
    let t := Traffic.new.begin .default (obliging default .closed) (.connect none)
    Reach .default t ∧ ∃! i, t.Connects i :=
  ⟨Reach.new.begin _ _, (phase_iff_holder (Reach.new.begin _ _)).1.mp rfl⟩

/-! ### The record while it is free -/

/-- The fields of a record agree with each other, with what happened so far and with the number of
connects that were accepted and of disconnects. -/
structure Agrees (history : List Event) (turnovers : Nat) (d : Desk) : Prop where
  coherent : d.Coherent
  baud : ∀ s, d.session = some s → ∃ baud port romBaud f, d.baud = some baud ∧
    .does (.attach port baud romBaud) s.loader f ∈ history
  counted : d.generation = turnovers

variable {f : Floor} {history : List Event}

theorem Floor.Sound.agrees (h : f.Sound)
    (made : ∀ l ∈ f.loaders, ∃ e ∈ history, e.Attaches l) :
    Agrees history f.desk.generation f.desk := by
  refine ⟨h.coherent, fun s hs => ?_, rfl⟩
  obtain ⟨hl, hb⟩ := h.attached s hs
  obtain ⟨e, he, fl, rfl⟩ := made s.loader hl
  exact ⟨s.loader.baud, s.loader.port, s.loader.romBaud, fl, by simp [Desk.baud, hs, hb], he⟩

/-- Every loader was made some time. -/
theorem Traffic.Run.made {log : List Deed} (run : Run config .new log t) :
    ∀ l ∈ t.floor.loaders, ∃ e ∈ log.flatMap (·.events), e.Attaches l := by
  induction run with
  | here => exact List.forall_mem_nil _
  | @step log t' t'' i es run hs ih =>
    intro l hl
    rw [List.flatMap_append, List.flatMap_singleton]
    rcases hs.made l hl with hl | ⟨e, he, made⟩
    · obtain ⟨e, he, made⟩ := ih l hl
      exact ⟨e, List.mem_append_left _ he, made⟩
    · exact ⟨e, List.mem_append_right _ he, made⟩

/-- **The fields of the record agree whenever it is free**: between the steps, and at each event
of a step that is not on the record. In a step there is one moment from which on the call counts
as accepted, or as a disconnect. -/
theorem record_agrees {log : List Deed} (run : Run config .new log t) :
    Agrees (log.flatMap (·.events)) t.turnovers t.floor.desk ∧
    ∀ i es t', Step config t i es t' → ∃ pre post, es = pre ++ post ∧
      (∀ e ∈ pre, e.free = true → Agrees (log.flatMap (·.events)) t.turnovers e.floor.desk) ∧
      (∀ e ∈ post, e.free = true → Agrees (log.flatMap (·.events)) t'.turnovers e.floor.desk) := by
  have reach : Reach config t := ⟨log, run⟩
  have order := reach.orderly
  have made := run.made
  have now : Agrees (log.flatMap (·.events)) t.turnovers t.floor.desk := by
    rw [← order.counted]
    exact order.sound.agrees made
  refine ⟨now, fun i es t' hs => ?_⟩
  have after := (order.step hs).counted
  -- the body of a call finds the generation that the step leaves
  have body {c : Call} {f f' : Floor} {es : List Event} (turn : Turn t i c f)
      (ran : Ran config c f es f') (hl : f.loaders = t.floor.loaders)
      (hf : f'.desk.generation = t'.turnovers) :
      ∀ e ∈ es, e.free = true → Agrees (log.flatMap (·.events)) t'.turnovers e.floor.desk := by
    intro e he free
    obtain ⟨sound, hg⟩ := ran.free turn.sound turn.fits e he free
    rw [← hf, ran.generation turn.sound turn.fits, ← hg]
    exact sound.agrees (hl ▸ made)
  cases reach.move hs with
  | refused text he pre =>
    refine ⟨_, [], (List.append_nil _).symm, fun e he free => ?_, List.forall_mem_nil _⟩
    rw [pre.free e he free]
    exact now
  | @accepted errand f f' tag pre es q ha hpre ran =>
    refine ⟨_, _, rfl, fun e he free => ?_, body (order.accepted ha) ran ?_ after⟩
    · rw [hpre.free e he free]
      exact now
    · cases ha <;> rfl
  | @resumed i c op answer es f' q hc hp ran =>
    refine ⟨[.wakes op answer t.floor], _, rfl, List.forall_mem_singleton.mpr fun _ => now,
      body (order.resumed hc hp q) ran rfl after⟩
  | reported hc hp ht hr =>
    refine ⟨_, [], (List.append_nil _).symm, ?_, List.forall_mem_nil _⟩
    intro e he free
    cases hr with
    | late =>
      rw [List.mem_singleton] at he
      subst he
      cases free
    | counts _ f' hf =>
      simp only [List.mem_cons, List.not_mem_nil, or_false] at he
      rcases he with rfl | rfl | rfl | rfl
      · cases free
      · cases free
      · cases free
      · subst hf
        exact ⟨now.coherent.talk _ _, now.baud, now.counted⟩

/-- After a connect that succeeded there is a session, and the record agrees with it. -/
theorem joined_agrees : ∃ log, Run .default .new log .joined ∧
    Traffic.joined.floor.desk.phase = .connected ∧
    Agrees (log.flatMap (·.events)) 1 Traffic.joined.floor.desk := by
  obtain ⟨log, run⟩ := Reach.joined
  have once : Traffic.joined.turnovers = 1 := by decide +kernel
  exact ⟨log, run, by decide +kernel, once ▸ (record_agrees run).1⟩

end

end FlashStation
