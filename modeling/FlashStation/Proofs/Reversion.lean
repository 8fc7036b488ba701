/-
# What a failed call leaves behind

The table of reversions says for each kind of fault what becomes of the station: it is idle, it is
connected with the session that it had, or nothing changes. The table is right: a connect or a
flash that fails, and was not superseded, leaves the record as the kind of its fault says. A fault
without a kind is a refusal, and leaves all but the text of the last fault as it was.

Key definitions: `Program.Returns`, `Reversion.Holds`, `ConnectCourse`.
Key theorems: `attempt_returns`, `Course.attempted`, `Course.connect_begins`,
`FlashCourse.reverts`, `ConnectCourse.reverts`, `failure_reverts`.
-/
import FlashStation.Proofs.Accounts

namespace FlashStation

open Station Program StationOp

/-! ### What a program can come to -/

/-- Every value that the program can come to is in `P`, whatever the answers are. -/
def Program.Returns {S : Signature} {α : Type} (P : α → Prop) : Program S α → Prop
  | .done a => P a
  | .call _ next => ∀ answer, (next answer).Returns P

namespace Program.Returns

variable {S : Signature} {α β : Type} {P : α → Prop} {Q : β → Prop} {p : Program S α}

theorem bind {k : α → Program S β} (hp : p.Returns P) (hk : ∀ a, P a → (k a).Returns Q) :
    (p.bind k).Returns Q := by
  induction p with
  | done a => exact hk a hp
  | call op next ih => exact fun answer => ih answer (hp answer)

/-- It does not matter what the first part comes to. -/
theorem anyway {k : α → Program S β} (hk : ∀ a, (k a).Returns Q) : (p.bind k).Returns Q := by
  induction p with
  | done a => exact hk a
  | call op next ih => exact fun answer => ih answer

end Program.Returns

theorem Course.returns {α : Type} {P : α → Prop} {tag : Option Nat} {p q : Program Station α}
    {f f' : Floor} {x : List Event} (h : Course tag p f x f' q) (hp : p.Returns P) :
    q.Returns P := by
  induction h with
  | ends | waits => exact hp
  | does _ _ _ ih => exact ih (hp _)
  | answered _ answer _ _ ih => exact ih (hp answer)

/-! ### A connect -/

/-- A connect that was accepted fails with a fault that has a kind, or was superseded. -/
def Meant {α : Type} (r : Except ConnectFault α) : Prop :=
  ∀ fault, r = .error fault → fault.kind.isSome = true ∨ fault = .superseded

section
variable (config : Config) (g : Nat) (baud : UInt32)

theorem meant_ok {α : Type} (a : α) : Meant (.ok a) := nofun

theorem meant_superseded {α : Type} : Meant (α := α) (.error .superseded) := by
  rintro _ ⟨⟩
  exact .inr rfl

theorem meant_kind {α : Type} {fault : ConnectFault} (h : fault.kind.isSome = true) :
    Meant (α := α) (.error fault) := by
  rintro _ ⟨⟩
  exact .inl h

theorem selectPort_returns : (Station.selectPort config).Returns Meant := by
  refine .anyway fun _ => .anyway fun r => ?_
  rcases r with fault | port
  · cases fault with
    | cancelled => exact .anyway fun _ => meant_kind rfl
    | noCompatibleDevice | port _ => exact meant_kind rfl
  · exact meant_ok port

theorem acquire_returns : (acquire config g baud).Returns Meant := by
  refine .anyway fun _ => .anyway fun current => ?_
  cases current with
  | false => exact meant_superseded
  | true =>
    refine (selectPort_returns config).bind fun r hr => ?_
    cases r with
    | error fault => exact fun fault' e => hr fault' (by cases e; rfl)
    | ok port =>
      refine .anyway fun _ => .anyway fun _ => .anyway fun _ => .anyway fun _ => ?_
      refine .anyway fun current => ?_
      cases current with
      | false => exact .anyway fun _ => meant_superseded
      | true => exact .anyway fun _ => .anyway fun loader => meant_ok loader

theorem inventory_returns (loader : Loader) : (inventory g loader).Returns Meant := by
  refine .anyway fun handshake => .anyway fun current => ?_
  cases current with
  | false => exact meant_superseded
  | true =>
    cases handshake with
    | error fault => exact meant_kind rfl
    | ok _ =>
      refine .anyway fun _ => .anyway fun _ => .anyway fun current => ?_
      cases current with
      | false => exact meant_superseded
      | true =>
        refine .anyway fun _ => .anyway fun _ => .anyway fun current => ?_
        cases current with
        | false => exact meant_superseded
        | true =>
          refine .anyway fun _ => .anyway fun current => ?_
          cases current with
          | false => exact meant_superseded
          | true => exact meant_ok _

/-- A connect that was accepted comes to what is meant for it. -/
theorem attempt_returns (previous : Option Session) :
    (attempt config g baud previous).Returns Meant := by
  refine .anyway fun _ => .anyway fun _ => .anyway fun _ => .anyway fun _ => ?_
  refine (acquire_returns config g baud).bind fun r hr => ?_
  cases r with
  | error fault => exact .anyway fun _ fault' e => hr fault' (by cases e; rfl)
  | ok loader =>
    refine (inventory_returns g loader).bind fun r hr => ?_
    cases r with
    | error fault => exact .anyway fun _ => .anyway fun _ fault' e => hr fault' (by cases e; rfl)
    | ok info => exact .anyway fun _ => .anyway fun _ => .anyway fun _ => meant_ok info

end

/-- What happens in a connect that is over, and what its caller gets. -/
inductive ConnectCourse (config : Config) (preferred : Option UInt32) (f : Floor) :
    List Event → Floor → Result → Prop where
  | refused {x : List Event} {e : Failure} {r : Result} (text : Option String)
      (h : Refusal f.desk (.connect preferred) e) (hr : r.failure = some e) :
      ConnectCourse config preferred f x { f with desk := { f.desk with lastError := text } } r
  | accepted {pre y : List Event} {f' : Floor} {r : Except ConnectFault DeviceInfo}
      (tag : Event.tags (pre ++ y) none = some (f.desk.generation + 1))
      (h : Course (some (f.desk.generation + 1)) (attempt config (f.desk.generation + 1)
        (preferred.getD config.defaultBaud) f.desk.session)
        { f with desk := f.desk.connecting } y f' (.done r)) :
      ConnectCourse config preferred f (pre ++ y) f' (.connected r)

section
variable {config : Config} {f f' : Floor} {x : List Event}

/-- What a connect has come to that was accepted and is over. -/
theorem Course.attempted {g : Nat} {baud : UInt32} {previous : Option Session}
    {r : Except ConnectFault DeviceInfo}
    (h : Course (some g) (attempt config g baud previous) f x f' (.done r))
    (hg : f.desk.generation = g) :
    Event.tags x (some g) = some g ∧ (∃ since, Attempted g baud since f' r) ∧
      (r = .error .superseded → g < f'.desk.generation) ∧ Meant r := by
  have ends : (attempt config g baud previous).Conforms (Manners (some g) fun _ _ => False)
      (fun r since f => Ended g baud since f r) f f := attempt_conforms config baud previous hg
  obtain ⟨tags, since, attempted, superseded⟩ := h.manners ends
  exact ⟨tags, ⟨since, attempted⟩, superseded, h.returns (attempt_returns config g baud previous)⟩

/-- **A connect is refused, or it makes an attempt.** -/
theorem Course.connect_begins {preferred : Option UInt32} {r : Result}
    (h : Course none ((Errand.connect preferred).program config) f x f' (.done r)) :
    ConnectCourse config preferred f x f' r := by
  obtain ⟨supported, _, rfl, h1⟩ := Course.does_inv .supported h rfl
  cases supported with
  | false =>
    obtain ⟨_, _, ended, rfl⟩ := Course.complains h1
    cases ended
    exact .refused _ .unsupported rfl
  | true =>
    obtain ⟨_, rfl, h2⟩ := Course.read_inv h1
    by_cases hb : f.desk.phase = .connecting ∨ f.desk.phase = .flashing
    · simp only [StationOp.settle, Program.done_bind, if_pos hb] at h2
      obtain ⟨_, rfl, h3⟩ := Course.log_inv h2
      obtain ⟨rfl, rfl, ended⟩ := Course.done_inv h3
      cases ended
      exact .refused f'.desk.lastError (.busy hb) rfl
    · simp only [StationOp.settle, Program.done_bind, Program.bind_def, if_neg hb] at h2
      obtain ⟨_, rfl, h3⟩ := Course.write_inv h2
      simp only [Program.done_bind, Program.bind_assoc] at h3
      obtain ⟨pre, y, rfl, _, _, tags, h4⟩ := Course.setPhase_inv h3
      rw [if_neg fun e => hb (.inl e)] at tags
      change Event.tags pre none = some (f.desk.generation + 1) at tags
      change Course (Event.tags pre none) _ _ _ _ _ at h4
      rw [tags] at h4
      obtain ⟨q, course, value⟩ := Course.map_inv h4
      obtain ⟨r, ended, rfl⟩ := Option.map_eq_some_iff.mp value.symm
      rw [Program.value_eq] at ended
      subst ended
      have carried := (course.attempted rfl).1
      show ConnectCourse config preferred f ((.does .supported true f :: .does .read f.desk f ::
        .does (.write _) () f :: pre) ++ y) f' _
      refine .accepted ?_ course
      show Event.tags (pre ++ y) none = _
      rw [Event.tags_append, tags, carried]

/-! ### What is left -/

/-- What a reversion says of the record after a call, given the one before. -/
def Reversion.Holds (before after : Desk) : Reversion → Prop
  | .idle => after.phase = .idle ∧ after.session = none ∧ after.info = none
  | .connected => after.phase = .connected ∧
      (∃ session, before.session = some session ∧ after.session = some session) ∧
      after.info = before.info
  | .unchanged => after.phase = before.phase ∧ after.session = before.session ∧
      after.info = before.info

/-- What a fault says of the record after a call, given the one before: its kind tells what the
reversion is, and if it has none then all is as before but for the text of the last fault. -/
def Failure.Reverts (before after : Desk) (e : Failure) : Prop :=
  match e.kind with
  | some kind => kind.reversion.Holds before after
  | none => after = { before with lastError := after.lastError } ∧
      (e = .connect .unsupported ∨ (∃ phase, e = .connect (.busy phase)) ∨
        ∃ phase, e = .flash (.notConnected phase))

/-- A refusal changes no more than the text of the last fault. -/
theorem Refusal.reverts {d : Desk} {errand : Errand} {e : Failure} (h : Refusal d errand e)
    (text : Option String) : e.Reverts d { d with lastError := text } := by
  cases h with
  | unsupported => exact ⟨rfl, .inl rfl⟩
  | busy => exact ⟨rfl, .inr (.inl ⟨_, rfl⟩)⟩
  | notConnected => exact ⟨rfl, .inr (.inr ⟨_, rfl⟩)⟩
  | choice => exact ⟨rfl, rfl, rfl⟩

/-- **What a connect leaves behind that failed and was not superseded.** -/
theorem ConnectCourse.reverts {preferred : Option UInt32} {r : Result} {e : Failure}
    (h : ConnectCourse config preferred f x f' r) (he : r.failure = some e)
    (current : ∀ g, Event.tags x none = some g → g = f'.desk.generation) :
    e.Reverts f.desk f'.desk := by
  cases h with
  | refused text h hr =>
    rw [hr] at he
    cases he
    exact h.reverts text
  | @accepted pre y _ r tag h =>
    have same := current _ tag
    obtain ⟨_, ⟨since, attempted⟩, superseded, meant⟩ := h.attempted rfl
    cases attempted with
    | joined => cases he
    | superseded late kept =>
      rw [← kept] at late
      omega
    | @failed fault hg left =>
      cases he
      have idle : f'.desk.phase = .idle ∧ f'.desk.session = none ∧ f'.desk.info = none := by
        rw [left]
        exact ⟨rfl, rfl, rfl⟩
      cases fault with
      | selectionCancelled | selection | handshake => exact idle
      | superseded =>
        have late := superseded rfl
        omega
      | unsupported | busy =>
        rcases meant _ rfl with kind | other
        · cases kind
        · cases other

/-- How a flash fails once it writes. -/
theorem Lands.failures {g : Nat} {loader : Loader} {payload : Payload} {chip : Option String}
    {r : Option (Except FlashFault FlashSummary)} (h : Lands g loader payload chip f x f' r) :
    Drift (some g) f f' ∧ ∀ fault, r = some (.error fault) →
      (fault = .superseded ∧ f'.desk.generation ≠ g) ∨ ∃ e, fault = .write e := by
  cases h with
  | writing => exact ⟨.refl _ _, nofun⟩
  | fails hd =>
    refine ⟨hd, fun fault e => ?_⟩
    cases e
    exact .inr ⟨_, rfl⟩
  | overtaken hd hg =>
    refine ⟨hd, fun fault e => ?_⟩
    cases e
    exact .inl ⟨rfl, hg⟩
  | @written _ _ _ _ r hd _ rest =>
    cases rest with
    | waits => exact ⟨hd, nofun⟩
    | ended _ hd' => exact ⟨hd.trans hd', nofun⟩

/-- How a flash fails that has the session. -/
theorem Writes.failures {g : Nat} {loader : Loader} {source : Source} {chip : Option String}
    {r : Option (Except FlashFault FlashSummary)} (h : Writes g loader source chip f x f' r) :
    Drift (some g) f f' ∧ ∀ fault, r = some (.error fault) →
      (fault = .superseded ∧ f'.desk.generation ≠ g) ∨ (∃ e, fault = .fetch e) ∨
        ∃ e, fault = .write e := by
  cases h with
  | fetching h => exact ⟨h.fetch_drift, nofun⟩
  | unfetched h =>
    refine ⟨h.fetch_drift, fun fault e => ?_⟩
    cases e
    exact .inr (.inl ⟨_, rfl⟩)
  | late h hg =>
    refine ⟨h.fetch_drift, fun fault e => ?_⟩
    cases e
    exact .inl ⟨rfl, hg⟩
  | writes h hg rest =>
    obtain ⟨drift, fails⟩ := rest.failures
    exact ⟨h.fetch_drift.trans drift, fun fault e =>
      (fails fault e).imp_right .inr⟩

/-- **What a flash leaves behind that failed and was not superseded.** -/
theorem FlashCourse.reverts {errand : Errand} {r : Result} {e : Failure}
    (h : FlashCourse errand f x f' (some r)) (he : r.failure = some e)
    (current : ∀ g, Event.tags x none = some g → g = f'.desk.generation) :
    e.Reverts f.desk f'.desk := by
  generalize hv : some r = v at h
  cases h with
  | refused h hr =>
    cases hv
    rw [hr] at he
    cases he
    exact h.reverts _
  | @accepted session source pre y _ outcome hp hs _ _ tag h =>
    have same := current _ tag
    obtain ⟨outcome, rfl, rfl⟩ := Option.map_eq_some_iff.mp hv.symm
    cases h with
    | @finishing x y f1 _ first r h _ rest =>
      obtain ⟨drift, fails⟩ := h.failures
      generalize hr : some outcome = r at rest
      cases rest with
      | givesBack hg hd =>
        have before := drift.generation
        have after := hd.generation
        simp only [Desk.flashing] at before
        omega
      | flashed =>
        cases hr
        cases errand <;> cases he
      | @failed fault hg =>
        cases hr
        -- nobody changed the record since the session was taken
        have kept := drift.same (by rw [hg])
        have left : Reversion.connected.Holds f.desk
            (f1.desk.flashFailed session fault.message) := by
          refine ⟨rfl, ⟨session, hs, rfl⟩, ?_⟩
          show f1.desk.info = f.desk.info
          rw [kept]
          rfl
        have fault_eq : e = .flash fault := by
          cases errand <;> exact (Option.some.inj he).symm
        subst fault_eq
        rcases fails fault rfl with ⟨_, late⟩ | ⟨_, rfl⟩ | ⟨_, rfl⟩
        · exact absurd hg late
        · exact left
        · exact left

end

/-- The fault that a call gave back, if it is over and gave one. -/
def Call.failure (c : Call) : Option Failure :=
  c.rest.value.bind Result.failure

open Traffic

/-- **The table of reversions is right.** Take any state that a new station can come to, and a step
in which a call ends with a fault. If the call was not superseded, so that a generation that it
carries is still the record's, then the record right after it is, to the one when the call was
made, as the kind of the fault says. If the fault has no kind, the call was refused, and phase,
session, board, progress and generation are as they were. -/
theorem failure_reverts {config : Config} {t t' : Traffic} {i : Nat} {es : List Event} {c : Call}
    {e : Failure} (h : Reach config t) (hs : Step config t i es t') (hc : t'.calls[i]? = some c)
    (he : c.failure = some e) (current : ∀ g, c.tag = some g → g = t'.floor.desk.generation) :
    e.Reverts c.start.desk t'.floor.desk := by
  obtain ⟨log, run⟩ := h
  obtain ⟨f, course, _, last⟩ := hs.course run hc
  obtain ⟨r, ended, failed⟩ := Option.bind_eq_some_iff.mp he
  rw [Program.value_eq] at ended
  obtain rfl : f = t'.floor := last (by rw [Call.pending, ended])
  rw [← (run.step hs).noted.2 hc] at current
  rw [ended] at course
  cases errand : c.errand with
  | connect preferred =>
    rw [errand] at course
    exact course.connect_begins.reverts failed current
  | flash | flashChoice =>
    exact (course.flash_begins (by rw [errand]; rfl)).reverts failed current
  | disconnect =>
    rw [errand] at course
    have returns : (Errand.disconnect.program config).Returns (· = .disconnected) :=
      .anyway fun _ => rfl
    obtain rfl : r = .disconnected := course.returns returns
    cases failed

/-- A flash that waits for its file. -/
def Traffic.fetching : Traffic :=
  Traffic.joined.begin .default (obliging default .closed) (.flash (.custom "app.bin" 0 .keep))

/-- There is no such file. -/
def withholding : (op : StationOp) → op.Answer
  | .supply (.readLocal path) => .error (.io path (.notFound "no such file"))
  | op => obliging default .closed op

/-- A flash whose file is missing leaves the station connected, with the session it had. -/
theorem missing_file_reverts :
    let t' := Traffic.fetching.resume withholding 1
    ∃ c, t'.calls[1]? = some c ∧
      c.failure = some (.flash (.fetch (.io "app.bin" (.notFound "no such file")))) ∧
      c.tag = some t'.floor.desk.generation ∧
      Reversion.connected.Holds c.start.desk t'.floor.desk := by
  intro t'
  have reach : Reach .default .fetching := Reach.joined.begin _ _
  have step : Step .default .fetching 1 (Traffic.fetching.events withholding 1) t' :=
    Step.resume _ (by decide +kernel)
  have after : t'.calls[1]?.map (fun c => (c.failure, c.tag)) =
      some (some (.flash (.fetch (.io "app.bin" (.notFound "no such file")))),
        some t'.floor.desk.generation) := by
    decide +kernel
  obtain ⟨c, hc, look⟩ := Option.map_eq_some_iff.mp after
  obtain ⟨he, ht⟩ := Prod.mk.inj look
  have current : ∀ g, c.tag = some g → g = t'.floor.desk.generation := by
    rw [ht]
    rintro g ⟨⟩
    rfl
  exact ⟨c, hc, he, ht, failure_reverts reach step hc he current⟩

end FlashStation
