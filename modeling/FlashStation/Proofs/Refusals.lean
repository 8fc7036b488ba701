/-
# Calls that are refused

A call is refused before it has done anything: a connect where there are no serial ports at all, or
while the station is connecting or flashing; a flash while the station is not connected; and then a
flash of a choice that cannot be written. Whoever refuses only looks at the record and tells of it.
Nobody else is called, and nothing of the record changes but the text of the last fault; so a call
that has the station meanwhile does not notice.

Key definitions: `Failure.refuses`, `Failure.kept`, `StationOp.bare`, `Refuses`, `Errand.refusal`,
`Minds`.
Key theorems: `Refuses.asks`, `Course.connect_refusal`, `Course.flash_refusal`, `Course.refusal`,
`refused_untouched`.
-/
import FlashStation.Proofs.Entries
import FlashStation.Proofs.Preview

namespace FlashStation

open Station Program StationOp

/-! ### Refusals -/

/-- Whether a fault says that a call was refused. -/
def Failure.refuses : Failure → Bool
  | .connect .unsupported | .connect (.busy _) | .flash (.notConnected _) | .choice _ => true
  | _ => false

/-- Who is refused gets a fault that says so. -/
theorem Refusal.refuses {d : Desk} {errand : Errand} {e : Failure} (h : Refusal d errand e) :
    e.refuses = true := by
  cases h <;> rfl

/-- What a flash comes to, as its caller gets it, is a fault if and only if it is one. -/
theorem Errand.flashed_failure {errand : Errand} (he : errand.isFlash = true)
    (r : Except FlashFault FlashSummary) (e : Failure) :
    (errand.flashed r).failure = some e ↔ ∃ fault, r = .error fault ∧ e = .flash fault := by
  cases errand with
  | connect | disconnect => cases he
  | flash | flashChoice =>
    cases r <;> simp [Errand.flashed, Except.mapError, Result.failure, eq_comm]

/-- The text of the last fault after a refusal, given the one before. -/
def Failure.kept (old : Option String) : Failure → Option String
  | .connect (.busy _) => old
  | e => some e.message

/-- Whether an operation only looks at the record, keeps it, tells something, or asks whether there
are serial ports at all. -/
def StationOp.bare : StationOp → Bool
  | .supported | .read | .write _ | .link (.log _ _) => true
  | _ => false

/-- A call is refused with a fault: only its notice is told, and all is as before but for the text
of the last fault. -/
structure Refuses (f : Floor) (e : Failure) (x : List Event) (f' : Floor) : Prop where
  /-- The floor is as it was until all is over. -/
  bare : ∀ event ∈ x, ∃ op answer, event = .does op answer f ∧ op.bare = true
  tells : entries (dialogue x) = [e.notice]
  keeps : f' = { f with desk := { f.desk with lastError := e.kept f.desk.lastError } }

/-- Of what a refusal may do, only the question whether there are serial ports leaves the
station. -/
theorem StationOp.bare_outward {op : StationOp} (bare : op.bare = true)
    (leaves : op.outward = true) : op = .supported := by
  cases op with
  | supported => rfl
  | link op => cases op <;> simp_all [StationOp.bare, StationOp.outward]
  | _ => simp_all [StationOp.bare, StationOp.outward]

/-- A refusal asks no more than whether there are serial ports at all. -/
theorem Refuses.asks {f f' : Floor} {x : List Event} {e : Failure}
    (h : Refuses f e x f') :
    ∀ exchange ∈ outward (dialogue x), exchange.op = .supported := by
  intro exchange he
  obtain ⟨mem, leaves⟩ := List.mem_filter.mp he
  obtain ⟨event, he, same⟩ := List.mem_filterMap.mp mem
  obtain ⟨op, answer, rfl, bare⟩ := h.bare event he
  cases same
  exact StationOp.bare_outward bare leaves

/-- Why a call is refused with the record `d`, if it is; `supported` says whether there are serial
ports at all. -/
def Errand.refusal (supported : Bool) (d : Desk) : Errand → Option Failure
  | .connect _ =>
    if supported = false then some (.connect .unsupported)
    else if d.phase = .connecting ∨ d.phase = .flashing then some (.connect (.busy d.phase))
    else none
  | .flash _ => if d.phase = .connected then none else some (.flash (.notConnected d.phase))
  | .flashChoice choice =>
    if d.phase = .connected then
      match choice.resolve with
      | .error fault => some (.choice fault)
      | .ok _ => none
    else some (.flash (.notConnected d.phase))
  | .disconnect => none

namespace Errand

variable {supported : Bool} {d : Desk} {preferred : Option UInt32}

theorem refusal_unsupported_iff :
    (connect preferred).refusal supported d = some (.connect .unsupported) ↔ supported = false := by
  rw [refusal]
  split
  · exact iff_of_true rfl ‹_›
  · refine iff_of_false ?_ ‹_›
    split <;> nofun

theorem refusal_busy_iff {p : Phase} :
    (connect preferred).refusal supported d = some (.connect (.busy p)) ↔
      supported = true ∧ (d.phase = .connecting ∨ d.phase = .flashing) ∧ p = d.phase := by
  cases supported with
  | false => exact iff_of_false nofun nofun
  | true =>
    have same : some (Failure.connect (.busy d.phase)) = some (.connect (.busy p)) ↔
        p = d.phase := by
      simp [eq_comm]
    rw [refusal, if_neg nofun]
    split
    · rw [same]
      simp [*]
    · simp [*]

theorem refusal_notConnected_iff {errand : Errand} (flash : errand.isFlash = true) {p : Phase} :
    errand.refusal supported d = some (.flash (.notConnected p)) ↔
      d.phase ≠ .connected ∧ p = d.phase := by
  have same : some (Failure.flash (.notConnected d.phase)) = some (.flash (.notConnected p)) ↔
      p = d.phase := by
    simp [eq_comm]
  cases errand with
  | connect | disconnect => cases flash
  | flash source =>
    rw [refusal]
    split
    · simp [*]
    · rw [same]
      simp [*]
  | flashChoice choice =>
    rw [refusal]
    split
    · cases choice.resolve <;> simp [*]
    · rw [same]
      simp [*]

theorem refusal_choice_iff {choice : Choice} {fault : ChoiceFault} :
    (flashChoice choice).refusal supported d = some (.choice fault) ↔
      d.phase = .connected ∧ choice.resolve = .error fault := by
  rw [refusal]
  split
  · cases choice.resolve <;> simp [*]
  · simp [*]

end Errand

/-- A call does as it should with regard to refusals: it is refused with the fault that it should,
or goes on and never ends with such a fault. -/
def Minds (f : Floor) (should : Option Failure) (x : List Event) (f' : Floor)
    (failure : Option Failure) : Prop :=
  match should with
  | some e => failure = some e ∧ e.refuses = true ∧ Refuses f e x f'
  | none => ∀ e, failure = some e → e.refuses = false

section
variable {α : Type} {config : Config} {tag : Option Nat} {f f' : Floor} {x : List Event}
  {q : Program Station Result}

/-- An operation of a call that is refused comes first. -/
theorem Refuses.after {e : Failure} (op : StationOp) (answer : op.Answer) (hb : op.bare = true)
    (untold : op.entry? = none) (h : Refuses f e x f') :
    Refuses f e (.does op answer f :: x) f' where
  bare := List.forall_mem_cons.mpr ⟨⟨op, answer, rfl, hb⟩, h.bare⟩
  tells := by rw [dialogue_does, entries_skip untold, h.tells]
  keeps := h.keeps

theorem Minds.after {should failure : Option Failure} (op : StationOp) (answer : op.Answer)
    (hb : op.bare = true) (untold : op.entry? = none) (h : Minds f should x f' failure) :
    Minds f should (.does op answer f :: x) f' failure := by
  cases should with
  | none => exact h
  | some e => exact ⟨h.1, h.2.1, h.2.2.after op answer hb untold⟩

/-- A fault is told, its text is kept, and the call is over. -/
theorem Course.complaint_refuses {variant : Variant} {message : String} {e : Failure} {r : Result}
    (h : Course tag ((Station.log variant message).bind fun _ =>
      (setLastError e.message).bind fun _ => .done r) f x f' q)
    (notice : e.notice = (variant, message)) (he : e.refuses = true)
    (kept : ∀ old, e.kept old = some e.message) (hr : r.failure = some e) :
    Minds f (some e) x f' (q.value.bind Result.failure) := by
  obtain ⟨_, rfl, h1⟩ := Course.log_inv h
  obtain ⟨_, rfl, h2⟩ := Course.read_inv h1
  obtain ⟨_, rfl, h3⟩ := Course.write_inv h2
  obtain ⟨rfl, rfl, rfl⟩ := h3.done_inv
  refine ⟨hr, he, ?_, by rw [notice]; rfl, by rw [kept]⟩
  exact List.forall_mem_cons.mpr ⟨⟨_, _, rfl, rfl⟩, List.forall_mem_cons.mpr ⟨⟨_, _, rfl, rfl⟩,
    List.forall_mem_singleton.mpr ⟨_, _, rfl, rfl⟩⟩⟩

/-- A program that never comes to a refusal does not end with one. -/
theorem Course.unrefused {p : Program Station Result} (h : Course tag p f x f' q)
    (returns : p.Returns fun r => ∀ e, r.failure = some e → e.refuses = false) {y : List Event} :
    Minds f none y f' (q.value.bind Result.failure) := by
  intro e he
  obtain ⟨r, ended, failed⟩ := Option.bind_eq_some_iff.mp he
  rw [Program.value_eq] at ended
  have all := h.returns returns
  rw [ended] at all
  exact all e failed

/-! ### Each kind of call -/

/-- **A connect is refused as it should be.** -/
theorem Course.connect_refusal {preferred : Option UInt32}
    (h : Course none ((Errand.connect preferred).program config) f x f' q) :
    ∃ supported, x.head? = some (.does .supported supported f) ∧
      Minds f ((Errand.connect preferred).refusal supported f.desk) x f'
        (q.value.bind Result.failure) := by
  obtain ⟨supported, _, rfl, h1⟩ := Course.does_inv .supported h rfl
  refine ⟨supported, rfl, ?_⟩
  cases supported with
  | false =>
    exact .after _ _ rfl rfl <| Course.complaint_refuses (e := .connect .unsupported) h1 rfl rfl
      (fun _ => rfl) rfl
  | true =>
    obtain ⟨_, rfl, h2⟩ := Course.read_inv h1
    refine .after _ _ rfl rfl (.after _ _ rfl rfl ?_)
    by_cases hb : f.desk.phase = .connecting ∨ f.desk.phase = .flashing
    · simp only [StationOp.settle, Program.done_bind, if_pos hb] at h2
      obtain ⟨_, rfl, h3⟩ := Course.log_inv h2
      obtain ⟨rfl, rfl, rfl⟩ := Course.done_inv h3
      rw [Errand.refusal, if_neg Bool.false_ne_true.symm, if_pos hb]
      exact ⟨rfl, rfl, List.forall_mem_singleton.mpr ⟨_, _, rfl, rfl⟩, rfl, rfl⟩
    · simp only [StationOp.settle, Program.done_bind, Program.bind_def, if_neg hb] at h2
      rw [Errand.refusal, if_neg Bool.false_ne_true.symm, if_neg hb]
      refine h2.unrefused ?_
      refine .bind (P := Meant) (.anyway fun _ => .anyway fun _ => attempt_returns _ _ _ _) ?_
      rintro (fault | info) meant e ⟨⟩
      cases fault with
      | selectionCancelled | selection | handshake | superseded => rfl
      | unsupported | busy =>
        rcases meant _ rfl with kind | other
        · cases kind
        · cases other

/-- A flash is refused because of the phase. -/
theorem Course.reject_refusal {w : FlashFault → Result}
    (h : Course tag ((rejectFlash f.desk.phase).bind fun fault => .done (w fault)) f x f' q)
    (hw : ∀ fault, (w fault).failure = some (.flash fault)) :
    Minds f (some (.flash (.notConnected f.desk.phase))) x f' (q.value.bind Result.failure) := by
  simp only [rejectFlash, Program.bind_def, Program.pure_def, Program.bind_assoc,
    Program.done_bind] at h
  exact Course.complaint_refuses (e := .flash (.notConnected f.desk.phase)) h rfl rfl
    (fun _ => rfl) (hw _)

/-- A flash that has the session does not end with a refusal. -/
theorem flashWith_returns (g : Nat) (session : Session) (source : Source) (chip : Option String) :
    (flashWith config g session source chip).Returns
      fun r => ∀ phase, r ≠ .error (.notConnected phase) := by
  have writes : (writeSource g session.loader source chip).Returns
      fun r => ∀ phase, r ≠ .error (.notConnected phase) := by
    rw [writeSource_eq]
    refine .anyway fun fetched => ?_
    cases fetched with
    | error fault => exact nofun
    | ok payload =>
      refine .anyway fun current => ?_
      cases current with
      | false => exact nofun
      | true =>
        refine .anyway fun _ => .anyway fun written => ?_
        cases written with
        | error fault => exact nofun
        | ok _ =>
          refine .anyway fun current => ?_
          cases current with
          | false => exact nofun
          | true => exact .anyway fun _ => .anyway fun _ => .anyway fun _ => nofun
  refine .anyway fun _ => .anyway fun _ => writes.bind fun outcome h => ?_
  refine .anyway fun current => ?_
  cases current with
  | false => exact .anyway fun _ => .anyway fun _ => nofun
  | true =>
    cases outcome with
    | ok summary => exact .anyway fun _ => .anyway fun _ => .anyway fun _ => nofun
    | error fault => exact .anyway fun _ => .anyway fun _ => .anyway fun _ => h

/-- A flash of a source is refused as it should be. -/
theorem Course.source_refusal {source : Source} {w : Except FlashFault FlashSummary → Result}
    {k : Except FlashFault FlashSummary → Program Station Result} (hk : ∀ r, k r = .done (w r))
    (hw : ∀ r e, (w r).failure = some e ↔ ∃ fault, r = .error fault ∧ e = .flash fault)
    (there : f.desk.session.isSome = true ↔ f.desk.phase = .connected)
    (h : Course tag ((Station.flash config source).bind k) f x f' q) :
    Minds f ((Errand.flash source).refusal true f.desk) x f' (q.value.bind Result.failure) := by
  obtain rfl : k = fun r => .done (w r) := funext hk
  obtain ⟨_, rfl, h1⟩ := Course.read_inv h
  refine .after _ _ rfl rfl ?_
  by_cases hp : f.desk.phase = .connected
  · obtain ⟨session, hs⟩ := Option.isSome_iff_exists.mp (there.mpr hp)
    simp only [Program.done_bind, Program.bind_def, hp, hs, ne_eq, not_true_eq_false,
      if_false] at h1
    rw [Errand.refusal, if_pos hp]
    refine h1.unrefused ?_
    refine .bind (.anyway fun _ => .anyway fun _ => flashWith_returns _ _ _ _) fun r never => ?_
    intro e failed
    obtain ⟨fault, rfl, rfl⟩ := (hw r e).mp failed
    cases fault with
    | notConnected phase => exact absurd rfl (never phase)
    | fetch | write | superseded => rfl
  · simp only [Program.done_bind, Program.bind_def, Program.pure_def, Program.bind_assoc, hp,
      ne_eq, not_false_eq_true, if_true] at h1
    rw [Errand.refusal, if_neg hp]
    exact h1.reject_refusal fun fault => (hw _ _).mpr ⟨fault, rfl, rfl⟩

/-- **A flash is refused as it should be**; whether a choice can be written is asked last. -/
theorem Course.flash_refusal {errand : Errand} (he : errand.isFlash = true)
    (there : f.desk.session.isSome = true ↔ f.desk.phase = .connected)
    (h : Course none (errand.program config) f x f' q) :
    Minds f (errand.refusal true f.desk) x f' (q.value.bind Result.failure) := by
  cases errand with
  | connect | disconnect => cases he
  | flash source =>
    exact Course.source_refusal (fun _ => rfl) ((Errand.flash source).flashed_failure rfl) there h
  | flashChoice choice =>
    obtain ⟨_, rfl, h1⟩ := Course.read_inv h
    refine .after _ _ rfl rfl ?_
    by_cases hp : f.desk.phase = .connected
    · cases hc : choice.resolve with
      | error fault =>
        simp only [Program.done_bind, Program.bind_def, Program.pure_def, Program.bind_assoc, hp,
          hc, ne_eq, not_true_eq_false, if_false] at h1
        rw [Errand.refusal, if_pos hp, hc]
        exact Course.complaint_refuses (e := .choice fault) h1 rfl rfl (fun _ => rfl) rfl
      | ok source =>
        simp only [Program.done_bind, Program.bind_def, Program.pure_def, Program.bind_assoc, hp,
          hc, ne_eq, not_true_eq_false, if_false] at h1
        have same : (Errand.flashChoice choice).refusal true f.desk =
            (Errand.flash source).refusal true f.desk := by
          rw [Errand.refusal, Errand.refusal, if_pos hp, if_pos hp, hc]
        rw [same]
        exact Course.source_refusal (fun r => by cases r <;> rfl)
          ((Errand.flashChoice choice).flashed_failure rfl) there h1
    · simp only [Program.done_bind, Program.bind_def, Program.pure_def, Program.bind_assoc, hp,
        ne_eq, not_false_eq_true, if_true] at h1
      rw [Errand.refusal, if_neg hp]
      exact h1.reject_refusal (w := fun fault => .flashedChoice (.error (.flash fault)))
        fun _ => rfl

/-- **A call is refused as it should be.** -/
theorem Course.refusal {errand : Errand}
    (there : f.desk.session.isSome = true ↔ f.desk.phase = .connected)
    (h : Course none (errand.program config) f x f' q) :
    ∃ supported,
      (errand.isConnect = true → x.head? = some (.does .supported supported f)) ∧
      Minds f (errand.refusal supported f.desk) x f' (q.value.bind Result.failure) := by
  cases errand with
  | connect preferred =>
    obtain ⟨supported, asked, minds⟩ := h.connect_refusal
    exact ⟨supported, fun _ => asked, minds⟩
  | flash | flashChoice => exact ⟨true, nofun, h.flash_refusal rfl there⟩
  | disconnect =>
    refine ⟨true, nofun, h.unrefused ?_⟩
    exact .anyway fun _ => nofun

/-- A call ends with a refusal if and only if it should. -/
theorem Minds.iff {should failure : Option Failure} {e : Failure} (h : Minds f should x f' failure)
    (he : e.refuses = true) : failure = some e ↔ should = some e := by
  cases should with
  | some e' => rw [h.1]
  | none =>
    refine ⟨fun failed => ?_, nofun⟩
    rw [h e failed] at he
    cases he

theorem Minds.refuses {should : Option Failure} {e : Failure} (h : Minds f should x f' (some e))
    (he : e.refuses = true) : Refuses f e x f' := by
  rw [(h.iff he).mp rfl] at h
  exact h.2.2

/-- The same for a call that is over. -/
theorem Minds.refuses_done {should : Option Failure} {e : Failure} {r : Result}
    (h : Minds f should x f' ((.done r : Program Station Result).value.bind Result.failure))
    (failed : r.failure = some e) (he : e.refuses = true) : Refuses f e x f' := by
  have same : (.done r : Program Station Result).value.bind Result.failure = some e := failed
  rw [same] at h
  exact h.refuses he

end

namespace Traffic

variable {config : Config} {t t' : Traffic} {log : List Deed} {i : Nat} {c : Call}
  {es : List Event}

/-- A call that is made. -/
theorem Step.made_new (hs : Step config t i es t') (new : i = t.calls.length)
    (hc : t'.calls[i]? = some c) :
    c.start = t.floor ∧ t'.calls = t.calls ++ [c] ∧
      Course none (c.errand.program config) t.floor es t'.floor c.rest := by
  have none : t.calls[i]? = none := List.getElem?_eq_none (Nat.le_of_eq new.symm)
  cases hs with
  | begins errand h =>
    rw [List.getElem?_concat_length] at hc
    cases hc
    exact ⟨rfl, rfl, h.course _⟩
  | resumes hd | reports hd =>
    rw [none] at hd
    cases hd

/-- A call that ends with a refusal has just been made. -/
theorem Step.refused_new (run : Run config .new log t) (hs : Step config t i es t')
    (hc : t'.calls[i]? = some c) {e : Failure} (failed : c.failure = some e)
    (he : e.refuses = true) : i = t.calls.length := by
  obtain ⟨f, course, _, _⟩ := hs.course run hc
  have there := ((run.step hs).start_sound hc).coherent.session
  obtain ⟨_, _, minds⟩ := course.refusal there
  rw [show c.rest.value.bind Result.failure = some e from failed] at minds
  have bare := (minds.refuses he).bare
  cases hs with
  | begins => rfl
  | @resumes _ d op next hd hw answer =>
    -- nobody is answered in a call that is refused
    rw [diary_own rfl rfl] at bare
    obtain ⟨_, _, same, _⟩ := bare (.wakes op answer t.floor) (by simp)
    cases same
  | reports hd hw =>
    cases hd.symm.trans hc
    rw [Call.failure, hw] at failed
    cases failed

end Traffic

open Traffic

/-- **A call that is refused leaves all as it is.** It is refused in the step in which it is made,
whatever other calls are under way then, and all it does is to look at the record, to tell of the
refusal and to keep its text; and it is refused if and only if it should be. -/
theorem refused_untouched {config : Config} {t t' : Traffic} {i : Nat} {es : List Event} {c : Call}
    (reach : Reach config t) (hs : Step config t i es t') (hc : t'.calls[i]? = some c) :
    let d := t.floor.desk
    (∀ e, c.failure = some e → e.refuses = true →
      i = t.calls.length ∧ t'.calls = t.calls ++ [c] ∧ Refuses t.floor e es t'.floor) ∧
    (i = t.calls.length →
      (∀ preferred, c.errand = .connect preferred →
        ∃ supported, es.head? = some (.does .supported supported t.floor) ∧
          (c.failure = some (.connect .unsupported) ↔ supported = false) ∧
          ∀ p, c.failure = some (.connect (.busy p)) ↔
            supported = true ∧ (d.phase = .connecting ∨ d.phase = .flashing) ∧ p = d.phase) ∧
      (c.errand.isFlash = true → ∀ p, c.failure = some (.flash (.notConnected p)) ↔
        d.phase ≠ .connected ∧ p = d.phase) ∧
      ∀ choice, c.errand = .flashChoice choice → ∀ fault,
        c.failure = some (.choice fault) ↔
          d.phase = .connected ∧ choice.resolve = .error fault) := by
  intro d
  obtain ⟨log, run⟩ := reach
  have there : d.session.isSome = true ↔ d.phase = .connected :=
    (Reach.orderly ⟨_, run⟩).sound.coherent.session
  constructor
  · intro e failed he
    have new := hs.refused_new run hc failed he
    obtain ⟨_, calls, course⟩ := hs.made_new new hc
    obtain ⟨_, _, minds⟩ := course.refusal there
    rw [show c.rest.value.bind Result.failure = some e from failed] at minds
    exact ⟨new, calls, minds.refuses he⟩
  · intro new
    obtain ⟨_, _, course⟩ := hs.made_new new hc
    obtain ⟨supported, asked, minds⟩ := course.refusal there
    change Minds _ _ _ _ c.failure at minds
    refine ⟨?_, ?_, ?_⟩
    · intro preferred errand
      rw [errand] at asked minds
      exact ⟨supported, asked rfl, (minds.iff rfl).trans Errand.refusal_unsupported_iff,
        fun p => (minds.iff rfl).trans Errand.refusal_busy_iff⟩
    · intro flash p
      exact (minds.iff rfl).trans (Errand.refusal_notConnected_iff flash)
    · intro choice errand fault
      rw [errand] at minds
      exact (minds.iff rfl).trans Errand.refusal_choice_iff

/-- A connect that comes while a loader writes leaves the flash alone. -/
theorem busy_untouched :
    ∃ es t' c, Step .default .writing 2 es t' ∧ t'.calls[2]? = some c ∧
      c.failure = some (.connect (.busy .flashing)) ∧ t'.calls = Traffic.writing.calls ++ [c] ∧
      t'.floor = Traffic.writing.floor ∧
      entries (dialogue es) = [(.trace, "Connect ignored while flashing")] := by
  have reach : Reach .default .writing := (Reach.joined.begin _ _).carryOn _ _ _
  have step : Step .default .writing Traffic.writing.calls.length _ _ :=
    .begins (.connect none) (.advance (obliging default .closed) _ _)
  have two : Traffic.writing.calls.length = 2 := by decide +kernel
  have look : (Traffic.writing.begin .default (obliging default .closed)
      (.connect none)).calls[2]?.map Call.failure =
        some (some (.connect (.busy .flashing))) := by
    decide +kernel
  obtain ⟨c, hc, failed⟩ := Option.map_eq_some_iff.mp look
  rw [two] at step
  obtain ⟨untouched, _⟩ := refused_untouched reach step hc
  obtain ⟨_, calls, _, tells, keeps⟩ := untouched _ failed rfl
  exact ⟨_, _, c, step, hc, failed, calls, keeps, tells⟩

end FlashStation
