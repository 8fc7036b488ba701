/-
# How the phase changes

The observer is told of pairs of phases. All that it is told in a run is a path that starts at idle
and goes along eight edges only, and whenever the record is free the path ends at the record's
phase. A connect tells of the last edge, from connecting to connected, in the step in which it
succeeds.

Key definitions: `Phase.Path`, `Event.observed`.
Key theorems: `told_path`, `told_path_free`, `Traffic.Step.path`, `phases_path`.
-/
import FlashStation.Proofs.Promises

namespace FlashStation

open Station Program Event Traffic

/-- Some pairs are a path from one phase to another: each begins where the one before ended, leads
to another phase, and may do so. -/
def Phase.Path : Phase → List (Phase × Phase) → Phase → Prop
  | p, [], q => p = q
  | p, (before, after) :: rest, q =>
    before = p ∧ before ≠ after ∧ before.leads after = true ∧ after.Path rest q

theorem Phase.Path.append {p q r : Phase} {l l' : List (Phase × Phase)} (h : p.Path l q)
    (h' : q.Path l' r) : p.Path (l ++ l') r := by
  induction l generalizing p with
  | nil =>
    rw [show p = q from h]
    exact h'
  | cons pair l ih =>
    obtain ⟨first, other, leads, rest⟩ := h
    exact ⟨first, other, leads, ih rest⟩

/-- An edge leads to another phase. -/
theorem Phase.leads_ne {p q : Phase} (h : p.leads q = true) : p ≠ q := by
  rintro rfl
  cases p <;> cases h

namespace Event

/-- What the observer is told. -/
def observe : Event → Option (Phase × Phase)
  | .does (.changed before after) _ _ => some (before, after)
  | _ => none

/-- All that the observer is told. -/
def observed (es : List Event) : List (Phase × Phase) := es.filterMap observe

theorem observed_append (es es' : List Event) :
    observed (es ++ es') = observed es ++ observed es' :=
  List.filterMap_append

variable {e : Event} {op : StationOp}

theorem observe_some {before after : Phase} (h : e.observe = some (before, after)) :
    ∃ f, e = .does (.changed before after) () f := by
  unfold observe at h
  split at h
  · cases h
    exact ⟨_, rfl⟩
  · cases h

/-- Who is not told keeps to what was told before. -/
theorem observe_none (h : e.observe = none) (ho : e.performed = some op) (old : Phase) :
    e.phase old = old := by
  cases e with
  | does op answer f =>
    cases op with
    | changed => cases h
    | _ => rfl
  | starts => rfl
  | wakes => cases ho

end Event

section
variable {config : Config} {errand : Errand} {start : Floor} {x es : List Event}

/-- **What the observer is told while a call goes on is a path**, and it ends where the call
believes the observer to be. -/
theorem told_path (admits : (Duties config errand start).Admits x es)
    (performed : ∀ e ∈ es, ∃ op, e.performed = some op) :
    (told start.desk.phase x).Path (observed es) (told start.desk.phase (x ++ es)) := by
  induction es generalizing x with
  | nil =>
    rw [List.append_nil]
    rfl
  | cons e es ih =>
    obtain ⟨may, admits⟩ := admits
    obtain ⟨⟨op, ho⟩, performed⟩ := List.forall_mem_cons.mp performed
    have rest : (told start.desk.phase (x ++ [e])).Path (observed es)
        (told start.desk.phase (x ++ [e] ++ es)) := ih admits performed
    rw [List.append_cons]
    show Phase.Path _ (List.filterMap observe (e :: es)) _
    cases hp : e.observe with
    | none =>
      rw [List.filterMap_cons_none hp]
      rw [told_snoc, observe_none hp ho] at rest
      exact rest
    | some pair =>
      obtain ⟨before, after⟩ := pair
      rw [List.filterMap_cons_some hp]
      obtain ⟨f, rfl⟩ := observe_some hp
      have dutiful := may _ rfl
      have leads : before.leads after = true := by
        cases dutiful.duty with
        | plain h => cases h
        | changes leads => exact leads
      rw [told_snoc] at rest
      exact ⟨(dutiful.changes before after rfl).symm, Phase.leads_ne leads, leads, rest⟩

/-- Whenever the record is free, the path has come to the record's phase. -/
theorem told_path_free {pre post : List Event} {e : Event}
    (admits : (Duties config errand start).Admits x (pre ++ e :: post))
    (performed : ∀ e' ∈ pre ++ e :: post, ∃ op, e'.performed = some op) (free : e.free = true) :
    (told start.desk.phase x).Path (observed pre) e.floor.desk.phase := by
  obtain ⟨op, ho⟩ := performed e (by simp)
  have off : op.onRecord = false := by
    rw [Event.free_performed ho] at free
    simpa using free
  have now : told start.desk.phase (x ++ pre) = e.floor.desk.phase :=
    (Conduct.admits_at admits ho).free off
  rw [← now]
  exact told_path (Conduct.ofDiary_append.mp admits).1 fun e' he =>
    performed e' (List.mem_append_left _ he)

end

namespace Traffic

variable {config : Config} {t t' : Traffic} {log : List Deed} {i : Nat} {c : Call}
  {es pre post : List Event} {e : Event}

/-- A step other than a report is a stretch of the call, perhaps after an answer; when the stretch
begins, the call believes the observer to be where the record is. -/
theorem Step.woken (run : Run config .new log t) (hs : Step config t i es t')
    (hc : t'.calls[i]? = some c) (hr : Deed.report ⟨i, es, t.floor, t'.floor⟩ = false) :
    ∃ wake rest, es = wake ++ rest ∧ (∀ e ∈ wake, e.observe = none ∧ e.floor = t.floor) ∧
      (∀ e ∈ rest, ∃ op, e.performed = some op) ∧
      told c.start.desk.phase (diary log i ++ wake) = t.floor.desk.phase := by
  cases hs with
  | begins errand h =>
    have fresh := (run.kept (promised config)).callers
    rw [List.getElem?_concat_length] at hc
    cases hc
    refine ⟨[], es, rfl, List.forall_mem_nil _, h.performed, ?_⟩
    rw [diary_none fun d hd => Nat.ne_of_lt (fresh d hd)]
    rfl
  | @resumes _ d op next hd hw answer es f q h =>
    refine ⟨[.wakes op answer t.floor], es, rfl, ?_, h.performed, ?_⟩
    · exact List.forall_mem_singleton.mpr ⟨rfl, rfl⟩
    · rw [told_snoc]
      rfl
  | reports _ _ _ _ h =>
    have reports := h.reports
    cases reports <;> cases hr

/-- A loader that reports tells the observer nothing, and leaves the phase as it is. -/
theorem Reports.phase {f f' : Floor} {g : Nat} {written total : UInt64}
    (h : Reports f g written total es f') :
    f'.desk.phase = f.desk.phase ∧
      ∀ e ∈ es, e.observe = none ∧ e.floor.desk.phase = f.desk.phase := by
  cases h with
  | late => exact ⟨rfl, List.forall_mem_singleton.mpr ⟨rfl, rfl⟩⟩
  | counts _ f' hf =>
    subst hf
    simp [observe, Event.floor]

theorem observed_eq_nil (h : ∀ e ∈ es, e.observe = none) : observed es = [] :=
  List.filterMap_eq_nil_iff.mpr h

/-- When a call gives way to others it believes the observer to be where the record is. -/
theorem told_stands {errand : Errand} {start f : Floor} {x : List Event}
    {q : Program Station Result}
    (h : q.Stands (Dutiful config errand start) (Closed config errand start) x f) :
    told start.desk.phase x = f.desk.phase := by
  cases q with
  | done r => exact h.tidy.told
  | call op next =>
    obtain ⟨hs, before, rfl, dutiful⟩ := h.1
    have off : op.onRecord = false := by
      cases op <;> first | rfl | cases hs
    rw [told_snoc]
    exact dutiful.free off

/-- **What the observer is told in a step is a path** from the phase before to the phase after,
and whenever the record is free it has come to the phase then. -/
theorem Step.path (run : Run config .new log t) (hs : Step config t i es t') :
    t.floor.desk.phase.Path (observed es) t'.floor.desk.phase ∧
      ∀ pre e post, es = pre ++ e :: post → e.free = true →
        t.floor.desk.phase.Path (observed pre) e.floor.desk.phase := by
  cases hr : Deed.report ⟨i, es, t.floor, t'.floor⟩ with
  | true =>
    obtain ⟨_, _, _, _, reports⟩ := hs.reported hr
    obtain ⟨same, quiet⟩ := Reports.phase reports
    constructor
    · rw [observed_eq_nil fun e he => (quiet e he).1]
      exact same.symm
    · intro pre e post he _
      rw [observed_eq_nil fun e' he' => (quiet e' (by simp [he, he'])).1]
      exact (quiet e (by simp [he])).2.symm
  | false =>
    obtain ⟨c, hc⟩ := hs.caller
    obtain ⟨_, _, stands⟩ := (run.kept (promised config)).own (promised config) hs hc hr
    have admits := run.admits hs hc hr
    obtain ⟨wake, rest, rfl, woken, performed, told⟩ := hs.woken run hc hr
    have silent : observed wake = [] := observed_eq_nil fun e he => (woken e he).1
    rw [← List.append_assoc] at stands
    have admits := (Conduct.ofDiary_append.mp admits).2
    constructor
    · have path := told_path admits performed
      rw [told, told_stands stands] at path
      rw [observed_append, silent]
      exact path
    · intro pre e post he free
      have performing (mid : List Event) (hp : pre = wake ++ mid) (hm : rest = mid ++ e :: post) :
          t.floor.desk.phase.Path (observed pre) e.floor.desk.phase := by
        rw [hm] at admits performed
        rw [hp, observed_append, silent, ← told]
        exact told_path_free admits performed free
      rcases List.append_eq_append_iff.mp he with ⟨mid, hp, hm⟩ | ⟨mid, hw, hm⟩
      · exact performing mid hp hm
      · cases mid with
        | nil => exact performing [] (by simpa using hw.symm) hm.symm
        | cons e' mid =>
          -- nothing was done before the answer
          cases hm
          rw [observed_eq_nil fun e' he' => (woken e' (by simp [hw, he'])).1]
          rw [(woken e (by simp [hw])).2]
          rfl

theorem Run.path (run : Run config .new log t) :
    Phase.idle.Path (observed (log.flatMap (·.events))) t.floor.desk.phase := by
  induction run with
  | here => rfl
  | step run hs ih =>
    rw [List.flatMap_append, List.flatMap_singleton, observed_append]
    exact ih.append (hs.path run).1

/-- Whoever tells that the station is connected is a connect that is over then and has succeeded;
it has the station's generation, and the boot loader has shaken hands with it. -/
theorem Step.joins (run : Run config .new log t) (hs : Step config t i es t')
    (hc : t'.calls[i]? = some c) {f : Floor}
    (h : .does (.changed .connecting .connected) () f ∈ es) :
    c.errand.isConnect = true ∧ (∃ info, c.rest = .done (.connected (.ok info))) ∧
      c.tag = some t'.floor.desk.generation ∧ ∃ s f', f.desk.session = some s ∧
        .wakes (.handshake s.loader) (.ok ()) f' ∈ diary log i ++ es := by
  cases hr : Deed.report ⟨i, es, t.floor, t'.floor⟩ with
  | true =>
    obtain ⟨_, _, _, _, reports⟩ := hs.reported hr
    have silent := ((Reports.phase reports).2 _ h).1
    cases silent
  | false =>
    obtain ⟨tag, _, stands⟩ := (run.kept (promised config)).own (promised config) hs hc hr
    obtain ⟨pre, post, he⟩ := List.append_of_mem h
    have joined : Joined (diary log i ++ es) := ⟨f, by simp [h]⟩
    have shaken : ∃ s f', f.desk.session = some s ∧
        .wakes (.handshake s.loader) (.ok ()) f' ∈ diary log i ++ pre := by
      have duty := run.duty_now hs hc he rfl
      cases duty with
      | plain h => cases h
      | changes _ _ joined => exact (joined rfl rfl).2
    obtain ⟨s, f', session, woken⟩ := shaken
    have shook : .wakes (.handshake s.loader) (.ok ()) f' ∈ diary log i ++ es := by
      rw [he, ← List.append_assoc]
      exact List.mem_append_left _ woken
    cases hq : c.rest with
    | done r =>
      rw [hq] at stands
      obtain ⟨connect, now, info, rfl⟩ := stands.joined joined
      exact ⟨connect, ⟨info, rfl⟩, tag.symm.trans now, s, f', session, shook⟩
    | call op next =>
      -- a call that has told of this waits no more
      rw [hq] at stands
      obtain ⟨suspends, before, hx, dutiful⟩ := stands.1
      obtain ⟨g, told⟩ := joined
      rw [hx, List.mem_append, List.mem_singleton] at told
      rcases told with told | told
      · exact absurd ⟨g, told⟩ (dutiful.waits suspends).1
      · cases told

end Traffic

section
variable {config : Config} {t t' : Traffic} {log : List Deed} {i : Nat} {es : List Event}

/-- **How the phase changes.** All that the observer is told in a run is a path from idle along the
eight edges, each to another phase; it ends at the phase of the record, at the end of the run and
whenever the record is free in the next step. And whoever tells that the station goes from
connecting to connected is a connect that has succeeded when the step is over: it carries the
station's generation, and the loader of the session that it has put into the record has shaken
hands. -/
theorem phases_path (run : Run config .new log t) (hs : Step config t i es t') :
    Phase.idle.Path (observed (log.flatMap (·.events))) t.floor.desk.phase ∧
    (∀ pre e post, es = pre ++ e :: post → e.free = true →
      Phase.idle.Path (observed (log.flatMap (·.events) ++ pre)) e.floor.desk.phase) ∧
    ∀ f, .does (.changed .connecting .connected) () f ∈ es → ∃ c info s f',
      t'.calls[i]? = some c ∧ c.errand.isConnect = true ∧
      c.rest = .done (.connected (.ok info)) ∧ c.tag = some t'.floor.desk.generation ∧
      f.desk.session = some s ∧ .wakes (.handshake s.loader) (.ok ()) f' ∈ diary log i ++ es := by
  refine ⟨run.path, ?_, ?_⟩
  · intro pre e post he free
    rw [observed_append]
    exact run.path.append ((hs.path run).2 pre e post he free)
  · intro f h
    obtain ⟨c, hc⟩ := hs.caller
    obtain ⟨connect, ⟨info, ended⟩, now, s, f', session, shook⟩ := hs.joins run hc h
    exact ⟨c, info, s, f', hc, connect, ended, now, session, shook⟩

/-- A connect that waits for the last answer of the board. -/
def Traffic.joining : Traffic :=
  (Traffic.new.begin .default (obliging default .closed) (.connect none)).carryOn
    (obliging default .closed) 0 6

/-- It tells that the station is connected, and has succeeded. -/
theorem joining_path :
    let answer := obliging default .closed
    let es := Traffic.joining.events answer 0
    let t' := Traffic.joining.resume answer 0
    ∃ log f c info, Run .default .new log Traffic.joining ∧
      Phase.idle.Path (observed (log.flatMap (·.events))) .connecting ∧
      .does (.changed .connecting .connected) () f ∈ es ∧
      t'.calls[0]? = some c ∧ c.rest = .done (.connected (.ok info)) ∧
      c.tag = some t'.floor.desk.generation := by
  intro answer es t'
  have reach : Reach .default .joining := (Reach.new.begin _ _).carryOn _ _ _
  obtain ⟨log, run⟩ := reach
  have waits : Traffic.joining.calls[0]?.map Call.pending = some true := by decide +kernel
  have step : Step .default .joining 0 es t' := Step.resume answer waits
  have tells : ∃ e ∈ es, e.observe = some (.connecting, .connected) := by decide +kernel
  obtain ⟨e, he, told⟩ := tells
  obtain ⟨f, rfl⟩ := observe_some told
  have phase : Traffic.joining.floor.desk.phase = .connecting := by decide +kernel
  obtain ⟨path, _, joins⟩ := phases_path run step
  obtain ⟨c, info, _, _, hc, _, ended, now, _⟩ := joins f he
  exact ⟨log, f, c, info, run, phase ▸ path, he, hc, ended, now⟩

end

end FlashStation
