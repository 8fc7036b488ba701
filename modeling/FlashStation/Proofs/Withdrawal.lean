/-
# How far a superseded connect goes on to acquire a port

A connect looks at the generation for the first time when it has reclaimed all ports that were
granted before, and again only when it was given a port that it asked for. So a connect that was
superseded in between makes all known ports let go, and if no port passed the filters it asks once
more, without them. Nothing else is left of its acquiring: otherwise it touches a port only if it
was given it for its own request, or took a loader apart that it had made or had taken over.

Key theorems: `superseded_withdraws`, `sweeps_on`.
-/
import FlashStation.Proofs.Promises

namespace FlashStation

open Station Program Event Traffic

section
variable {config : Config} {t t' : Traffic} {log : List Deed} {i g : Nat} {c : Call}
  {es pre post x : List Event} {e : Event} {op : StationOp}

/-- While a call is not answered anew, the last answer stays. -/
theorem Event.answered_append (h : ∀ e ∈ es, ∃ op, e.performed = some op) :
    answered (x ++ es) = answered x := by
  induction es using List.reverseRecOn with
  | nil => rw [List.append_nil]
  | append_singleton es e ih =>
    have last : ∃ op, e.performed = some op := h e (by simp)
    have before : answered (x ++ es) = answered x :=
      ih fun e' he => h e' (List.mem_append_left _ he)
    rw [← List.append_assoc, answered_snoc, before]
    cases e with
    | does | starts => rfl
    | wakes =>
      obtain ⟨_, ho⟩ := last
      cases ho

/-- The loaders that a call has taken apart it had made, or taken over. -/
theorem Traffic.Run.gained (run : Run config .new log t) (hs : Step config t i es t')
    (hc : t'.calls[i]? = some c) {loader : Loader} {port : Port} {f : Floor}
    (h : .does (.intoPort loader) port f ∈ diary log i ++ es) :
    Gained (diary log i ++ es) loader := by
  obtain ⟨before, after, split⟩ := List.append_of_mem h
  have duty : Duty config c.errand before f (.intoPort loader) := run.duty hs hc split rfl
  have hand : loader ∈ hands before := by
    cases duty with
    | plain h => cases h
    | takesApart h => exact h
  rw [split]
  exact (hands_origin hand).append _

/-- In a step of a call that was superseded before, it is superseded throughout. -/
theorem Traffic.Run.overdue (run : Run config .new log t) (hs : Step config t i es t')
    (hc : t.calls[i]? = some c) (ht : c.tag = some g) (past : g ≠ t.floor.desk.generation)
    (he : es = pre ++ e :: post) : Overdue (diary log i ++ pre) e.floor := by
  have reach : Reach config t := ⟨log, run⟩
  have fits := reach.orderly.fits c (List.mem_of_getElem? hc) (hs.pending hc)
  have older : g < t.floor.desk.generation := Nat.lt_of_le_of_ne (fits.bound ht) past
  have late : Late c.tag t.floor.desk := fun g' e => by
    rw [ht] at e
    cases e
    exact older
  obtain ⟨_, still⟩ := (reach.move hs).late hc late
  have tag : Event.tags (diary log i) none = some g :=
    ((run.kept (promised config)).calls hc).tag.trans ht
  have accepted : Event.tags (diary log i ++ pre) none = some g := by
    rw [Event.tags_append, tag]
    refine Event.tags_eq _ fun e' he' op ho => ?_
    exact ((still e' (by simp [he, he'])).2 op ho).accepts
  refine ⟨g, accepted, ?_⟩
  rw [(still e (by simp [he])).1]
  exact past

/-- A step in which a port is asked for begins with the last answer. -/
theorem Traffic.Step.answered {filters : List UsbFilter} (hs : Step config t i es t')
    (hc : t.calls[i]? = some c) (he : es = pre ++ e :: post)
    (ho : e.performed = some (.requestPort filters)) (x : List Event) :
    es.head? = Event.answered (x ++ pre) := by
  have mem : e ∈ es := by simp [he]
  cases hs with
  | begins errand h =>
    rw [List.getElem?_eq_none (Nat.le_refl _)] at hc
    cases hc
  | @resumes _ _ op _ _ _ answer rest _ _ h =>
    cases pre with
    | nil =>
      obtain ⟨rfl, _⟩ := List.cons.inj he
      cases ho
    | cons first pre =>
      obtain ⟨rfl, split⟩ := List.cons.inj he
      have performed : ∀ e ∈ pre, ∃ op, e.performed = some op := fun e' he' =>
        h.performed e' (by simp [split, he'])
      rw [List.append_cons, Event.answered_append performed, answered_snoc]
      rfl
  | reports _ _ _ _ h =>
    -- a report asks for nothing
    have reports := h.reports
    cases reports <;> simp at mem
    · subst mem
      cases ho
    · rcases mem with rfl | rfl | rfl | rfl <;> cases ho

/-- **How far a call goes on to acquire a port once it was superseded.** It asks for a port only
without filters, and only if it was waiting for the request with the filters, which was refused
just now. It makes a port let go only if it knows the port from a list of known ports and has not
looked at the generation since it began, or it was given the port for its own request, or it took a
loader apart that had the port. And a loader that it takes apart it had made, or taken over with
the session that was in the record. -/
theorem superseded_withdraws (run : Run config .new log t) (hs : Step config t i es t')
    (hc : t.calls[i]? = some c) (ht : c.tag = some g) (past : g ≠ t.floor.desk.generation) :
    (∀ pre e post, es = pre ++ e :: post →
      (∀ filters, e.performed = some (.requestPort filters) → filters = [] ∧ config.filters ≠ [] ∧
        ∃ f, es.head? = some
          (.wakes (.requestPort config.filters) (.error .noCompatibleDevice) f)) ∧
      ∀ op port, e.performed = some op → op.touched = some port →
        Entitled (diary log i ++ pre) port) ∧
    ∀ loader port f, .does (.intoPort loader) port f ∈ diary log i ++ es →
      Gained (diary log i ++ es) loader := by
  obtain ⟨d, hd⟩ := hs.caller
  refine ⟨fun pre e post he => ?_, fun loader port f h => run.gained hs hd h⟩
  have overdue := run.overdue hs hc ht past he
  constructor
  · intro filters ho
    have duty := run.duty_now hs hd he ho
    cases duty with
    | plain h => cases h
    | asks refused =>
      obtain ⟨none, some, f, answer⟩ := refused overdue
      exact ⟨none, some, f, (hs.answered hc he ho _).trans answer⟩
  · intro op port ho touched
    have duty := run.duty_now hs hd he ho
    cases duty with
    | plain _ entitled => exact entitled port touched
    | complains | reads | looks | keeps | takes | stores | changes | attaches | takesApart | asks
    | shakes => cases touched

end

/-- Two ports are known, and both are open. -/
def twoPorts : (op : StationOp) → op.Answer
  | .knownPorts => .ok [default, { (default : Port) with device := "second" }]
  | op => obliging default ⟨some false, some false⟩ op

/-- A connect that was superseded while it closed the first of two known ports, and has closed
it. -/
def Traffic.sweeping : Traffic :=
  (((Traffic.new.begin .default twoPorts (.connect none)).carryOn twoPorts 0 2).begin .default
    twoPorts .disconnect).carryOn twoPorts 0 1

/-- It goes on to close the second one. -/
theorem sweeps_on :
    let es := Traffic.sweeping.events twoPorts 0
    ∃ log c pre e post port, Run .default .new log Traffic.sweeping ∧
      Traffic.sweeping.calls[0]? = some c ∧ c.tag = some 1 ∧
      1 ≠ Traffic.sweeping.floor.desk.generation ∧ es = pre ++ e :: post ∧
      port.device = "second" ∧ e.performed = some (.link (.close port)) ∧
      Entitled (diary log 0 ++ pre) port := by
  intro es
  have reach : Reach .default .sweeping :=
    (((Reach.new.begin _ _).carryOn _ _ _).begin _ _).carryOn _ _ _
  obtain ⟨log, run⟩ := reach
  have first : Traffic.sweeping.calls[0]?.map (fun c => (c.pending, c.tag)) =
      some (true, some 1) := by
    decide +kernel
  obtain ⟨c, hc, look⟩ := Option.map_eq_some_iff.mp first
  obtain ⟨hp, ht⟩ := Prod.mk.inj look
  have past : 1 ≠ Traffic.sweeping.floor.desk.generation := by decide +kernel
  have step : Step .default .sweeping 0 es (Traffic.sweeping.resume twoPorts 0) :=
    Step.resume twoPorts (by rw [hc, Option.map, hp])
  have closes : ∃ e ∈ es, e.performed =
      some (.link (.close { (default : Port) with device := "second" })) := by
    decide +kernel
  obtain ⟨e, he, ho⟩ := closes
  obtain ⟨pre, post, split⟩ := List.append_of_mem he
  have entitled := ((superseded_withdraws run step hc ht past).1 pre e post split).2 _ _ ho rfl
  exact ⟨log, c, pre, e, post, _, run, hc, ht, past, split, rfl, ho, entitled⟩

end FlashStation
