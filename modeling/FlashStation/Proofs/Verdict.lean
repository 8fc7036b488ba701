/-
# What a superseded call gives back

A flash that was superseded says so, and so does a connect, unless it had trouble before it could
find out: its request for a port was refused, or the handshake failed while it still had the
station and it was superseded before it had released the loader. Such a connect gives back the
trouble that it had, and complains of it though somebody else may have the station by then.

Key theorems: `superseded_verdict`, `cancelled_verdict`.
-/
import FlashStation.Proofs.Promises

namespace FlashStation

open Station Program Event Traffic

section
variable {config : Config} {t t' : Traffic} {log : List Deed} {i g : Nat} {c : Call}
  {es : List Event}

/-- Whoever complains after being superseded is a connect that had trouble, and complains of it. -/
theorem Duty.outcry {errand : Errand} {x : List Event} {f : Floor} {op : StationOp}
    {message : String} (h : Duty config errand x f op) (said : op.said = some message)
    (outcry : Outcry message) (late : Overdue x f) :
    errand.isConnect = true ∧ ∃ g fault, Event.tags x none = some g ∧
      troubles g x = some fault ∧ message = "Connection error: " ++ fault.message := by
  cases h with
  | plain _ _ harmless => exact absurd outcry (harmless message said).not_outcry
  | complains h =>
    cases said
    exact h late
  | reads | looks | keeps | takes | stores | changes | attaches | takesApart | asks | shakes =>
    cases said

/-- **What a superseded call gives back, and what it complains of.** A call that is over and was
superseded gives back that it was superseded; only a connect that had trouble before gives back
this trouble instead. And once a call was superseded it complains no more, but for a connect that
had trouble: that one complains of it. -/
theorem superseded_verdict (run : Run config .new log t) (hs : Step config t i es t')
    (hc : t'.calls[i]? = some c) :
    (∀ r, c.rest = .done r → c.tag = some g → g ≠ t'.floor.desk.generation →
      r = c.errand.verdict (troubles g (diary log i ++ es))) ∧
    ∀ pre e post op message, es = pre ++ e :: post → e.performed = some op →
      op.said = some message → Outcry message →
      Event.tags (diary log i ++ pre) none = some g → g ≠ e.floor.desk.generation →
      c.errand.isConnect = true ∧ ∃ fault, troubles g (diary log i ++ pre) = some fault ∧
        message = "Connection error: " ++ fault.message := by
  constructor
  · intro r ended ht late
    obtain ⟨tag, closed⟩ := run.closed hs hc ended
    exact closed.verdict g (tag.trans ht) late
  · intro pre e post op message he ho said outcry ht late
    have duty := run.duty_now hs hc he ho
    obtain ⟨connect, g', fault, ht', trouble, text⟩ := duty.outcry said outcry ⟨g, ht, late⟩
    rw [ht] at ht'
    cases ht'
    exact ⟨connect, fault, trouble, text⟩

end

/-- A connect that asks for a port, and after it a disconnect. -/
def Traffic.unchosen : Traffic :=
  ((Traffic.new.begin .default (obliging default .closed) (.connect none)).carryOn
    (obliging default .closed) 0 2).begin .default (obliging default .closed) .disconnect

/-- Nobody chooses a port. -/
def cancelling : (op : StationOp) → op.Answer
  | .requestPort _ => .error .cancelled
  | op => obliging default .closed op

/-- The fault that a connect gave back. -/
def Call.fault (c : Call) : Option ConnectFault :=
  match c.rest with
  | .done (.connected (.error fault)) => some fault
  | _ => none

theorem Call.rest_of_fault {c : Call} {fault : ConnectFault} (h : c.fault = some fault) :
    c.rest = .done (.connected (.error fault)) := by
  unfold Call.fault at h
  split at h
  · rename_i fault' ended
    cases h
    exact ended
  · cases h

/-- A connect that was superseded while it asked for a port, and is told then that none was chosen,
gives back that none was chosen, and complains of that. -/
theorem cancelled_verdict :
    let es := Traffic.unchosen.events cancelling 0
    let t' := Traffic.unchosen.resume cancelling 0
    ∃ log c pre e post, Run .default .new log Traffic.unchosen ∧ t'.calls[0]? = some c ∧
      (c.tag = some 1 ∧ 1 ≠ t'.floor.desk.generation) ∧
      c.rest = .done (.connected (.error .selectionCancelled)) ∧
      troubles 1 (diary log 0 ++ es) = some .selectionCancelled ∧
      (es = pre ++ e :: post ∧ 1 ≠ e.floor.desk.generation) ∧
      e.performed = some (.link (.log .info
        ("Connection error: " ++ ConnectFault.selectionCancelled.message))) ∧
      (troubles 1 (diary log 0 ++ pre)).isSome := by
  intro es t'
  have reach : Reach .default .unchosen := ((Reach.new.begin _ _).carryOn _ _ _).begin _ _
  obtain ⟨log, run⟩ := reach
  have before : Traffic.unchosen.calls[0]?.map (fun c => (c.pending, c.tag)) =
      some (true, some 1) := by
    decide +kernel
  obtain ⟨d, hd, look⟩ := Option.map_eq_some_iff.mp before
  obtain ⟨hp, ht⟩ := Prod.mk.inj look
  have step : Step .default .unchosen 0 es t' := Step.resume cancelling (by rw [hd, Option.map, hp])
  have after : t'.calls[0]?.map (fun c => (c.errand, c.tag, c.fault)) =
      some (.connect none, some 1, some .selectionCancelled) := by
    decide +kernel
  obtain ⟨c, hc, look⟩ := Option.map_eq_some_iff.mp after
  obtain ⟨connect, ht', fault⟩ : c.errand = .connect none ∧ c.tag = some 1 ∧
      c.fault = some .selectionCancelled := by
    simpa only [Prod.mk.injEq] using look
  have ended := Call.rest_of_fault fault
  have late : 1 ≠ t'.floor.desk.generation := by decide +kernel
  obtain ⟨verdict, complains⟩ := superseded_verdict (g := 1) run step hc
  -- the fault that is given back tells of the trouble
  have given := verdict _ ended ht' late
  have trouble : troubles 1 (diary log 0 ++ es) = some .selectionCancelled := by
    rw [connect] at given
    cases h : troubles 1 (diary log 0 ++ es) with
    | none =>
      rw [h] at given
      cases given
    | some fault =>
      rw [h] at given
      cases given
      rfl
  have complaint : ∃ e ∈ es, 1 ≠ e.floor.desk.generation ∧ e.performed = some (.link (.log .info
      ("Connection error: " ++ ConnectFault.selectionCancelled.message))) := by
    decide +kernel
  obtain ⟨e, he, late', ho⟩ := complaint
  obtain ⟨pre, post, split⟩ := List.append_of_mem he
  have accepted : ∀ e ∈ es, e.performed.map StationOp.accepts ≠ some true := by decide +kernel
  have tagged : Event.tags (diary log 0 ++ pre) none = some 1 := by
    rw [Event.tags_append, ((run.kept (promised .default)).calls hd).tag, ht]
    refine Event.tags_eq _ fun e' he' op ho' => ?_
    have never := accepted e' (by rw [split]; exact List.mem_append_left _ he')
    simpa [ho'] using never
  obtain ⟨_, fault, had, _⟩ := complains pre e post _ _ split ho rfl (.connect _) tagged late'
  exact ⟨log, c, pre, e, post, run, hc, ⟨ht', late⟩, ended, trouble, ⟨split, late'⟩, ho,
    Option.isSome_of_eq_some had⟩

end FlashStation
