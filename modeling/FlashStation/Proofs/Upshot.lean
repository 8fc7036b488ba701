/-
# What a flash comes to

A flash that is not superseded fetches its source, writes what it got, and restarts the board. It
comes to a fault if the fetching or the writing does, and to that one; what the restart comes to is
told in the summary and is no fault. Either way the session that it took is put back.

Key definitions: `ResetOutcome.told`, `Restarts`, `Upshot`, `Exchange.write?`, `Exchange.restart?`.
Key theorems: `reset_restarts`, `writeSource_upshot`, `Course.flash_upshot`, `flash_settles`.
-/
import FlashStation.Proofs.Bond
import FlashStation.Proofs.Preview

namespace FlashStation

open Station Program

/-- How a restart went that was asked for, by what it was answered. -/
def ResetOutcome.told (worked : ResetOutcome) : Except ProtocolFault Unit → ResetOutcome
  | .ok () => worked
  | .error fault => .failed fault.message

/-- The calls that restart the board, and how that went. -/
inductive Restarts (loader : Loader) : List (Exchange Station) → ResetOutcome → Prop where
  | hard (answer : Except ProtocolFault Unit) :
      Restarts loader [⟨.hasHardReset loader, true⟩, ⟨.hardReset loader, answer⟩]
        (.told .hard answer)
  | soft (answer : Except ProtocolFault Unit) :
      Restarts loader [⟨.hasHardReset loader, false⟩, ⟨.softReset loader, answer⟩]
        (.told .soft answer)

/-- What a flash comes to that has fetched its source, with what it asks of the board. -/
inductive Upshot (g : Nat) (loader : Loader) (chip : Option String) :
    Except FetchFault Payload → List (Exchange Station) → Except FlashFault FlashSummary →
      Prop where
  | unfetched (fault : FetchFault) : Upshot g loader chip (.error fault) [] (.error (.fetch fault))
  | unwritten (payload : Payload) (fault : ProtocolFault) :
      Upshot g loader chip (.ok payload) [⟨.writeFlash loader payload true g, .error fault⟩]
        (.error (.write fault))
  | written {payload : Payload} {restart : List (Exchange Station)} {outcome : ResetOutcome}
      (h : Restarts loader restart outcome) :
      Upshot g loader chip (.ok payload) (⟨.writeFlash loader payload true g, .ok ()⟩ :: restart)
        (.ok ⟨chip, payload.flashedFiles, outcome⟩)

section
variable {g : Nat} {loader : Loader} {source : Source} {chip : Option String} {payload : Payload}
  {calls : List (Exchange Station)} {r : Except FlashFault FlashSummary}

/-! ### The calls of a flash -/

theorem logSummary_silent : (logSummary chip payload).Uses StationOp.Silent := by
  refine (log_silent _ _).bind fun _ => (log_silent _ _).bind fun _ => ?_
  refine (log_silent _ _).bind fun _ => ?_
  exact (Uses.each fun _ _ => log_silent _ _).bind fun _ => log_silent _ _

/-- **The board is restarted**, and what that comes to is told. -/
theorem reset_restarts {outcome : ResetOutcome} (h : (reset loader).Speaks calls outcome) :
    Restarts loader calls outcome := by
  obtain ⟨hard, _, rfl, _, h1⟩ := Speaks.call_inv (.hasHardReset loader) h rfl
  cases hard with
  | false =>
    obtain ⟨answer, rest, rfl, _, h2⟩ := Speaks.call_inv (.softReset loader) h1 rfl
    have told : (.done (.told .soft answer) : Program Station ResetOutcome).Speaks rest
        outcome := by
      cases answer <;> exact Speaks.log_inv h2
    obtain ⟨rfl, rfl⟩ := Speaks.done_inv told
    exact .soft answer
  | true =>
    obtain ⟨answer, rest, rfl, _, h2⟩ := Speaks.call_inv (.hardReset loader) h1 rfl
    have told : (.done (.told .hard answer) : Program Station ResetOutcome).Speaks rest
        outcome := by
      cases answer <;> exact Speaks.log_inv h2
    obtain ⟨rfl, rfl⟩ := Speaks.done_inv told
    exact .hard answer

/-- **A source is fetched and written**, and the board is restarted, unless one of them fails. -/
theorem writeSource_upshot (h : (writeSource g loader source chip).Speaks calls r)
    (hr : r ≠ .error .superseded) :
    ∃ fetching fetched board, calls = fetching.map .ofSupply ++ board ∧
      (materialize source).Yields fetching fetched ∧ Upshot g loader chip fetched board r := by
  rw [writeSource_eq] at h
  obtain ⟨fetched, _, board, rfl, asked, h1⟩ := Speaks.bind_inv h
  obtain ⟨fetching, yields, rfl⟩ := asked.onSupply_inv
  refine ⟨fetching, fetched, board, rfl, yields, ?_⟩
  cases fetched with
  | error fault =>
    obtain ⟨rfl, rfl⟩ := Speaks.done_inv h1
    exact .unfetched fault
  | ok payload =>
    have h2 := Speaks.log_inv (Speaks.onward h1 (Speaks.not_error hr))
    obtain ⟨answer, _, rfl, _, h3⟩ := Speaks.call_inv (.writeFlash loader payload true g) h2 rfl
    cases answer with
    | error fault =>
      obtain ⟨rfl, rfl⟩ := Speaks.done_inv h3
      exact .unwritten payload fault
    | ok _ =>
      have h4 := Speaks.log_inv (Speaks.onward h3 (Speaks.not_error hr))
      obtain ⟨_, summary, _, rfl, told, h5⟩ := Speaks.bind_inv h4
      obtain rfl : summary = [] := told.silent logSummary_silent
      obtain ⟨outcome, restart, _, rfl, restarted, h6⟩ := Speaks.bind_inv h5
      obtain ⟨rfl, rfl⟩ := Speaks.done_inv h6
      rw [List.nil_append, List.append_nil]
      exact .written (reset_restarts restarted)

/-- A flash that ends and keeps the station calls nobody any more. -/
theorem finishFlash_silent {config : Config} {session : Session}
    {outcome : Except FlashFault FlashSummary}
    (h : (finishFlash config g session outcome).Speaks calls r) (hr : r ≠ .error .superseded) :
    calls = [] := by
  have h1 := Speaks.onward h fun calls late => by
    obtain ⟨_, _, _, rfl, _, h2⟩ := Speaks.bind_inv (Speaks.log_inv late)
    exact Speaks.not_error hr _ h2
  cases outcome with
  | ok summary =>
    refine h1.silent ?_
    refine (update_silent _).bind fun _ => (setPhase_silent _).bind fun _ => ?_
    exact ⟨rfl, fun _ => trivial⟩
  | error fault =>
    exact h1.silent <| (log_silent _ _).bind fun _ => (update_silent _).bind fun _ =>
      (setPhase_silent _).bind fun _ => trivial

end

/-! ### A flash that keeps the station -/

section
variable {config : Config} {errand : Errand} {session : Session} {source : Source}
  {chip : Option String} {f f' : Floor} {x : List Event} {g : Nat}

/-- A flash that ends and keeps the station puts the session back. -/
theorem Finishes.puts_back {outcome : Except FlashFault FlashSummary}
    {r : Option (Except FlashFault FlashSummary)} (h : Finishes g session f outcome f' r)
    (now : f.desk.generation = g) :
    f'.desk.phase = .connected ∧ f'.desk.session = some session := by
  cases h with
  | givesBack late => exact absurd now late
  | flashed | failed => exact ⟨rfl, rfl⟩

/-- A flash that took the session, is over and keeps the station has got and written its source, and
has put the session back. -/
theorem Course.flash_splits {outcome : Except FlashFault FlashSummary}
    (h : Course (some g) (flashWith config g session source chip) f x f' (.done outcome))
    (hf : f.desk.generation = g) (hg : f'.desk.generation ≤ g) :
    ∃ y z f1, x = .does (.progress 0) () f :: telling f .info "Preparing firmware payload…" ::
        (y ++ z) ∧
      Course (some g) (writeSource g session.loader source chip) f y f1 (.done outcome) ∧
      Course (some g) (finishFlash config g session outcome) f1 z f' (.done outcome) ∧
      f1.desk.generation = g ∧ outcome ≠ .error .superseded := by
  obtain ⟨_, _, rfl, h1⟩ := Course.does_inv (.progress 0) h rfl
  obtain ⟨_, rfl, h2⟩ := Course.log_inv h1
  obtain ⟨r, y, z, f1, rfl, wrote, h3⟩ :=
    Course.bind_done (p := writeSource g session.loader source chip) h2
  rw [wrote.carries (writeSource_accepts _ _ _ _)] at h3
  obtain ⟨drift, failures⟩ := wrote.writes.failures
  have later : g ≤ f1.desk.generation := hf ▸ drift.generation
  obtain ⟨now, same⟩ := h3.finishes.keeps later hg
  cases same
  refine ⟨y, z, f1, rfl, wrote, h3, now, ?_⟩
  rintro rfl
  rcases failures _ rfl with ⟨_, late⟩ | ⟨_, other⟩ | ⟨_, other⟩
  · exact late now
  · cases other
  · cases other

/-- **What a flash comes to that took the session**, is over and keeps the station; and it has put
the session back. -/
theorem Course.flash_upshot {outcome : Except FlashFault FlashSummary}
    (h : Course (some g) (flashWith config g session source chip) f x f' (.done outcome))
    (hf : f.desk.generation = g) (hg : f'.desk.generation ≤ g) :
    (∃ fetching fetched board, outward (dialogue x) = fetching.map .ofSupply ++ board ∧
      (materialize source).Yields fetching fetched ∧
      Upshot g session.loader chip fetched board outcome) ∧
    f'.desk.phase = .connected ∧ f'.desk.session = some session := by
  obtain ⟨y, z, f1, rfl, wrote, ends, now, kept⟩ := h.flash_splits hf hg
  obtain ⟨fetching, fetched, board, calls, yields, upshot⟩ := writeSource_upshot wrote.speaks kept
  have quiet : outward (dialogue z) = [] := finishFlash_silent ends.speaks kept
  refine ⟨⟨fetching, fetched, board, ?_, yields, upshot⟩, ends.finishes.puts_back now⟩
  rw [dialogue_does, outward_skip rfl, telling, dialogue_does, outward_log, dialogue_append,
    outward_append, quiet, List.append_nil, calls]

/-- A flash of something that can be written is accepted where the station is connected. -/
theorem FlashStart.takes {r : Option Result} (h : FlashStart config errand f x f' r)
    (hp : f.desk.phase = .connected) (hs : f.desk.session = some session)
    (he : errand.source? = some source) :
    Event.tags x none = some f.desk.generation ∧
    ∃ pre y q, x = pre ++ y ∧ outward (dialogue pre) = [] ∧ r = q.value.map errand.flashed ∧
      Course (some f.desk.generation)
        (flashWith config f.desk.generation session source (f.desk.info.bind (·.chip)))
        { f with desk := f.desk.flashing } y f' q := by
  cases h with
  | refused h =>
    cases h with
    | unsupported | busy => cases he
    | notConnected _ away =>
      rcases away with other | none
      · exact absurd hp other
      · rw [hs] at none
        cases none
    | choice _ unresolved =>
      rw [Errand.source?, unresolved] at he
      cases he
  | @accepted _ _ pre y _ q _ hs' he' _ record tag h =>
    cases hs.symm.trans hs'
    cases he.symm.trans he'
    exact ⟨tag, pre, y, q, rfl, outward_record record, rfl, h⟩

end

/-! ### Flashes that are over -/

namespace Exchange

/-- What came of a write. -/
def write? : Exchange Station → Option (Except ProtocolFault Unit)
  | ⟨.writeFlash _ _ _ _, written⟩ => some written
  | _ => none

/-- How a restart went. -/
def restart? : Exchange Station → Option ResetOutcome
  | ⟨.hardReset _, answer⟩ => some (.told .hard answer)
  | ⟨.softReset _, answer⟩ => some (.told .soft answer)
  | _ => none

end Exchange

namespace Upshot

variable {g : Nat} {loader : Loader} {chip : Option String} {fetched : Except FetchFault Payload}
  {board : List (Exchange Station)} {outcome : Except FlashFault FlashSummary}

theorem ok_iff (h : Upshot g loader chip fetched board outcome) :
    (∃ summary, outcome = .ok summary) ↔
      (∃ payload, fetched = .ok payload) ∧ board.filterMap Exchange.write? = [.ok ()] := by
  cases h with
  | unfetched | unwritten => simp [Exchange.write?]
  | written h => cases h <;> simp [Exchange.write?]

theorem error_iff (h : Upshot g loader chip fetched board outcome) (fault : FlashFault) :
    outcome = .error fault ↔ (∃ e, fetched = .error e ∧ fault = .fetch e) ∨
      ∃ e, board.filterMap Exchange.write? = [.error e] ∧ fault = .write e := by
  cases h with
  | unfetched | unwritten => simp [Exchange.write?, eq_comm]
  | written h => cases h <;> simp [Exchange.write?]

/-- What the summary of a flash lists. -/
theorem summary (h : Upshot g loader chip fetched board outcome) {summary : FlashSummary}
    (ok : outcome = .ok summary) :
    ∃ payload, fetched = .ok payload ∧ summary.chip = chip ∧
      (∀ n : Nat, summary.files[n]? =
        payload.files[n]?.map fun file => .mk n file.address file.data.length) ∧
      board.filterMap Exchange.restart? = [summary.reset] := by
  cases h with
  | unfetched | unwritten => cases ok
  | @written payload _ _ h =>
    cases ok
    refine ⟨payload, rfl, rfl, fun n => List.getElem?_mapIdx, ?_⟩
    cases h <;> rfl

end Upshot

open Traffic

/-- **What a flash comes to.** Take a flash of something that can be written, made where the station
was connected, in a run in which it is not superseded yet. It was accepted, and took the session. It
can be answered until it is over, and then it has succeeded if and only if its source was fetched
and the write worked, whatever the restart came to, and it has failed if and only if one of the two
failed, with that fault. If it succeeded, the summary has the chip as the connect has learned it,
the files of what was fetched, each with its place, its address and its size, and how the restart
went.

Right after it the station is connected, with the session and with what was known of the board when
the flash was made. Both are what the connect of this generation has left, and all flashes of the
generation have found them; so any number of them runs on one session. -/
theorem flash_settles {config : Config} {t : Traffic} {log : List Deed} {i : Nat} {c : Call}
    {source : Source} (run : Run config .new log t) (hc : t.calls[i]? = some c)
    (he : c.errand.source? = some source) (hp : c.start.desk.phase = .connected)
    (now : t.floor.desk.generation = c.start.desk.generation) :
    let d := t.floor.desk
    (∃ log' t' result, Run config .new (log ++ log') t' ∧
      t'.calls[i]? = some { c with rest := .done result } ∧
      t'.floor.desk.generation = d.generation) ∧
    ∃ session info, c.start.desk.session = some session ∧ c.start.desk.info = some info ∧
      c.tag = some d.generation ∧ Founded config log t session info ∧
      ∀ result, c.rest = .done result → ∃ fetching fetched board outcome,
        result = c.errand.flashed outcome ∧
        outward (dialogue (diary log i)) = fetching.map .ofSupply ++ board ∧
        (materialize source).Yields fetching fetched ∧
        Upshot d.generation session.loader info.chip fetched board outcome ∧
        ((∃ summary, outcome = .ok summary) ↔
          (∃ payload, fetched = .ok payload) ∧ board.filterMap Exchange.write? = [.ok ()]) ∧
        (∀ fault, outcome = .error fault ↔ (∃ e, fetched = .error e ∧ fault = .fetch e) ∨
          ∃ e, board.filterMap Exchange.write? = [.error e] ∧ fault = .write e) ∧
        (∀ summary, outcome = .ok summary → ∃ payload, fetched = .ok payload ∧
          summary.chip = info.chip ∧ (∀ n : Nat, summary.files[n]? =
            payload.files[n]?.map fun file => .mk n file.address file.data.length) ∧
          board.filterMap Exchange.restart? = [summary.reset]) ∧
        (log.getLast?.map Deed.caller = some i →
          d.phase = .connected ∧ d.session = some session ∧ d.info = some info) := by
  intro d
  have flash : c.errand.isFlash = true := by
    cases h : c.errand <;> rw [h] at he <;> first | rfl | cases he
  obtain ⟨session, there⟩ := Option.isSome_iff_exists.mp
    ((run.start_sound hc).coherent.session.mpr hp)
  obtain ⟨f, course, bound, last⟩ := run.followed hc
  obtain ⟨tag, pre, y, q, split, quiet, value, body⟩ :=
    (course.flash_starts flash).takes hp there he
  have carried : c.tag = some d.generation := by
    rw [← run.noted.2 hc, tag]
    exact congrArg some now.symm
  obtain ⟨_, info, founded, found, known⟩ := run.founded hc flash carried
  cases there.symm.trans found
  obtain ⟨log', t', result, run', hc', same, _⟩ := run.completes hc
  refine ⟨⟨log', t', result, run', hc', same⟩, session, info, there, known, carried, founded,
    fun result ended => ?_⟩
  rw [ended, Program.value] at value
  obtain ⟨outcome, came, rfl⟩ := Option.map_eq_some_iff.mp value.symm
  rw [Program.value_eq] at came
  subst came
  obtain ⟨⟨fetching, fetched, board, calls, yields, upshot⟩, phase, back⟩ :=
    body.flash_upshot rfl (now ▸ bound)
  rw [known, ← now] at upshot
  refine ⟨fetching, fetched, board, outcome, rfl, ?_, yields, upshot, upshot.ok_iff,
    upshot.error_iff, fun _ => upshot.summary, fun own => ?_⟩
  · rw [split, dialogue_append, outward_append, quiet, calls, List.nil_append]
  · obtain rfl := last (by rw [Call.pending, ended]) own
    exact ⟨phase, back, founded.known⟩

/-- A flash that is over has written its one file and restarted the board, and has left the session
as it was. -/
theorem written_settles :
    let t := Traffic.writing.carryOn (obliging default .closed) 1 2
    ∃ log c session info, Run .default .new log t ∧ t.calls[1]? = some c ∧
      c.errand = .flash (.custom "app.bin" 0 .keep) ∧ c.start.desk.session = some session ∧
      (∃ summary, c.rest = .done (.flashed (.ok summary)) ∧ summary.chip = info.chip) ∧
      Founded .default log t session info := by
  intro t
  have reach : Reach .default .writing := (Reach.joined.begin _ _).carryOn _ _ _
  obtain ⟨log, run⟩ : Reach .default t := reach.carryOn _ _ _
  have look : t.calls[1]?.map (fun c => (c.errand, c.start.desk.phase, c.pending, c.failure,
      c.start.desk.generation)) = some (.flash (.custom "app.bin" 0 .keep), .connected, false, none,
        t.floor.desk.generation) := by
    decide +kernel
  obtain ⟨c, hc, look⟩ := Option.map_eq_some_iff.mp look
  obtain ⟨he, look⟩ := Prod.mk.inj look
  obtain ⟨hp, look⟩ := Prod.mk.inj look
  obtain ⟨done, look⟩ := Prod.mk.inj look
  obtain ⟨unfailed, now⟩ := Prod.mk.inj look
  obtain ⟨result, ended⟩ : ∃ result, c.rest = .done result := by
    cases h : c.rest with
    | done result => exact ⟨result, rfl⟩
    | call op next =>
      rw [Call.pending, h] at done
      cases done
  have hs : c.errand.source? = some (.custom "app.bin" 0 .keep) := by rw [he]; rfl
  obtain ⟨_, session, info, there, _, _, founded, settles⟩ := flash_settles run hc hs hp now.symm
  obtain ⟨_, _, _, outcome, rfl, _, _, _, _, _, summary, _⟩ := settles result ended
  rw [he] at ended
  change c.rest = .done (.flashed outcome) at ended
  cases outcome with
  | error fault =>
    rw [Call.failure, ended] at unfailed
    cases unfailed
  | ok told =>
    obtain ⟨_, _, chip, _⟩ := summary told rfl
    exact ⟨log, c, session, info, run, hc, he, there, ⟨told, ended, chip⟩, founded⟩

end FlashStation
