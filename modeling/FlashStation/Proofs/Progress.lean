/-
# What the caller of a flash hears

A flash tells its caller how far it is: nothing is written at first, then each report of its loader
counts that comes while the flash has its generation, and when all is done everything is written.
The record keeps what was told last. Reports come while the flash waits, so between its own moments
the record changes on the flash's behalf; but whenever the record is free, it has what the caller
has heard last.

Key definitions: `heard`, `Echoed`, `Traffic.story`, `Traffic.reports`, `Traffic.Percentages`,
`Traffic.Latest`, `Traffic.Moment`, `Traffic.Agrees`.
Key theorems: `FlashStart.echoed`, `Traffic.Run.heard_story`, `Traffic.Reach.latest`,
`Traffic.Run.sole`, `Traffic.Run.keeps_last`, `progress_stream`.
-/
import FlashStation.Proofs.Bond
import FlashStation.Proofs.Transport
import FlashStation.Proofs.Writing

namespace FlashStation

open Station Program StationOp

/-! ### What is told, and what the record keeps -/

/-- What an event tells the caller of a flash, in percent. -/
def Event.percent? : Event → Option Nat
  | .does (.progress percent) _ _ => some percent
  | _ => none

/-- What the caller of a flash hears. -/
def heard (x : List Event) : List Nat :=
  x.filterMap Event.percent?

/-- What should be in the record after an event, if that was `old` before: what was told last. While
a call waits, reports may have come. -/
def Event.shown (old : Nat) : Event → Nat
  | .does (.progress percent) _ _ => percent
  | .wakes _ _ f => f.desk.progress
  | _ => old

/-- What should be in the record after some events. -/
def shown (old : Nat) (x : List Event) : Nat :=
  x.foldl Event.shown old

/-- An event that tells nothing, and after which the same should be in the record as before. -/
def Event.Quiet (e : Event) : Prop :=
  e.percent? = none ∧ ∀ old, e.shown old = old

/-- Whenever the record is free and of the generation `g`, its progress is what it should be. -/
def Echoes (g : Nat) : Nat → List Event → Prop
  | _, [] => True
  | old, e :: x => (e.free = true → e.floor.desk.generation = g →
      e.floor.desk.progress = e.shown old) ∧ Echoes g (e.shown old) x

/-- Some events tell the caller `told`, and the record's progress is what it should be whenever the
record is free, and after them. -/
structure Echoed (g old : Nat) (x : List Event) (f' : Floor) (told : List Nat) : Prop where
  tells : heard x = told
  echoes : Echoes g old x
  after : f'.desk.generation = g → f'.desk.progress = shown old x

/-- Whether an operation neither writes the record nor tells the caller of a flash anything. -/
def StationOp.Mute (op : StationOp) : Prop :=
  match op with
  | .write _ | .progress _ => False
  | _ => True

section
variable {α : Type} {g old : Nat} {tag : Option Nat} {f f' : Floor} {x y : List Event}
  {p q : Program Station α} {told : List Nat}

theorem StationOp.Inert.mute {op : StationOp} (h : op.Inert) : op.Mute := by
  cases op <;> trivial

theorem StationOp.Mute.settle {op : StationOp} (h : op.Mute) (suggested : op.Answer) (f : Floor) :
    (op.settle suggested f).2.desk = f.desk := by
  cases op <;> first | rfl | cases h

theorem StationOp.Mute.quiet {op : StationOp} (h : op.Mute) (answer : op.Answer) (f : Floor) :
    (Event.does op answer f).Quiet := by
  cases op <;> first | exact ⟨rfl, fun _ => rfl⟩ | cases h

/-- While the record is not free, nothing is told. -/
theorem Event.Quiet.of_unfree {e : Event} (h : e.free = false) : e.Quiet := by
  cases e with
  | does op => cases op <;> first | exact ⟨rfl, fun _ => rfl⟩ | cases h
  | starts => exact ⟨rfl, fun _ => rfl⟩
  | wakes => cases h

/-- Nobody is answered, and nothing is told. -/
theorem Event.Quiet.of_performed {e : Event} {op : StationOp} (ho : e.performed = some op)
    (h : e.percent? = none) : e.Quiet := by
  refine ⟨h, fun old => ?_⟩
  cases e with
  | does op => cases op <;> first | rfl | cases h
  | starts => rfl
  | wakes => cases ho

theorem Event.shown_told {e : Event} {percent : Nat} (h : e.percent? = some percent) :
    e.shown old = percent := by
  cases e with
  | does op => cases op <;> cases h; rfl
  | starts | wakes => cases h

theorem heard_append (x y : List Event) : heard (x ++ y) = heard x ++ heard y :=
  List.filterMap_append

theorem shown_append (x y : List Event) : shown old (x ++ y) = shown (shown old x) y :=
  List.foldl_append

theorem echoes_append : Echoes g old (x ++ y) ↔ Echoes g old x ∧ Echoes g (shown old x) y := by
  induction x generalizing old with
  | nil => exact (iff_of_eq (true_and _)).symm
  | cons e x ih => exact (and_congr_right fun _ => ih).trans and_assoc.symm

/-- At an event at which the record is free, it has what it should. -/
theorem Echoes.at_event {pre post : List Event} {e : Event} (h : Echoes g old (pre ++ e :: post))
    (free : e.free = true) (now : e.floor.desk.generation = g) :
    e.floor.desk.progress = shown old (pre ++ [e]) := by
  obtain ⟨here, _⟩ := (echoes_append.mp h).2
  rw [shown_append]
  exact here free now

/-- As long as nobody is answered, what should be in the record is what was told last. -/
theorem last_shown (performed : ∀ e ∈ x, ∃ op, e.performed = some op)
    (h : told.getLast? = some old ∨ heard x ≠ []) :
    (told ++ heard x).getLast? = some (shown old x) := by
  induction x generalizing told old with
  | nil => simpa [heard, shown] using h
  | cons e x ih =>
    obtain ⟨⟨op, ho⟩, performed⟩ := List.forall_mem_cons.mp performed
    cases hp : e.percent? with
    | some percent =>
      calc (told ++ heard (e :: x)).getLast?
          = (told ++ [percent] ++ heard x).getLast? := by simp [heard, hp]
        _ = some (shown percent x) := ih performed (.inl List.getLast?_concat)
        _ = some (shown old (e :: x)) := by
            rw [← Event.shown_told hp]
            rfl
    | none =>
      have same : e.shown old = old := (Event.Quiet.of_performed ho hp).2 old
      have all : heard (e :: x) = heard x := by simp [heard, hp]
      calc (told ++ heard (e :: x)).getLast?
          = (told ++ heard x).getLast? := by rw [all]
        _ = some (shown old x) := ih performed (all ▸ h)
        _ = some (shown (e.shown old) x) := by rw [same]

/-- After some events, the record has what was told last. -/
theorem Echoed.last {told' : List Nat} (h : Echoed g old x f' told') (told : List Nat)
    (performed : ∀ e ∈ x, ∃ op, e.performed = some op)
    (opened : told.getLast? = some old ∨ heard x ≠ []) (now : f'.desk.generation = g) :
    (told ++ heard x).getLast? = some f'.desk.progress := by
  rw [h.after now]
  exact last_shown performed opened

/-- At an event at which the record is free, it has what was told last. -/
theorem Echoed.last_at {told' : List Nat} {pre post : List Event} {e : Event}
    (h : Echoed g old (pre ++ e :: post) f' told') (told : List Nat)
    (performed : ∀ e' ∈ pre ++ e :: post, ∃ op, e'.performed = some op)
    (opened : told.getLast? = some old ∨ heard (pre ++ [e]) ≠ []) (free : e.free = true)
    (now : e.floor.desk.generation = g) :
    (told ++ heard (pre ++ [e])).getLast? = some e.floor.desk.progress := by
  rw [h.echoes.at_event free now]
  rw [← List.singleton_append, ← List.append_assoc] at performed
  exact last_shown (fun e' he' => performed e' (List.mem_append_left _ he')) opened

theorem Echoed.append {told' : List Nat} {f1 : Floor} (h : Echoed g old x f1 told)
    (h' : Echoed g (shown old x) y f' told') : Echoed g old (x ++ y) f' (told ++ told') where
  tells := by rw [heard_append, h.tells, h'.tells]
  echoes := echoes_append.mpr ⟨h.echoes, h'.echoes⟩
  after now := by rw [shown_append]; exact h'.after now

theorem Echoed.cons {e : Event} (here : e.free = true → e.floor.desk.generation = g →
      e.floor.desk.progress = e.shown old) (h : Echoed g (e.shown old) x f' told) :
    Echoed g old (e :: x) f' (e.percent?.toList ++ told) where
  tells := by
    have rest : heard x = told := h.tells
    cases hp : e.percent? <;> simp [heard, hp] <;> exact rest
  echoes := ⟨here, h.echoes⟩
  after := h.after

/-- An event that tells nothing comes first. -/
theorem Echoed.quiet {e : Event} (quiet : e.Quiet)
    (here : e.free = true → e.floor.desk.generation = g → e.floor.desk.progress = old)
    (h : Echoed g old x f' told) : Echoed g old (e :: x) f' told := by
  obtain ⟨none, same⟩ := quiet
  rw [← same old] at h here
  have all := Echoed.cons here h
  rw [none] at all
  exact all

theorem Echoed.record (record : ∀ e ∈ x, e.free = false) (h : Echoed g old y f' told) :
    Echoed g old (x ++ y) f' told := by
  induction x with
  | nil => exact h
  | cons e x ih =>
    obtain ⟨unfree, record⟩ := List.forall_mem_cons.mp record
    refine .quiet (.of_unfree unfree) (fun free => ?_) (ih record)
    rw [unfree] at free
    cases free

/-! ### A flash that has the session -/

/-- A program that leaves the record alone tells nothing. -/
theorem Course.mute (h : Course tag p f x f' q) (hp : p.Uses Mute)
    (now : f.desk.generation = g → f.desk.progress = old) : Echoed g old x f' [] := by
  induction h generalizing old with
  | ends => exact ⟨rfl, trivial, now⟩
  | waits => exact ⟨rfl, ⟨fun _ => now, trivial⟩, now⟩
  | @does _ op _ f _ _ _ _ suggested _ ih =>
    have kept : (op.settle suggested f).2.desk = f.desk := hp.1.settle suggested f
    exact .quiet (hp.1.quiet _ _) (fun _ => now) (ih (hp.2 _) (by rwa [kept]))
  | answered _ answer _ _ ih =>
    -- what the record had before the wait no longer counts
    exact .cons (fun _ => now) (.cons (fun _ _ => rfl) (ih (hp.2 answer) fun _ => rfl))

/-- What is told at last: everything is written. -/
def lastWord (worked : Bool) : List Nat :=
  if worked then [100] else []

theorem writeSource_mute (loader : Loader) (source : Source) (chip : Option String) :
    (writeSource g loader source chip).Uses Mute := by
  refine writeSource_uses (fun _ => Inert.mute) (fun _ => trivial) fun hard => ?_
  cases hard <;> trivial

/-- At its end, a flash tells its caller that everything is written if it has worked. -/
theorem Course.finish_echoed {config : Config} {session : Session}
    {outcome : Except FlashFault FlashSummary}
    {q : Program Station (Except FlashFault FlashSummary)}
    (h : Course (some g) (finishFlash config g session outcome) f x f' q)
    (now : f.desk.generation = g → f.desk.progress = old) :
    Echoed g old x f' (lastWord (q.value.any Except.isOk)) := by
  have finishes := h.finishes
  rcases Course.ifCurrent_inv h with ⟨rest, ⟨late, rfl, h1⟩ | ⟨hg, rfl, h1⟩⟩
  · have failed : q.value.any Except.isOk = false := by
      generalize q.value = r at finishes ⊢
      cases finishes with
      | @givesBack _ _ r => cases r <;> rfl
      | flashed hg | failed hg => exact absurd hg late
    rw [failed]
    refine .record (x := [_]) (List.forall_mem_singleton.mpr rfl) (h1.mute ?_ now)
    refine ((trace_inert _).mono fun _ => Inert.mute).bind fun _ => ?_
    exact ((release_inert _ _ _).mono fun _ => Inert.mute).bind fun _ => trivial
  · cases outcome with
    | ok summary =>
      obtain ⟨_, rfl, h2⟩ := Course.read_inv h1
      obtain ⟨_, rfl, h3⟩ := Course.write_inv h2
      obtain ⟨pre, _, rfl, _, record, _, h4⟩ := Course.setPhase_inv h3
      obtain ⟨_, _, rfl, h5⟩ := Course.does_inv (.progress 100) h4 rfl
      obtain ⟨rfl, rfl, rfl⟩ := Course.done_inv h5
      refine .record (x := [_, _, _]) (by simp [Event.free, StationOp.onRecord]) ?_
      exact .record record (.cons (fun _ _ => rfl) ⟨rfl, trivial, fun _ => rfl⟩)
    | error fault =>
      obtain ⟨_, rfl, h2⟩ := Course.log_inv h1
      obtain ⟨_, rfl, h3⟩ := Course.read_inv h2
      obtain ⟨_, rfl, h4⟩ := Course.write_inv h3
      obtain ⟨pre, _, rfl, _, record, _, h5⟩ := Course.setPhase_inv h4
      obtain ⟨rfl, rfl, rfl⟩ := Course.done_inv h5
      refine .record (x := [_]) (List.forall_mem_singleton.mpr rfl) (.cons (fun _ => now) ?_)
      refine .record (x := [_, _]) (by simp [Event.free, StationOp.onRecord]) ?_
      exact .record record ⟨rfl, trivial, now⟩

/-- **A flash that has the session tells its caller** at first that nothing is written. -/
theorem Course.flash_echoed {config : Config} {session : Session} {source : Source}
    {chip : Option String} {q : Program Station (Except FlashFault FlashSummary)}
    (h : Course (some g) (flashWith config g session source chip) f x f' q)
    (opened : f.desk.progress = 0) :
    Echoed g old x f' (0 :: lastWord (q.value.any Except.isOk)) := by
  obtain ⟨_, _, rfl, h1⟩ := Course.does_inv (.progress 0) h rfl
  obtain ⟨_, rfl, h2⟩ := Course.log_inv h1
  refine .cons (fun _ _ => opened) (.quiet ⟨rfl, fun _ => rfl⟩ (fun _ _ => opened) ?_)
  rcases Course.bind_inv (p := writeSource g session.loader source chip) h2 with
    ⟨q', writing, waiting, left⟩ | ⟨outcome, y, z, f1, rfl, wrote, h3⟩
  · rw [left]
    exact writing.mute (writeSource_mute _ _ _) fun _ => opened
  · have written := wrote.mute (g := g) (writeSource_mute _ _ _) fun _ => opened
    rw [wrote.carries (writeSource_accepts _ _ _ _)] at h3
    exact written.append (h3.finish_echoed written.after)

/-- A flash that carries a generation took the session of that generation. -/
theorem FlashStart.took {config : Config} {errand : Errand} {r : Option Result}
    (h : FlashStart config errand f x f' r) (tag : Event.tags x none = some g) :
    (∃ session, f.desk.session = some session) ∧ f.desk.generation = g := by
  cases h with
  | refused _ _ _ none =>
    rw [none] at tag
    cases tag
  | accepted _ hs _ _ _ carried => exact ⟨⟨_, hs⟩, Option.some.inj (carried.symm.trans tag)⟩

/-- Whether a flash has worked. -/
def Result.worked : Result → Bool
  | .flashed (.ok _) | .flashedChoice (.ok _) => true
  | _ => false

theorem Errand.flashed_worked {errand : Errand} (r : Except FlashFault FlashSummary) :
    (errand.flashed r).worked = r.isOk := by
  cases errand <;> cases r <;> rfl

/-- Whether a call is over and was a flash that has worked. -/
def Call.worked (c : Call) : Bool :=
  c.rest.value.any Result.worked

theorem Call.not_worked {c : Call} (pending : c.pending = true) : c.worked = false := by
  obtain ⟨errand, start, tag, rest⟩ := c
  cases rest with
  | done r => cases pending
  | call op next => rfl

/-- **A flash that takes the session tells its caller** that nothing is written, and at last, if it
has worked, that everything is; and the record keeps what was told. -/
theorem FlashStart.echoed {config : Config} {errand : Errand} {r : Option Result}
    (h : FlashStart config errand f x f' r) (tag : Event.tags x none = some g) :
    Echoed g old x f' (0 :: lastWord (r.any Result.worked)) := by
  cases h with
  | refused _ _ _ none =>
    rw [none] at tag
    cases tag
  | @accepted _ _ pre y _ q _ _ _ _ record carried body =>
    obtain rfl : f.desk.generation = g := Option.some.inj (carried.symm.trans tag)
    have same : (q.value.map errand.flashed).any Result.worked = q.value.any Except.isOk := by
      cases q.value with
      | none => rfl
      | some r => exact Errand.flashed_worked r
    rw [same]
    exact .record record (body.flash_echoed rfl)

end

namespace Traffic

variable {config : Config} {t t' : Traffic} {log log' : List Deed} {i j g : Nat} {c d : Call}
  {es : List Event}

/-! ### The story of a call -/

/-- All that happened in the call at a place, reports included. -/
def story (log : List Deed) (i : Nat) : List Event :=
  (log.filter (·.caller == i)).flatMap (·.events)

/-- The reports to the call at a place. -/
def reports (log : List Deed) (i : Nat) : List Deed :=
  log.filter fun d => d.caller == i && d.report

theorem story_append : story (log ++ log') i = story log i ++ story log' i := by
  simp [story]

theorem story_own {d : Deed} (hd : d.caller = i) : story [d] i = d.events := by
  simp [story, hd]

/-- Before a call is made nothing happens in it. -/
theorem story_none (h : ∀ d ∈ log, d.caller ≠ i) : story log i = [] := by
  have none : log.filter (·.caller == i) = [] :=
    List.filter_eq_nil_iff.mpr fun d hd => by simp [h d hd]
  rw [story, none, List.flatMap_nil]

theorem reports_append : reports (log ++ log') i = reports log i ++ reports log' i :=
  List.filter_append ..

theorem reports_none (h : ∀ d ∈ log, d.caller ≠ i ∨ d.report = false) : reports log i = [] := by
  refine List.filter_eq_nil_iff.mpr fun d hd => ?_
  rcases h d hd with other | own <;> simp [*]

/-- A report is told from other deeds by its first event. -/
theorem reports_own {f f' : Floor} {written total : UInt64} (h : Reports f g written total es f') :
    reports [⟨i, es, f, f'⟩] i = [⟨i, es, f, f'⟩] := by
  have report : Deed.report ⟨i, es, f, f'⟩ = true := by cases h <;> rfl
  exact List.filter_cons_of_pos (by simp [report])

/-- What the caller of a flash of the generation `g` hears of some reports: of each that came while
that was the record's generation, how much of its file was written. -/
inductive Percentages (g : Nat) : List Deed → List Nat → Prop where
  | nil : Percentages g [] []
  | late {d : Deed} {rest : List Deed} {percents : List Nat} {written total : UInt64}
      (h : Reports d.before g written total d.events d.after) (hg : d.before.desk.generation ≠ g)
      (hr : Percentages g rest percents) : Percentages g (d :: rest) percents
  | counts {d : Deed} {rest : List Deed} {percents : List Nat} {written total : UInt64}
      (h : Reports d.before g written total d.events d.after) (hg : d.before.desk.generation = g)
      (hr : Percentages g rest percents) :
      Percentages g (d :: rest) (percent written total :: percents)

theorem Percentages.append {some more : List Deed} {percents percents' : List Nat}
    (h : Percentages g some percents) (h' : Percentages g more percents') :
    Percentages g (some ++ more) (percents ++ percents') := by
  induction h with
  | nil => exact h'
  | late h hg _ ih => exact .late h hg ih
  | counts h hg _ ih => exact .counts h hg ih

/-- No part of a file is more than all of it. -/
theorem percent_le (written total : UInt64) : percent written total ≤ 100 := by
  unfold percent
  split
  · exact Nat.le_refl _
  · exact Nat.min_le_right _ _

theorem Percentages.bound {some : List Deed} {percents : List Nat}
    (h : Percentages g some percents) : ∀ v ∈ percents, v ≤ 100 := by
  induction h with
  | nil => exact List.forall_mem_nil _
  | late _ _ _ ih => exact ih
  | counts _ _ _ ih => exact List.forall_mem_cons.mpr ⟨percent_le _ _, ih⟩

/-- What is heard of one report. -/
theorem Percentages.single {f f' : Floor} {written total : UInt64}
    (h : Reports f g written total es f') : Percentages g [⟨i, es, f, f'⟩] (heard es) := by
  by_cases hg : f.desk.generation = g
  · have counted := Percentages.counts (d := ⟨i, es, f, f'⟩) h hg .nil
    cases h with
    | late other => exact absurd hg other
    | counts => exact counted
  · have missed := Percentages.late (d := ⟨i, es, f, f'⟩) h hg .nil
    cases h with
    | late => exact missed
    | counts now => exact absurd now hg

/-! ### How a flash goes on -/

/-- How a flash that has the session takes a step: it is made, it is answered, or its loader
reports. -/
inductive Onward (t : Traffic) (i g : Nat) (c : Call) (f' : Floor) : List Event → Prop where
  | begins {es : List Event} (new : t.calls.length = i)
      (hr : Deed.report ⟨i, es, t.floor, f'⟩ = false)
      (performed : ∀ e ∈ es, ∃ op, e.performed = some op)
      (h : Echoed g 0 es f' (0 :: lastWord c.worked)) : Onward t i g c f' es
  | resumes {d : Call} {op : StationOp} {answer : op.Answer} {es : List Event}
      (hd : t.calls[i]? = some d) (errand : d.errand = c.errand) (tag : d.tag = c.tag)
      (pending : d.pending = true) (performed : ∀ e ∈ es, ∃ op, e.performed = some op)
      (h : Echoed g t.floor.desk.progress es f' (lastWord c.worked)) :
      Onward t i g c f' (.wakes op answer t.floor :: es)
  | reported {es : List Event} {written total : UInt64} (hc : t.calls[i]? = some c)
      (pending : c.pending = true) (h : Reports t.floor g written total es f') :
      Onward t i g c f' es

/-- What happened in a flash before it is answered tells nothing of what happens then. -/
theorem answered_echoed {old : Nat} {x y : List Event} {op : StationOp} {answer : op.Answer}
    {f f' : Floor} (told : List Nat) {told' : List Nat}
    (h : Echoed g old (x ++ .wakes op answer f :: y) f' (told ++ told')) (hx : heard x = told) :
    Echoed g f.desk.progress y f' told' where
  tells := by
    have all := h.tells
    rw [heard_append, hx] at all
    exact List.append_cancel_left all
  echoes := (echoes_append.mp h.echoes).2.2
  after now := by
    rw [h.after now, shown_append]
    rfl

/-- **How a flash that has the session takes a step.** -/
theorem Step.onward (run : Run config .new log t) (hs : Step config t i es t')
    (hc : t'.calls[i]? = some c) (he : c.errand.isFlash = true) (ht : c.tag = some g) :
    Onward t i g c t'.floor es := by
  have reach : Reach config t := ⟨_, run⟩
  obtain ⟨callers, tags⟩ := run.noted
  have echoed (hr : Deed.report ⟨i, es, t.floor, t'.floor⟩ = false) :
      Echoed g 0 (diary log i ++ es) t'.floor (0 :: lastWord c.worked) := by
    have course := hs.own_course run (fun _ hc => run.course hc) hc hr
    have carried : Event.tags (diary log i ++ es) none = some g := by
      rw [← ht, ← (run.step hs).noted.2 hc, diary_own rfl hr]
    exact (course.flash_starts he).echoed carried
  -- what a call is made for and what it carries stays
  have placed {d : Call} (hd : t.calls[i]? = some d) : d.errand = c.errand ∧ d.tag = c.tag := by
    obtain ⟨c', hc', errand, _, tag, _⟩ := (reach.move hs).place hd
    cases hc.symm.trans hc'
    exact ⟨errand.symm, tag.symm⟩
  cases hs with
  | begins errand h =>
    have hr := Step.begins_report (i := t.calls.length) h
    have first := echoed hr
    rw [diary_none fun d hd => Nat.ne_of_lt (callers d hd), List.nil_append] at first
    exact .begins rfl hr h.performed first
  | @resumes _ d op next hd hw answer es f q h =>
    obtain ⟨errand, tag⟩ := placed hd
    have hp : d.pending = true := by rw [Call.pending, hw]
    obtain ⟨f0, before, _⟩ := run.course hd
    have opened : Echoed g 0 (diary log i) f0 (0 :: lastWord d.worked) :=
      (before.flash_starts (errand ▸ he)).echoed ((tags hd).trans (tag.trans ht))
    rw [Call.not_worked hp] at opened
    exact .resumes hd errand tag hp h.performed (answered_echoed [0] (echoed rfl) opened.tells)
  | reports hd hw written total h =>
    cases hd.symm.trans hc
    have hp : c.pending = true := by rw [Call.pending, hw]
    have own := (reach.orderly.waits c (List.mem_of_getElem? hc) hp).speaks hw _ rfl
    obtain rfl := Option.some.inj (ht.symm.trans own)
    exact .reported hc hp h.reports

/-- **What the caller of a flash hears.** -/
theorem Run.heard_story (run : Run config .new log t) (hc : t.calls[i]? = some c)
    (he : c.errand.isFlash = true) (ht : c.tag = some g) :
    ∃ percents, Percentages g (reports log i) percents ∧
      heard (story log i) = 0 :: percents ++ lastWord c.worked := by
  induction run generalizing c with
  | here => cases hc
  | @step log t t' j es run hs ih =>
    rw [story_append, heard_append, reports_append]
    -- only its own steps tell the caller anything, and only reports come between
    by_cases hj : j = i
    · subst hj
      rw [story_own rfl]
      have onward := hs.onward run hc he ht
      cases onward with
      | begins new hr _ h =>
        have past (d : Deed) (hd : d ∈ log) : d.caller ≠ j :=
          Nat.ne_of_lt (new ▸ run.noted.1 d hd)
        rw [story_none past, reports_none fun d hd => .inl (past d hd),
          reports_none (List.forall_mem_singleton.mpr (.inr hr))]
        exact ⟨[], .nil, h.tells⟩
      | resumes hd errand tag pending _ h =>
        obtain ⟨percents, told, all⟩ := ih hd (errand ▸ he) (tag.trans ht)
        rw [Call.not_worked pending] at all
        rw [reports_none (List.forall_mem_singleton.mpr (.inr rfl)), List.append_nil]
        refine ⟨percents, told, ?_⟩
        rw [all, ← h.tells]
        exact congrArg (· ++ _) (List.append_nil _)
      | reported hd pending h =>
        obtain ⟨percents, told, all⟩ := ih hd he ht
        rw [Call.not_worked pending] at all ⊢
        rw [reports_own h]
        refine ⟨_, told.append (.single h), ?_⟩
        rw [all]
        simp [lastWord]
    · rw [hs.others (Ne.symm hj)] at hc
      rw [story_none (List.forall_mem_singleton.mpr hj),
        reports_none (List.forall_mem_singleton.mpr (.inl hj)), List.append_nil]
      obtain ⟨percents, told, all⟩ := ih hc he ht
      exact ⟨percents, told, by rw [all]; exact List.append_nil _⟩

/-! ### Who speaks for a flash -/

/-- No flash that was made after the call at a place carries the generation `g`. -/
def Latest (t : Traffic) (i g : Nat) : Prop :=
  ∀ j d, i < j → t.calls[j]? = some d → d.errand.isFlash = true → d.tag ≠ some g

theorem Latest.before (h : t'.Latest i g) (hm : Move config t j es t') : t.Latest i g := by
  intro k d hk hd he ht
  obtain ⟨d', hd', errand, _, tag, _⟩ := hm.place hd
  exact h k d' hk hd' (errand ▸ he) (tag.trans ht)

/-- A call that is under way after a step and was made before was under way before. -/
theorem Step.pending_before (reach : Reach config t) (hs : Step config t j es t')
    (hd : t.calls[i]? = some d) (hc : t'.calls[i]? = some c) (pending : c.pending = true) :
    d.pending = true ∧ d.tag = c.tag := by
  obtain ⟨c', hc', _, _, tag, same⟩ := (reach.move hs).place hd
  cases hc.symm.trans hc'
  refine ⟨?_, tag.symm⟩
  by_cases hi : i = j
  · exact hs.pending (hi ▸ hd)
  · exact same hi ▸ pending

/-- When a flash took the session, whoever had carried its generation before was done. -/
theorem Reach.passed (h : Reach config t) :
    ∀ {i j g : Nat} {c d : Call}, i < j → t.calls[i]? = some c → t.calls[j]? = some d →
      d.errand.isFlash = true → d.tag = some g → c.tag = some g → c.pending ≠ true := by
  refine h.induction (P := fun t => ∀ {i j g : Nat} {c d : Call}, i < j → t.calls[i]? = some c →
    t.calls[j]? = some d → d.errand.isFlash = true → d.tag = some g → c.tag = some g →
    c.pending ≠ true) (fun _ hc => by cases hc) ?_
  intro t k es t' reach ih hs i j g c d hij hc hd he ht carried pending
  have before {c0 : Call} (hc0 : t.calls[i]? = some c0) := hs.pending_before reach hc0 hc pending
  rcases hs.origin reach hd with ⟨d0, hd0, errand, _, tag⟩ | ⟨new, _, none | ⟨_, ha, _⟩⟩
  · have short : i < t.calls.length := Nat.lt_trans hij (List.getElem?_eq_some_iff.mp hd0).1
    obtain ⟨had, same⟩ := before (List.getElem?_eq_getElem short)
    exact ih hij (List.getElem?_eq_getElem short) hd0 (errand ▸ he) (tag.trans ht)
      (same.trans carried) had
  · rw [none] at ht
    cases ht
  · -- a flash is accepted where nobody has the station
    obtain ⟨had, same⟩ := before (List.getElem?_eq_getElem (new ▸ hij))
    have fits := reach.orderly.fits _ (List.getElem_mem _) had
    generalize d.errand = errand, d.tag = tag at ha he ht
    cases ha with
    | connect | disconnect => cases he
    | flash _ connected =>
      have busy := fits.busy (same.trans (carried.trans ht.symm))
      rw [connected] at busy
      rcases busy with ⟨_, other⟩ | ⟨_, other⟩ <;> cases other

/-- **As long as a flash is under way**, nobody takes the session after it. -/
theorem Reach.latest (h : Reach config t) (hc : t.calls[i]? = some c) (ht : c.tag = some g)
    (pending : c.pending = true) : t.Latest i g :=
  fun _ _ later hd he hdt => h.passed later hc hd he hdt ht pending

/-- **While nobody has taken the session after a flash**, nobody else has the station. -/
theorem Run.sole (run : Run config .new log t) (hc : t.calls[i]? = some c)
    (he : c.errand.isFlash = true) (ht : c.tag = some t.floor.desk.generation)
    (latest : t.Latest i t.floor.desk.generation) (hd : t.calls[j]? = some d)
    (own : d.Owns t.floor.desk) : j = i := by
  have reach : Reach config t := ⟨_, run⟩
  rcases Nat.lt_trichotomy j i with before | same | after
  · exact absurd own.1 (reach.passed before hd hc he ht own.2)
  · exact same
  · rcases (reach.orderly.fits d (List.mem_of_getElem? hd) own.1).busy own.2 with
      ⟨_, connecting⟩ | ⟨flash, _⟩
    · -- what a connect has learned of the board is still known
      obtain ⟨_, _, founded, _⟩ := run.founded hc he ht
      have known := reach.orderly.sound.coherent.info
      rw [founded.known, connecting] at known
      simp at known
    · exact absurd own.2 (latest j d after hd flash)

/-- A call that was made does not count the generation up while the record is free. -/
theorem Step.steady (reach : Reach config t) (hs : Step config t i es t')
    (hc : t.calls[i]? = some c) :
    ∀ e ∈ es, e.free = true → e.floor.desk.generation = t.floor.desk.generation := by
  cases reach.move hs with
  | refused | accepted => simp at hc
  | @resumed _ _ _ _ _ _ q hd hp ran =>
    have turn := reach.orderly.resumed hd hp q
    exact List.forall_mem_cons.mpr ⟨fun _ => rfl,
      fun e hm free => (ran.free turn.sound turn.fits e hm free).2⟩
  | reported _ _ _ hr =>
    cases hr with
    | late => exact List.forall_mem_singleton.mpr fun _ => rfl
    | counts _ _ hf =>
      subst hf
      simp [Event.floor]

/-- While a flash is the latest, a step of another call keeps its progress in the record. -/
theorem Step.aside (run : Run config .new log t) (hs : Step config t j es t')
    (hc : t.calls[i]? = some c) (he : c.errand.isFlash = true) (ht : c.tag = some g)
    (latest : t'.Latest i g) (hj : j ≠ i) :
    (t'.floor.desk.generation = g → t.floor.desk.generation = g ∧
      t'.floor.desk.progress = t.floor.desk.progress) ∧
    ∀ e ∈ es, e.free = true → e.floor.desk.generation = g → t.floor.desk.generation = g ∧
      e.floor.desk.progress = t.floor.desk.progress := by
  have reach : Reach config t := ⟨_, run⟩
  have bound : g ≤ t.floor.desk.generation := reach.tag_bound c (List.mem_of_getElem? hc) g ht
  have hm := reach.move hs
  -- as long as the generation stays, nobody else has the station
  have alone (now : t.floor.desk.generation = g) {d : Call} (hd : t.calls[j]? = some d) :
      ¬ d.Owns t.floor.desk := fun own =>
    hj (run.sole hc he (now ▸ ht) (now ▸ latest.before hm) hd own)
  cases hm with
  | refused _ _ pre =>
    refine ⟨fun now => ⟨now, rfl⟩, fun e hm free now => ?_⟩
    rw [pre.free e hm free] at now ⊢
    exact ⟨now, rfl⟩
  | @accepted _ f _ _ _ _ q ha hpre ran =>
    have turn := reach.orderly.accepted (q := q) ha
    have other : f.desk.generation ≠ g := by
      cases ha with
      | connect | disconnect => exact Nat.ne_of_gt (Nat.lt_succ_of_le bound)
      | flash flash =>
        have after : i < t.calls.length := (List.getElem?_eq_some_iff.mp hc).1
        exact fun same =>
          latest _ _ after List.getElem?_concat_length flash (congrArg some same)
    have stays := ran.generation turn.sound turn.fits
    refine ⟨fun now => absurd (stays.symm.trans now) other, fun e hm free now => ?_⟩
    rcases List.mem_append.mp hm with hm | hm
    · rw [hpre.free e hm free] at now ⊢
      exact ⟨now, rfl⟩
    · exact absurd ((ran.free turn.sound turn.fits e hm free).2.symm.trans now) other
  | @resumed _ d _ _ _ _ q hd hp ran =>
    have steady := hs.steady reach hd
    by_cases now : t.floor.desk.generation = g
    · have left : d.LeftOver t.floor.desk := ⟨hp, fun carried => alone now hd ⟨hp, carried⟩⟩
      have late : Late d.tag t.floor.desk := reach.orderly.late (List.mem_of_getElem? hd) left
      obtain ⟨same, floors⟩ := ran.idle late
      refine ⟨fun _ => ⟨now, by rw [same]⟩, List.forall_mem_cons.mpr ⟨fun _ _ => ⟨now, rfl⟩, ?_⟩⟩
      exact fun e hm _ _ => ⟨now, by rw [floors e hm]⟩
    · exact ⟨fun same => absurd ((hs.same_generation reach hd).symm.trans same) now,
        fun e hm free same => absurd ((steady e hm free).symm.trans same) now⟩
  | reported hd hp carried hr =>
    have steady := hs.steady reach hd
    cases hr with
    | late =>
      exact ⟨fun now => ⟨now, rfl⟩, List.forall_mem_singleton.mpr fun _ now => ⟨now, rfl⟩⟩
    | counts own _ hf =>
      have other : t.floor.desk.generation ≠ g := fun now => alone now hd ⟨hp, own ▸ carried⟩
      subst hf
      exact ⟨fun now => absurd now other,
        fun e hm free now => absurd ((steady e hm free).symm.trans now) other⟩

/-! ### What is in the record -/

/-- What happened so far, up to an event `e` of the run `log`. -/
inductive Moment (log : List Deed) (e : Event) : List Deed → Prop where
  | reached {before after : List Deed} {d : Deed} {pre post : List Event}
      (hl : log = before ++ d :: after) (hd : d.events = pre ++ e :: post) :
      Moment log e (before ++ [{ d with events := pre ++ [e] }])

theorem Moment.story_none {e : Event} {sofar : List Deed} (h : Moment log e sofar)
    (past : ∀ d ∈ log, d.caller ≠ i) : story sofar i = [] := by
  obtain ⟨rfl, _⟩ := h
  obtain ⟨early, last, _⟩ : _ ∧ _ ∧ _ := by
    simpa only [List.forall_mem_append, List.forall_mem_cons] using past
  exact Traffic.story_none
    (List.forall_mem_append.mpr ⟨early, List.forall_mem_singleton.mpr last⟩)

/-- A moment of a run is one of the run before its last step, or one of that step. -/
theorem Moment.snoc {d : Deed} {e : Event} {sofar : List Deed} (h : Moment (log ++ [d]) e sofar) :
    Moment log e sofar ∨ ∃ pre post, d.events = pre ++ e :: post ∧
      sofar = log ++ [{ d with events := pre ++ [e] }] := by
  obtain ⟨hl, hd⟩ := h
  rename_i before after d' pre post
  rcases List.eq_nil_or_concat after with rfl | ⟨more, last, rfl⟩
  · obtain ⟨rfl, same⟩ := List.append_inj' hl rfl
    cases same
    exact .inr ⟨pre, post, hd, rfl⟩
  · rw [List.concat_eq_append, ← List.cons_append, ← List.append_assoc] at hl
    obtain ⟨rfl, _⟩ := List.append_inj' hl rfl
    exact .inl (.reached rfl hd)

/-- A report leaves in the record what it tells. -/
theorem reports_echoed {old : Nat} {f f' : Floor} {written total : UInt64}
    (h : Reports f g written total es f') (now : f.desk.generation = g → f.desk.progress = old) :
    Echoed g old es f' (heard es) ∧ ∀ e ∈ es, ∃ op, e.performed = some op := by
  cases h with
  | late other =>
    refine ⟨?_, List.forall_mem_singleton.mpr ⟨_, rfl⟩⟩
    exact .record (x := [_]) (List.forall_mem_singleton.mpr rfl) ⟨rfl, trivial, now⟩
  | counts _ _ hf =>
    refine ⟨?_, by simp [Event.performed]⟩
    refine .record (x := [_, _, _]) (by simp [Event.free, StationOp.onRecord]) ?_
    have kept : f'.desk.progress = percent written total := by rw [hf]
    exact .cons (fun _ _ => kept) ⟨rfl, trivial, fun _ => kept⟩

/-- The record agrees with the caller of a flash of the generation `g`: where all calls wait, and at
each moment at which it is free, it has what was heard last. -/
structure Agrees (g i : Nat) (log : List Deed) (t : Traffic) : Prop where
  rest : t.floor.desk.generation = g →
    (heard (story log i)).getLast? = some t.floor.desk.progress
  moments : ∀ e sofar, Moment log e sofar → e.free = true → e.floor.desk.generation = g →
    heard (story sofar i) ≠ [] →
      (heard (story sofar i)).getLast? = some e.floor.desk.progress

namespace Agrees

variable {f : Floor} {told : List Nat}

/-- After a step of the flash, what it told comes after what was told before. -/
theorem own (before : ∀ e sofar, Moment log e sofar → e.free = true →
      e.floor.desk.generation = g → heard (story sofar i) ≠ [] →
        (heard (story sofar i)).getLast? = some e.floor.desk.progress)
    (rest : t'.floor.desk.generation = g →
      (heard (story log i) ++ heard es).getLast? = some t'.floor.desk.progress)
    (here : ∀ pre e post, es = pre ++ e :: post → e.free = true → e.floor.desk.generation = g →
      heard (story log i) ++ heard (pre ++ [e]) ≠ [] →
        (heard (story log i) ++ heard (pre ++ [e])).getLast? = some e.floor.desk.progress) :
    Agrees g i (log ++ [⟨i, es, f, t'.floor⟩]) t' where
  rest now := by
    rw [story_append, story_own rfl, heard_append]
    exact rest now
  moments e sofar hm free now told := by
    rcases hm.snoc with early | ⟨pre, post, split, rfl⟩
    · exact before e sofar early free now told
    · rw [story_append, story_own rfl, heard_append] at told ⊢
      exact here pre e post split free now told

/-- The first step of a flash tells of a start, and nothing was told before. -/
theorem begins (past : ∀ d ∈ log, d.caller ≠ i) (performed : ∀ e ∈ es, ∃ op, e.performed = some op)
    (h : Echoed g 0 es t'.floor (0 :: told)) : Agrees g i (log ++ [⟨i, es, f, t'.floor⟩]) t' := by
  have opened : heard es ≠ [] := by
    rw [h.tells]
    exact List.cons_ne_nil _ _
  refine .own (fun e sofar early _ _ told => ?_) (fun now => ?_) ?_
  · exact absurd (congrArg heard (early.story_none past)) told
  · rw [story_none past]
    exact h.last [] performed (.inr opened) now
  · rintro pre e post rfl free now told
    rw [story_none past] at told ⊢
    exact h.last_at [] performed (.inr told) free now

/-- A flash that is answered goes on from what is in the record. -/
theorem resumes {op : StationOp} {answer : op.Answer} (h : Agrees g i log t)
    (same : t'.floor.desk.generation = t.floor.desk.generation)
    (steady : ∀ e ∈ Event.wakes op answer t.floor :: es, e.free = true →
      e.floor.desk.generation = t.floor.desk.generation)
    (performed : ∀ e ∈ es, ∃ op, e.performed = some op)
    (echoed : Echoed g t.floor.desk.progress es t'.floor told) :
    Agrees g i (log ++ [⟨i, .wakes op answer t.floor :: es, f, t'.floor⟩]) t' := by
  refine .own h.moments (fun now => ?_) ?_
  · exact echoed.last _ performed (.inl (h.rest (same.symm.trans now))) now
  · intro pre e post split free now _
    cases pre with
    | nil =>
      obtain ⟨rfl, _⟩ := List.cons.inj split
      rw [show heard ([] ++ [Event.wakes op answer t.floor]) = [] from rfl, List.append_nil]
      exact h.rest now
    | cons first pre =>
      obtain ⟨rfl, rfl⟩ := List.cons.inj split
      have held := (steady e (by simp) free).symm.trans now
      exact echoed.last_at _ performed (.inl (h.rest held)) free now

/-- A report to a flash leaves in the record what it tells. -/
theorem reported {written total : UInt64} (h : Agrees g i log t)
    (same : t'.floor.desk.generation = t.floor.desk.generation)
    (steady : ∀ e ∈ es, e.free = true → e.floor.desk.generation = t.floor.desk.generation)
    (reports : Reports t.floor g written total es t'.floor) :
    Agrees g i (log ++ [⟨i, es, f, t'.floor⟩]) t' := by
  obtain ⟨echoed, performed⟩ := reports_echoed reports fun _ => rfl
  refine .own h.moments (fun now => ?_) ?_
  · exact echoed.last _ performed (.inl (h.rest (same.symm.trans now))) now
  · rintro pre e post rfl free now _
    have held := (steady e (by simp) free).symm.trans now
    exact echoed.last_at _ performed (.inl (h.rest held)) free now

/-- The step of another call that keeps the progress in the record. -/
theorem aside (h : Agrees g i log t) (hj : j ≠ i)
    (after : t'.floor.desk.generation = g → t.floor.desk.generation = g ∧
      t'.floor.desk.progress = t.floor.desk.progress)
    (within : ∀ e ∈ es, e.free = true → e.floor.desk.generation = g →
      t.floor.desk.generation = g ∧ e.floor.desk.progress = t.floor.desk.progress) :
    Agrees g i (log ++ [⟨j, es, f, t'.floor⟩]) t' where
  rest now := by
    obtain ⟨held, kept⟩ := after now
    rw [story_append, story_none (List.forall_mem_singleton.mpr hj), List.append_nil, kept]
    exact h.rest held
  moments e sofar hm free now told := by
    rcases hm.snoc with early | ⟨pre, post, rfl, rfl⟩
    · exact h.moments e sofar early free now told
    · obtain ⟨held, kept⟩ := within e (by simp) free now
      rw [story_append, story_none (List.forall_mem_singleton.mpr hj), List.append_nil, kept]
      exact h.rest held

end Agrees

/-- **Whenever the record is free, it has what the caller of the latest flash has heard last.** -/
theorem Run.keeps_last (run : Run config .new log t) (hc : t.calls[i]? = some c)
    (he : c.errand.isFlash = true) (ht : c.tag = some g) (latest : t.Latest i g) :
    Agrees g i log t := by
  induction run generalizing c with
  | here => cases hc
  | @step log t t' j es run hs ih =>
    have reach : Reach config t := ⟨_, run⟩
    have before := latest.before (reach.move hs)
    by_cases hj : j = i
    · subst hj
      cases hs.onward run hc he ht with
      | begins new _ performed h =>
        exact .begins (fun d hd => Nat.ne_of_lt (new ▸ run.noted.1 d hd)) performed h
      | resumes hd errand tag _ performed h =>
        exact (ih hd (errand ▸ he) (tag.trans ht) before).resumes (hs.same_generation reach hd)
          (hs.steady reach hd) performed h
      | reported hd _ h =>
        exact (ih hd he ht before).reported (hs.same_generation reach hd) (hs.steady reach hd) h
    · rw [hs.others (Ne.symm hj)] at hc
      obtain ⟨after, within⟩ := hs.aside run hc he ht latest hj
      exact (ih hc he ht before).aside hj after within

/-- What is inert tells nobody how far a flash is. -/
theorem inert_silent (h : ∀ e ∈ es, ∀ op, e.performed = some op → op.Inert) : heard es = [] := by
  refine List.filterMap_eq_nil_iff.mpr fun e he => ?_
  cases e with
  | does op => cases op <;> first | rfl | cases h _ he _ rfl
  | starts | wakes => rfl

/-- The caller of a flash that was superseded hears nothing more. -/
theorem Run.hears_no_more (h : Reach config t) (hc : t.calls[i]? = some c) (ht : c.tag = some g)
    (past : g < t.floor.desk.generation) (run : Run config t log t') :
    heard (story log i) = [] := by
  induction run with
  | here => rfl
  | @step log t' t'' j es run hs ih =>
    rw [story_append, heard_append, ih, List.nil_append]
    by_cases hj : j = i
    · subst hj
      obtain ⟨⟨c', hc', ht'⟩, later⟩ := run.superseded h hc ht past
      have late : Late c'.tag t'.floor.desk := fun g' carried => by
        rw [ht'] at carried
        cases carried
        exact later
      have inert := (((run.reach h).move hs).late hc' late).2
      rw [story_own rfl]
      exact inert_silent fun e he => (inert e he).2
    · rw [story_none (List.forall_mem_singleton.mpr hj)]
      rfl

end Traffic

open Traffic

/-- **The progress of a flash.** Take a flash that took the session, in any run, with any reports of
its loader. Its caller hears at first that nothing is written; then, of each report that came while
the flash had its generation, which part of the file was written, in the order of the reports; and
at last, if and only if the flash has worked, that everything is written. None of this is more than
all of it. Once the flash is superseded, its caller hears nothing more.

While the flash is under way, and after that as long as no other flash has taken the session, the
record agrees with its caller. Where all calls wait, and at each moment of a step at which the
record is free, it has what the caller has heard last: after a failure the last report that counted,
and when the flash has worked, all. -/
theorem progress_stream {config : Config} {t : Traffic} {log : List Deed} {i g : Nat} {c : Call}
    (run : Run config .new log t) (hc : t.calls[i]? = some c) (he : c.errand.isFlash = true)
    (ht : c.tag = some g) :
    let told := heard (story log i)
    ((∃ session, c.start.desk.session = some session) ∧ c.start.desk.generation = g) ∧
    ∃ percents, Percentages g (reports log i) percents ∧
      told = 0 :: percents ++ lastWord c.worked ∧ (∀ percent ∈ told, percent ≤ 100) ∧
      (t.floor.desk.generation ≠ g → ∀ log' t', Run config t log' t' →
        heard (story (log ++ log') i) = told) ∧
      (c.pending = true ∨ t.Latest i g →
        (t.floor.desk.generation = g → told.getLast? = some t.floor.desk.progress ∧
          t.floor.desk.progress = if c.worked then 100 else percents.getLast?.getD 0) ∧
        ∀ e sofar, Moment log e sofar → e.free = true → e.floor.desk.generation = g →
          heard (story sofar i) ≠ [] →
            (heard (story sofar i)).getLast? = some e.floor.desk.progress) := by
  intro told
  have reach : Reach config t := ⟨_, run⟩
  obtain ⟨percents, counted, all⟩ := run.heard_story hc he ht
  obtain ⟨_, course, _⟩ := run.course hc
  have took := (course.flash_starts he).took ((run.noted.2 hc).trans ht)
  refine ⟨took, percents, counted, all, ?_, fun other log' t' run' => ?_, fun held => ?_⟩
  · have last : ∀ percent ∈ lastWord c.worked, percent ≤ 100 := by
      cases c.worked <;> simp [lastWord]
    show ∀ percent ∈ heard (story log i), percent ≤ 100
    rw [all]
    exact List.forall_mem_cons.mpr
      ⟨Nat.zero_le _, List.forall_mem_append.mpr ⟨counted.bound, last⟩⟩
  · have bound := reach.tag_bound c (List.mem_of_getElem? hc) g ht
    have past : g < t.floor.desk.generation := Nat.lt_of_le_of_ne bound other.symm
    rw [story_append, heard_append, run'.hears_no_more reach hc ht past, List.append_nil]
  · have latest : t.Latest i g := held.elim (reach.latest hc ht) id
    obtain ⟨atRest, atEvent⟩ := run.keeps_last hc he ht latest
    refine ⟨fun now => ⟨atRest now, ?_⟩, atEvent⟩
    have kept : (0 :: percents ++ lastWord c.worked).getLast? = some t.floor.desk.progress :=
      all ▸ atRest now
    cases hw : c.worked with
    | true =>
      rw [hw] at kept
      exact (Option.some.inj (List.getLast?_concat.symm.trans kept)).symm
    | false => simpa [hw, lastWord, List.getLast?_cons, eq_comm] using kept

/-- A loader that writes for the record's generation can report anything, and it counts. -/
theorem Traffic.Step.counted {config : Config} {t : Traffic} {i : Nat} {c : Call} {loader : Loader}
    {payload : Payload} {compress : Bool}
    {next : Except ProtocolFault Unit → Program Station Result} (hc : t.calls[i]? = some c)
    (hw : c.rest = .call (.writeFlash loader payload compress t.floor.desk.generation) next)
    (written total : UInt64) :
    ∃ es f, Step config t i es ⟨f, t.calls⟩ ∧
      f.desk.generation = t.floor.desk.generation ∧ f.desk.progress = percent written total := by
  have stretch := Stretch.advance (obliging default .closed)
    (reportProgress t.floor.desk.generation written total) t.floor
  have ended : ((reportProgress t.floor.desk.generation written total).advance
      (obliging default .closed) t.floor).2.2 = .done () := by
    show Prod.snd (Prod.snd (Program.advance _ (if (_ == _) = true then _ else _) _)) = _
    rw [if_pos (beq_self_eq_true _)]
    rfl
  generalize Program.advance _ _ _ = r at stretch ended
  rw [ended] at stretch
  have reports := stretch.reports
  refine ⟨_, _, .reports hc hw written total stretch, ?_⟩
  generalize r.1 = es, r.2.1 = f at reports
  cases reports with
  | late other => exact absurd rfl other
  | counts _ _ hf =>
    rw [hf]
    exact ⟨rfl, rfl⟩

/-- A flash whose loader has written half of a file. -/
theorem halfway_told :
    ∃ log t c, Run .default .new log t ∧ t.calls[1]? = some c ∧ c.errand.isFlash = true ∧
      c.pending = true ∧ (∃ percents, heard (story log 1) = 0 :: percents) ∧
      (heard (story log 1)).getLast? = some 50 ∧ t.floor.desk.progress = 50 := by
  have reach : Reach .default .writing := (Reach.joined.begin _ _).carryOn _ _ _
  have look : Traffic.writing.calls[1]?.map (fun c => (c.errand.isFlash, c.tag,
      match c.rest with
      | .call op _ => op.isWrite
      | .done _ => false)) = some (true, some Traffic.writing.floor.desk.generation, true) := by
    decide +kernel
  obtain ⟨c, hc, look⟩ := Option.map_eq_some_iff.mp look
  obtain ⟨he, look⟩ := Prod.mk.inj look
  obtain ⟨ht, writes⟩ := Prod.mk.inj look
  cases hr : c.rest with
  | done r => simp [hr] at writes
  | call op next =>
    have pending : c.pending = true := by rw [Call.pending, hr]
    cases op with
    | writeFlash loader payload compress g =>
      have own := (reach.orderly.waits c (List.mem_of_getElem? hc) pending).speaks hr g rfl
      obtain rfl := Option.some.inj (ht.symm.trans own)
      obtain ⟨es, f, hs, same, half⟩ := Step.counted hc hr 1 2
      obtain ⟨log, run⟩ : Reach .default ⟨f, Traffic.writing.calls⟩ := reach.step hs
      obtain ⟨_, percents, _, told, _, _, keeps⟩ := progress_stream run hc he ht
      obtain ⟨kept, _⟩ := (keeps (.inl pending)).1 same
      have share : f.desk.progress = 50 := half
      rw [share] at kept
      exact ⟨log, ⟨f, _⟩, c, run, hc, he, pending, ⟨_, told⟩, kept, share⟩
    | _ => simp [hr, StationOp.isWrite] at writes

end FlashStation
