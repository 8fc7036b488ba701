/-
# What a call asks the outside for

A call works on the record, keeps a trail, and asks ports, the provider, a loader and the fetcher
for things. The dialogue of some events holds the operations that were performed, each with its
answer; what of it leaves the station are the calls in it.

A call that is over came to its value because of its dialogue, so its calls can be taken apart along
its program, without regard to the floor or to what other calls did meanwhile. A call that waits
could be answered until it is over, and nobody would count the generation up by that; so its
dialogue is a beginning of one that is complete.

Key definitions: `dialogue`, `Exchange.Settled`, `outward`, `Program.Speaks`.
Key theorems: `Course.yields_dialogue`, `Course.speaks`, `Program.Speaks.bind_inv`,
`Program.Speaks.each_inv`, `Traffic.Run.followed`, `Traffic.Run.completes`.
-/
import FlashStation.Proofs.Course
import FlashStation.Proofs.Leftover
import FlashStation.Proofs.Talk
import Mathlib.Data.List.Forall2

namespace FlashStation

open Station Program

/-! ### The dialogue of some events -/

/-- What an event adds to the dialogue. -/
def Event.exchange? : Event → Option (Exchange Station)
  | .does op answer _ | .wakes op answer _ => some ⟨op, answer⟩
  | .starts _ _ => none

/-- The operations that were performed in some events, each with its answer. -/
def dialogue (x : List Event) : List (Exchange Station) :=
  x.filterMap Event.exchange?

namespace Exchange

/-- An operation is answered as it can be on some floor. -/
def Settled (e : Exchange Station) : Prop :=
  ∃ suggested f, e.answer = (e.op.settle suggested f).1

/-- An exchange on a port, as one of the station's. -/
def ofLink (e : Exchange Link) : Exchange Station := ⟨.link e.op, e.answer⟩

/-- An exchange with the fetcher, as one of the station's. -/
def ofSupply (e : Exchange Supply) : Exchange Station := ⟨.supply e.op, e.answer⟩

end Exchange

/-- Whether an operation leaves the station: it is no work on the record, no entry of the trail or
the diagnostic log, and no word to the observer or to the caller. -/
def StationOp.outward : StationOp → Bool
  | .link (.log _ _) | .link (.note _) | .read | .current _ | .write _ | .changed _ _
  | .progress _ => false
  | _ => true

/-- An operation that does not leave the station. -/
def StationOp.Silent (op : StationOp) : Prop := op.outward = false

/-- The calls in a dialogue. -/
def outward (talk : List (Exchange Station)) : List (Exchange Station) :=
  talk.filter (·.op.outward)

/-- A program makes these calls and comes to a value, if all its operations are answered as they
can be. -/
def Program.Speaks {α : Type} (p : Program Station α) (calls : List (Exchange Station)) (a : α) :
    Prop :=
  ∃ talk, p.Yields talk a ∧ (∀ e ∈ talk, e.Settled) ∧ outward talk = calls

section
variable {x y : List Event} {op : StationOp} {answer : op.Answer} {f : Floor}

@[simp] theorem dialogue_nil : dialogue [] = [] := rfl

@[simp] theorem dialogue_append : dialogue (x ++ y) = dialogue x ++ dialogue y :=
  List.filterMap_append

@[simp] theorem dialogue_does :
    dialogue (.does op answer f :: x) = ⟨op, answer⟩ :: dialogue x := rfl

@[simp] theorem dialogue_starts : dialogue (.starts op f :: x) = dialogue x := rfl

@[simp] theorem dialogue_wakes :
    dialogue (.wakes op answer f :: x) = ⟨op, answer⟩ :: dialogue x := rfl

theorem StationOp.onRecord_silent {op : StationOp} (h : op.onRecord = true) : op.Silent := by
  cases op <;> first | rfl | cases h

/-- Work on the record makes no calls. -/
theorem outward_record (h : ∀ e ∈ x, e.free = false) : outward (dialogue x) = [] := by
  refine List.filter_eq_nil_iff.mpr fun exchange he => ?_
  obtain ⟨e, he, same⟩ := List.mem_filterMap.mp he
  have busy := h e he
  cases e with
  | starts => cases same
  | wakes => cases busy
  | does op =>
    cases same
    exact Bool.eq_false_iff.mp (StationOp.onRecord_silent (by simpa [Event.free] using busy))

variable {talk talk' : List (Exchange Station)} {e : Exchange Station}

@[simp] theorem outward_nil : outward [] = [] := rfl

@[simp] theorem outward_append : outward (talk ++ talk') = outward talk ++ outward talk' :=
  List.filter_append _ _

theorem outward_cons (h : e.op.outward = true) : outward (e :: talk) = e :: outward talk :=
  List.filter_cons_of_pos h

theorem outward_skip (h : e.op.outward = false) : outward (e :: talk) = outward talk :=
  List.filter_cons_of_neg (by simp [h])

@[simp] theorem outward_log {variant : Variant} {message : String} {answer : Unit} :
    outward (⟨.link (.log variant message), answer⟩ :: talk) = outward talk := rfl

end

/-! ### Talks of programs -/

namespace Program.Yields

variable {α : Type}

/-- Where each operation of a program is one of the station's, its talk is one of the station's. -/
theorem embed_inv {S : Signature} {p : Program S α}
    {f : (op : S.Op) → Program Station (S.Answer op)}
    {w : Exchange S → Exchange Station}
    (one : ∀ {op talk answer}, (f op).Yields talk answer → talk = [w ⟨op, answer⟩])
    {talk : List (Exchange Station)} {a : α} (h : (p.embed f).Yields talk a) :
    ∃ inner, p.Yields inner a ∧ talk = inner.map w := by
  induction p generalizing talk with
  | done b =>
    obtain ⟨rfl, rfl⟩ := Yields.done_inv h
    exact ⟨[], .done _, rfl⟩
  | call op next ih =>
    obtain ⟨answer, first, rest, rfl, asked, later⟩ := Yields.bind_inv h
    obtain ⟨inner, yields, rfl⟩ := ih answer later
    exact ⟨⟨op, answer⟩ :: inner, .call answer yields, by rw [one asked]; rfl⟩

/-- To perform an operation is one exchange. -/
theorem perform_inv {op : StationOp} {talk : List (Exchange Station)} {answer : op.Answer}
    (h : (Station.perform op).Yields talk answer) : talk = [⟨op, answer⟩] := by
  obtain ⟨_, _, rfl, later⟩ := Yields.call_inv (S := Station) op h
  obtain ⟨rfl, rfl⟩ := Yields.done_inv later
  rfl

/-- A talk with ports is a talk of the station. -/
theorem onLink_inv {p : Program Link α} {talk : List (Exchange Station)} {a : α}
    (h : (onLink p).Yields talk a) : ∃ inner, p.Yields inner a ∧ talk = inner.map .ofLink :=
  embed_inv (S := Link) (w := .ofLink) (fun asked => perform_inv asked) h

/-- A talk with the fetcher is a talk of the station. -/
theorem onSupply_inv {p : Program Supply α} {talk : List (Exchange Station)} {a : α}
    (h : (onSupply p).Yields talk a) : ∃ inner, p.Yields inner a ∧ talk = inner.map .ofSupply :=
  embed_inv (S := Supply) (w := .ofSupply) (fun asked => perform_inv asked) h

end Program.Yields

namespace Program.Speaks

variable {α β ι : Type} {calls : List (Exchange Station)} {a b : α}

theorem done_inv (h : (.done a : Program Station α).Speaks calls b) : calls = [] ∧ b = a := by
  obtain ⟨talk, yields, _, rfl⟩ := h
  obtain ⟨rfl, rfl⟩ := Yields.done_inv yields
  exact ⟨rfl, rfl⟩

/-- The calls of one program after another are the calls of both. -/
theorem bind_inv {p : Program Station α} {k : α → Program Station β} {b : β}
    (h : (p.bind k).Speaks calls b) :
    ∃ a before after, calls = before ++ after ∧ p.Speaks before a ∧ (k a).Speaks after b := by
  obtain ⟨talk, yields, settled, rfl⟩ := h
  obtain ⟨a, before, after, rfl, first, second⟩ := Yields.bind_inv yields
  obtain ⟨early, late⟩ := List.forall_mem_append.mp settled
  exact ⟨a, outward before, outward after, outward_append, ⟨before, first, early, rfl⟩,
    ⟨after, second, late, rfl⟩⟩

/-- An operation that leaves the station is the first call. -/
theorem call_inv (op : StationOp) {next : op.Answer → Program Station α}
    (h : (.call op next : Program Station α).Speaks calls b) (ho : op.outward = true) :
    ∃ answer rest, calls = ⟨op, answer⟩ :: rest ∧ Exchange.Settled ⟨op, answer⟩ ∧
      (next answer).Speaks rest b := by
  obtain ⟨talk, yields, settled, rfl⟩ := h
  obtain ⟨answer, rest, rfl, later⟩ := Yields.call_inv (S := Station) op yields
  obtain ⟨first, others⟩ := List.forall_mem_cons.mp settled
  exact ⟨answer, outward rest, outward_cons ho, first, rest, later, others, rfl⟩

/-- An operation that does not leave the station is none of the calls. -/
theorem skip_inv (op : StationOp) {next : op.Answer → Program Station α}
    (h : (.call op next : Program Station α).Speaks calls b) (ho : op.outward = false) :
    ∃ answer, (next answer).Speaks calls b := by
  obtain ⟨talk, yields, settled, rfl⟩ := h
  obtain ⟨answer, rest, rfl, later⟩ := Yields.call_inv (S := Station) op yields
  obtain ⟨_, others⟩ := List.forall_mem_cons.mp settled
  exact ⟨answer, rest, later, others, (outward_skip ho).symm⟩

theorem log_inv {variant : Variant} {message : String} {k : Unit → Program Station α}
    (h : ((Station.log variant message).bind k).Speaks calls b) : (k ()).Speaks calls b :=
  (skip_inv (.link (.log variant message)) h rfl).elim fun _ later => later

/-- The calls of a program are among the operations that it may perform. -/
theorem uses {H : StationOp → Prop} {p : Program Station α} (h : p.Speaks calls a)
    (hp : p.Uses H) : ∀ e ∈ calls, H e.op := by
  obtain ⟨talk, yields, _, rfl⟩ := h
  exact fun e he => yields.uses hp e (List.mem_filter.mp he).1

/-- A program that never leaves the station makes no calls. -/
theorem silent {p : Program Station α} (h : p.Speaks calls a)
    (hp : p.Uses StationOp.Silent) : calls = [] := by
  obtain ⟨talk, yields, _, rfl⟩ := h
  exact List.filter_eq_nil_iff.mpr fun e he => Bool.eq_false_iff.mp (yields.uses hp e he)

/-- The calls of a loop are those for each item, one after the other. -/
theorem each_inv {act : ι → Program Station Unit} {items : List ι}
    (h : (Program.each act items).Speaks calls ()) :
    ∃ parts, calls = parts.flatten ∧
      List.Forall₂ (fun item part => (act item).Speaks part ()) items parts := by
  induction items generalizing calls with
  | nil =>
    obtain ⟨rfl, _⟩ := done_inv h
    exact ⟨[], rfl, .nil⟩
  | cons item items ih =>
    obtain ⟨_, before, after, rfl, first, later⟩ := bind_inv h
    obtain ⟨parts, rfl, all⟩ := ih later
    exact ⟨before :: parts, rfl, .cons first all⟩

theorem onLink_inv {p : Program Link α} (h : (onLink p).Speaks calls a) :
    ∃ inner, p.Yields inner a ∧ calls = outward (inner.map .ofLink) := by
  obtain ⟨talk, yields, _, rfl⟩ := h
  obtain ⟨inner, talked, rfl⟩ := Yields.onLink_inv yields
  exact ⟨inner, talked, rfl⟩

/-- A look at the generation, and one of two ways to go on. -/
theorem either {g : Nat} {A B : Program Station α}
    (h : ((isCurrent g).bind fun b => if (!b) = true then A else B).Speaks calls a) :
    A.Speaks calls a ∨ B.Speaks calls a := by
  obtain ⟨current, h1⟩ := skip_inv (.current g) h rfl
  cases current with
  | false => exact .inl h1
  | true => exact .inr h1

/-- A look at the generation that does not end a call. -/
theorem onward {g : Nat} {A B : Program Station α}
    (h : ((isCurrent g).bind fun b => if (!b) = true then A else B).Speaks calls a)
    (no : ∀ calls, ¬ A.Speaks calls a) : B.Speaks calls a :=
  h.either.resolve_left (no calls)

/-- What comes to another value did not fail like that. -/
theorem not_error {ε : Type} {fault : ε} {r : Except ε α} (hr : r ≠ .error fault)
    (calls : List (Exchange Station)) :
    ¬ (.done (.error fault) : Program Station (Except ε α)).Speaks calls r :=
  fun h => hr h.done_inv.2

/-- All that the fetcher is asked for leaves the station. -/
theorem onSupply_inv {p : Program Supply α} (h : (onSupply p).Speaks calls a) :
    ∃ inner, p.Yields inner a ∧ calls = inner.map .ofSupply := by
  obtain ⟨talk, yields, _, rfl⟩ := h
  obtain ⟨inner, talked, rfl⟩ := Yields.onSupply_inv yields
  refine ⟨inner, talked, List.filter_eq_self.mpr fun e he => ?_⟩
  obtain ⟨a, _, rfl⟩ := List.mem_map.mp he
  rfl

end Program.Speaks

/-! ### Programs that never leave the station -/

theorem log_silent (variant : Variant) (message : String) :
    (Station.log variant message).Uses StationOp.Silent :=
  .perform (S := Station) rfl

theorem update_silent (u : Desk → Desk) : (update u).Uses StationOp.Silent :=
  ⟨rfl, fun _ => ⟨rfl, fun _ => trivial⟩⟩

theorem setPhase_silent (next : Phase) : (setPhase next).Uses StationOp.Silent := by
  refine Uses.bind (.perform (S := Station) rfl) fun desk => ?_
  split
  · exact ⟨rfl, fun _ => ⟨rfl, fun _ => trivial⟩⟩
  · trivial

/-! ### Courses -/

namespace Course

variable {α β : Type} {tag : Option Nat} {p q : Program Station α} {f f' : Floor} {x : List Event}

/-- A program that is over came to its value because of its dialogue. -/
theorem yields_dialogue (h : Course tag p f x f' q) {a : α} (hq : q = .done a) :
    p.Yields (dialogue x) a := by
  induction h with
  | ends =>
    cases hq
    exact .done a
  | waits => cases hq
  | @does _ op _ f _ _ _ _ suggested _ ih =>
    exact Yields.call (S := Station) (op.settle suggested f).1 (ih hq)
  | answered _ answer _ _ ih => exact Yields.call (S := Station) answer (ih hq)

theorem settled (h : Course tag p f x f' q) : ∀ e ∈ dialogue x, e.Settled := by
  induction h with
  | ends | waits => exact List.forall_mem_nil _
  | @does _ op _ f _ _ _ _ suggested _ ih =>
    exact List.forall_mem_cons.mpr ⟨⟨suggested, f, rfl⟩, ih⟩
  | @answered _ op _ f _ _ _ _ hs answer _ _ ih =>
    have free := op.settle_suspends hs answer f
    exact List.forall_mem_cons.mpr ⟨⟨answer, f, (congrArg Prod.fst free).symm⟩, ih⟩

/-- **A program that is over made the calls of its dialogue.** -/
theorem speaks {a : α} (h : Course tag p f x f' (.done a)) :
    p.Speaks (outward (dialogue x)) a :=
  ⟨dialogue x, h.yields_dialogue rfl, h.settled, rfl⟩

/-- A course to the end of one program after another is one of each. -/
theorem bind_done {k : α → Program Station β} {b : β}
    (h : Course tag (p.bind k) f x f' (.done b)) :
    ∃ a y z g, x = y ++ z ∧ Course tag p f y g (.done a) ∧
      Course (Event.tags y tag) (k a) g z f' (.done b) := by
  rcases h.bind_inv with ⟨_, _, _, waiting⟩ | split
  · cases waiting
  · exact split

end Course

/-! ### Runs -/

namespace Traffic

variable {config : Config} {t t' : Traffic} {log log' : List Deed} {i : Nat} {c : Call}
  {es : List Event}

theorem diary_append : diary (log ++ log') i = diary log i ++ diary log' i := by
  simp [diary]

/-- A call that was made does not count the generation up when it goes on. -/
theorem Step.same_generation (h : Reach config t) (hs : Step config t i es t')
    (hc : t.calls[i]? = some c) : t'.floor.desk.generation = t.floor.desk.generation := by
  cases h.move hs with
  | refused | accepted => simp at hc
  | @resumed _ _ _ _ _ _ q hd hp ran =>
    have turn := h.orderly.resumed hd hp q
    exact ran.generation turn.sound turn.fits
  | reported _ _ _ hr =>
    cases hr with
    | late => rfl
    | counts _ _ hf => rw [hf]

/-- What happened in a call is a course of its program. It led to a floor whose generation was not
higher than the one now; where the call has just ended, it led to the floor now. -/
theorem Run.followed (run : Run config .new log t) (hc : t.calls[i]? = some c) :
    ∃ f, Course none (c.errand.program config) c.start (diary log i) f c.rest ∧
      f.desk.generation ≤ t.floor.desk.generation ∧
      (c.pending = false → log.getLast?.map Deed.caller = some i → f = t.floor) := by
  induction run generalizing i c with
  | here => cases hc
  | @step log t t' j es run hs ih =>
    have reach : Reach config t := ⟨_, run⟩
    by_cases hj : j = i
    · subst hj
      obtain ⟨f, course, under, ended⟩ := hs.course run hc
      refine ⟨f, course, ?_, fun done _ => ended done⟩
      cases hp : c.pending with
      | true => exact (under hp).generation
      | false => exact Nat.le_of_eq (by rw [ended hp])
    · -- a call that did not go on has the course that it had
      rw [hs.others (Ne.symm hj)] at hc
      obtain ⟨f, course, bound, _⟩ := ih hc
      have later : t.floor.desk.generation ≤ t'.floor.desk.generation :=
        reach.orderly.later (reach.move hs)
      rw [diary_other (.inl hj)]
      refine ⟨f, course, Nat.le_trans bound later, fun _ last => ?_⟩
      simp only [List.getLast?_concat, Option.map_some, Option.some.injEq] at last
      exact absurd last hj

/-- A call that waits can be answered, and goes on. -/
theorem Run.answered (run : Run config .new log t) (hc : t.calls[i]? = some c) {op : StationOp}
    {next : op.Answer → Program Station Result} (hr : c.rest = .call op next)
    (answer : (op : StationOp) → op.Answer) :
    ∃ d t', Run config .new (log ++ [d]) t' ∧
      t'.calls[i]? = some { c with rest := ((next (answer op)).advance answer t.floor).2.2 } ∧
      t'.floor.desk.generation = t.floor.desk.generation := by
  have reach : Reach config t := ⟨_, run⟩
  have short : i < t.calls.length := (List.getElem?_eq_some_iff.mp hc).1
  have hs : Step config t i _ _ := .resumes hc hr (answer op) (.advance answer _ t.floor)
  refine ⟨_, _, run.step hs, ?_, hs.same_generation reach hc⟩
  -- to be answered does not change what a call carries
  obtain ⟨d, placed, _, _, tag, _⟩ := (reach.move hs).place hc
  simp only [List.getElem?_set_self short, Option.some.injEq] at placed ⊢
  subst placed
  simpa using tag

/-- A call that goes on with some program can be answered until it is over. -/
theorem Run.completes_from (answer : (op : StationOp) → op.Answer) (p : Program Station Result)
    (run : Run config .new log t) {f : Floor}
    (hc : t.calls[i]? = some { c with rest := (p.advance answer f).2.2 }) :
    ∃ log' t' r, Run config .new (log ++ log') t' ∧
      t'.calls[i]? = some { c with rest := .done r } ∧
      t'.floor.desk.generation = t.floor.desk.generation := by
  induction p generalizing t log f with
  | done r => exact ⟨[], t, r, by rwa [List.append_nil], hc, rfl⟩
  | call op next ih =>
    unfold Program.advance at hc
    cases hs : op.suspends with
    | false =>
      simp only [hs, Bool.false_eq_true, if_false] at hc
      exact ih _ run hc
    | true =>
      simp only [hs, if_true] at hc
      obtain ⟨d, t1, run1, hc1, same1⟩ := run.answered hc rfl answer
      obtain ⟨log', t', r, run', hc', same⟩ := ih _ run1 hc1
      rw [List.append_assoc] at run'
      exact ⟨_, t', r, run', hc', same.trans same1⟩

/-- **A call can be answered until it is over**, and the generation stays. -/
theorem Run.completes (run : Run config .new log t) (hc : t.calls[i]? = some c) :
    ∃ log' t' r, Run config .new (log ++ log') t' ∧
      t'.calls[i]? = some { c with rest := .done r } ∧
      t'.floor.desk.generation = t.floor.desk.generation ∧ (c.pending = false → log' = []) := by
  cases hr : c.rest with
  | done r => exact ⟨[], t, r, by rwa [List.append_nil], by rw [hc, ← hr], rfl, fun _ => rfl⟩
  | call op next =>
    obtain ⟨d, t1, run1, hc1, same1⟩ := run.answered hc hr (obliging default .closed)
    obtain ⟨log', t', r, run', hc', same⟩ := run1.completes_from _ _ hc1
    rw [List.append_assoc] at run'
    refine ⟨_, t', r, run', hc', same.trans same1, fun ended => ?_⟩
    rw [Call.pending, hr] at ended
    cases ended

end Traffic

end FlashStation
