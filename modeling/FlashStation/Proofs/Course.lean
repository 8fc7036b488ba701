/-
# The course of a call

What happened in a call, from its beginning on and across its waits, is a course of its program:
the operations are performed in turn, the ones that do not wait on the floor that the one before
left, and after a wait the program goes on with the answer, on a floor that may have drifted. A
course ends where the call gives way to others, or where it is over.

A course of a program that is put together from others is put together from courses of these, so
it can be taken apart along the program. Where all operations are inert, the floor only drifts.

Key definitions: `Course`, `Program.value`.
Key theorems: `Course.bind_inv`, `Course.inert`, `Course.manners`, `Traffic.Run.course`,
`Traffic.Step.course`.
-/
import FlashStation.Proofs.Diary

namespace FlashStation

open Station Program StationOp

variable {α β : Type}

/-- The value of a program that is over. -/
def Program.value {S : Signature} : Program S α → Option α
  | .done a => some a
  | .call _ _ => none

/-- What happens in a program that begins on the floor `f` and carries `tag`, up to a moment at
which it gives way to others or is over; then the floor is `f'`, and `q` is left. -/
inductive Course : Option Nat → Program Station α → Floor → List Event → Floor →
    Program Station α → Prop where
  | ends (tag : Option Nat) (a : α) (f : Floor) : Course tag (.done a) f [] f (.done a)
  | waits {tag : Option Nat} {op : StationOp} {next : op.Answer → Program Station α} {f : Floor}
      (h : op.suspends = true) : Course tag (.call op next) f [.starts op f] f (.call op next)
  | does {tag : Option Nat} {op : StationOp} {next : op.Answer → Program Station α} {f f' : Floor}
      {x : List Event} {q : Program Station α} (h : op.suspends = false) (suggested : op.Answer)
      (rest : Course ((Event.does op (op.settle suggested f).1 f).tag tag)
        (next (op.settle suggested f).1) (op.settle suggested f).2 x f' q) :
      Course tag (.call op next) f (.does op (op.settle suggested f).1 f :: x) f' q
  | answered {tag : Option Nat} {op : StationOp} {next : op.Answer → Program Station α}
      {f g f' : Floor} {x : List Event} {q : Program Station α} (h : op.suspends = true)
      (answer : op.Answer) (hd : Drift tag f g) (rest : Course tag (next answer) g x f' q) :
      Course tag (.call op next) f (.starts op f :: .wakes op answer g :: x) f' q

section
variable {tag : Option Nat} {p q : Program Station α} {f f' : Floor} {x : List Event}

/-- A stretch is a course without a wait in between. -/
theorem Stretch.course (h : Stretch p f x f' q) (tag : Option Nat) : Course tag p f x f' q := by
  induction h generalizing tag with
  | ends a f => exact .ends tag a f
  | waits hs => exact .waits hs
  | does hs suggested _ ih => exact .does hs suggested (ih _)

namespace Course

/-- A call that waits is answered, and goes on for a stretch. -/
theorem resumes (h : Course tag p f x f' q) {op : StationOp}
    {next : op.Answer → Program Station α} (hq : q = .call op next) (answer : op.Answer)
    {g g' : Floor} {es : List Event} {r : Program Station α} (hd : Drift (Event.tags x tag) f' g)
    (hs : Stretch (next answer) g es g' r) :
    Course tag p f (x ++ .wakes op answer g :: es) g' r := by
  induction h with
  | ends => cases hq
  | waits h =>
    cases hq
    exact .answered h answer hd (hs.course _)
  | does h suggested _ ih => exact .does h suggested (ih hq hd)
  | answered h given drift _ ih => exact .answered h given drift (ih hq hd)

/-! ### Taking a course apart -/

theorem done_inv {a : α} (h : Course tag (.done a) f x f' q) : x = [] ∧ f' = f ∧ q = .done a := by
  cases h
  exact ⟨rfl, rfl, rfl⟩

theorem does_inv (op : StationOp) {next : op.Answer → Program Station α}
    (h : Course tag (.call op next) f x f' q) (hs : op.suspends = false) :
    ∃ suggested rest, x = .does op (op.settle suggested f).1 f :: rest ∧
      Course ((Event.does op (op.settle suggested f).1 f).tag tag)
        (next (op.settle suggested f).1) (op.settle suggested f).2 rest f' q := by
  cases h with
  | waits hs' | answered hs' =>
    rw [hs] at hs'
    cases hs'
  | does _ suggested rest => exact ⟨suggested, _, rfl, rest⟩

theorem waits_inv (op : StationOp) {next : op.Answer → Program Station α}
    (h : Course tag (.call op next) f x f' q) (hs : op.suspends = true) :
    (x = [.starts op f] ∧ f' = f ∧ q = .call op next) ∨
      ∃ answer g rest, Drift tag f g ∧ x = .starts op f :: .wakes op answer g :: rest ∧
        Course tag (next answer) g rest f' q := by
  cases h with
  | waits => exact .inl ⟨rfl, rfl, rfl⟩
  | does hs' =>
    rw [hs] at hs'
    cases hs'
  | answered _ answer hd rest => exact .inr ⟨answer, _, _, hd, rfl, rest⟩

theorem read_inv {next : Desk → Program Station α} (h : Course tag (.call .read next) f x f' q) :
    ∃ rest, x = .does .read f.desk f :: rest ∧ Course tag (next f.desk) f rest f' q := by
  obtain ⟨_, rest, hx, h'⟩ := h.does_inv _ rfl
  exact ⟨rest, hx, h'⟩

theorem write_inv {desk : Desk} {next : Unit → Program Station α}
    (h : Course tag (.call (.write desk) next) f x f' q) :
    ∃ rest, x = .does (.write desk) () f :: rest ∧
      Course tag (next ()) { f with desk } rest f' q := by
  obtain ⟨_, rest, hx, h'⟩ := h.does_inv _ rfl
  exact ⟨rest, hx, h'⟩

theorem log_inv {variant : Variant} {message : String} {next : Unit → Program Station α}
    (h : Course tag (.call (.link (.log variant message)) next) f x f' q) :
    ∃ rest, x = .does (.link (.log variant message)) () f :: rest ∧
      Course tag (next ()) f rest f' q := by
  obtain ⟨_, rest, hx, h'⟩ := h.does_inv _ rfl
  exact ⟨rest, hx, h'⟩

theorem current_inv {g : Nat} {next : Bool → Program Station α}
    (h : Course tag (.call (.current g) next) f x f' q) :
    ∃ rest, x = .does (.current g) (f.desk.generation == g) f :: rest ∧
      Course tag (next (f.desk.generation == g)) f rest f' q := by
  obtain ⟨_, rest, hx, h'⟩ := h.does_inv _ rfl
  exact ⟨rest, hx, h'⟩

/-- A course of one program after another is still in the first, or it is one of the first to its
end and then one of the second. -/
theorem bind_inv {p : Program Station α} {k : α → Program Station β} {q : Program Station β}
    (h : Course tag (p.bind k) f x f' q) :
    (∃ q' : Program Station α, Course tag p f x f' q' ∧ q'.value = none ∧ q.value = none) ∨
      ∃ a y z g, x = y ++ z ∧ Course tag p f y g (.done a) ∧
        Course (Event.tags y tag) (k a) g z f' q := by
  induction p generalizing tag f x with
  | done a => exact .inr ⟨a, [], x, f, rfl, .ends tag a f, h⟩
  | call op next ih =>
    cases hs : op.suspends with
    | true =>
      rcases h.waits_inv op hs with ⟨rfl, rfl, rfl⟩ | ⟨answer, g, rest, hd, rfl, h'⟩
      · exact .inl ⟨.call op next, .waits hs, rfl, rfl⟩
      · rcases ih answer h' with ⟨q', hq, waiting, left⟩ | ⟨a, y, z, g', rfl, first, second⟩
        · exact .inl ⟨q', .answered hs answer hd hq, waiting, left⟩
        · exact .inr ⟨a, _, z, g', rfl, .answered hs answer hd first, second⟩
    | false =>
      obtain ⟨suggested, rest, rfl, h'⟩ := h.does_inv op hs
      rcases ih _ h' with ⟨q', hq, waiting, left⟩ | ⟨a, y, z, g', rfl, first, second⟩
      · exact .inl ⟨q', .does hs suggested hq, waiting, left⟩
      · exact .inr ⟨a, _, z, g', rfl, .does hs suggested first, second⟩

/-! ### Courses of inert operations -/

/-- Every event of a course is about an operation that the program may perform. -/
theorem uses {H : StationOp → Prop} (h : Course tag p f x f' q) (hp : p.Uses H) :
    ∀ e ∈ x, H e.op := by
  induction h with
  | ends => exact List.forall_mem_nil _
  | waits => exact List.forall_mem_singleton.mpr hp.1
  | does _ _ _ ih => exact List.forall_mem_cons.mpr ⟨hp.1, ih (hp.2 _)⟩
  | answered _ answer _ _ ih =>
    exact List.forall_mem_cons.mpr ⟨hp.1, List.forall_mem_cons.mpr ⟨hp.1, ih (hp.2 answer)⟩⟩

/-- If no operation accepts a call, the call carries what it carried. -/
theorem carries (h : Course tag p f x f' q) (hp : p.Uses fun op : StationOp => op.accepts = false) :
    Event.tags x tag = tag := by
  refine Event.tags_eq tag fun e he op ho => ?_
  obtain rfl : e.op = op := by cases e <;> cases ho <;> rfl
  exact h.uses hp e he

/-- If all operations are inert, the call carries what it carried, and the floor only drifts. -/
theorem inert (h : Course tag p f x f' q) (hp : p.Uses Inert) :
    Event.tags x tag = tag ∧ Drift tag f f' ∧
      ∀ e ∈ x, Drift tag f e.floor ∧ Drift tag e.floor f' := by
  induction h with
  | ends tag a f => exact ⟨rfl, .refl _ _, List.forall_mem_nil _⟩
  | waits => exact ⟨rfl, .refl _ _, List.forall_mem_singleton.mpr ⟨.refl _ _, .refl _ _⟩⟩
  | @does tag op next f f' x q _ suggested _ ih =>
    have inert : op.Inert := hp.1
    have same : (Event.does op (op.settle suggested f).1 f).tag tag = tag :=
      Event.tag_eq (fun _ ho => by cases ho; exact inert.accepts) tag
    have stays := inert.settle suggested f
    rw [same, stays] at ih
    obtain ⟨tags, drift, within⟩ := ih (hp.2 _)
    refine ⟨?_, drift, List.forall_mem_cons.mpr ⟨⟨.refl _ _, drift⟩, within⟩⟩
    exact (congrArg (Event.tags x) same).trans tags
  | answered _ answer hd _ ih =>
    obtain ⟨tags, drift, within⟩ := ih (hp.2 answer)
    refine ⟨tags, hd.trans drift, List.forall_mem_cons.mpr ⟨⟨.refl _ _, hd.trans drift⟩,
      List.forall_mem_cons.mpr ⟨⟨hd, drift⟩, fun e he => ?_⟩⟩⟩
    exact ⟨hd.trans (within e he).1, (within e he).2⟩

/-- A course of a program with manners carries the same generation all the time, and what is left
of the program still has them. -/
theorem manners {closing : Desk → Desk → Prop} {Q : α → Floor → Floor → Prop} {since : Floor}
    (h : Course tag p f x f' q) (hp : p.Conforms (Manners tag closing) Q since f) :
    Event.tags x tag = tag ∧ ∃ since, (Manners tag closing).Rests Q since f' q := by
  induction h generalizing since with
  | ends tag a f => exact ⟨rfl, since, hp⟩
  | waits hs =>
    obtain ⟨_, hn⟩ := hp
    simp only [hs, ↓reduceIte] at hn
    exact ⟨rfl, since, fun answer f' hd => hn answer f' hd⟩
  | @does tag op next f f' x q hs suggested _ ih =>
    obtain ⟨may, hn⟩ := hp
    simp only [hs, Bool.false_eq_true, ↓reduceIte] at hn
    have same : (Event.does op (op.settle suggested f).1 f).tag tag = tag :=
      Event.tag_eq (fun _ ho => by cases ho; exact may.accepts) tag
    rw [same] at ih
    obtain ⟨tags, rests⟩ := ih (hn suggested)
    exact ⟨(congrArg (Event.tags x) same).trans tags, rests⟩
  | answered hs answer hd _ ih =>
    obtain ⟨_, hn⟩ := hp
    simp only [hs, ↓reduceIte] at hn
    exact ih (hn answer _ hd)

end Course

end

namespace Traffic

variable {config : Config} {t t' : Traffic} {log : List Deed} {i : Nat} {c : Call}
  {es : List Event}

/-- Only calls that were made took steps, and a call carries what its diary says. -/
theorem Run.noted (run : Run config .new log t) :
    (∀ d ∈ log, d.caller < t.calls.length) ∧
      ∀ {i : Nat} {c : Call}, t.calls[i]? = some c → Event.tags (diary log i) none = c.tag := by
  have promised : Promised config (fun _ _ _ _ _ => True) (fun _ _ _ _ _ => True) := by
    intro errand start
    have keeps : (Conduct.ofDiary fun _ _ _ => True).Keeps (fun _ => True) (fun _ _ => True) :=
      ⟨fun _ _ => trivial, fun _ _ _ _ => trivial, fun _ _ _ _ _ _ => trivial⟩
    exact keeps.conforms (uses_true _) trivial
  have kept := run.kept promised
  exact ⟨kept.callers, fun hc => (kept.calls hc).tag⟩

/-- What happened in a call up to its last own moment is a course of its program; since then the
floor has drifted, if the call is still under way. -/
def Followed (config : Config) (x : List Event) (c : Call) (now : Floor) : Prop :=
  ∃ f, Course none (c.errand.program config) c.start x f c.rest ∧
    (c.pending = true → Drift c.tag f now)

/-- A call that takes a step, other than by a report, goes on in its course. -/
theorem Step.own_course (run : Run config .new log t)
    (before : ∀ c, t.calls[i]? = some c → Followed config (diary log i) c t.floor)
    (hs : Step config t i es t') (hc : t'.calls[i]? = some c)
    (hr : Deed.report ⟨i, es, t.floor, t'.floor⟩ = false) :
    Course none (c.errand.program config) c.start (diary log i ++ es) t'.floor c.rest := by
  obtain ⟨callers, tags⟩ := run.noted
  cases hs with
  | begins errand h =>
    rw [List.getElem?_concat_length] at hc
    cases hc
    rw [diary_none fun d hd => Nat.ne_of_lt (callers d hd), List.nil_append]
    exact h.course none
  | @resumes _ d op next hd hw answer es f q h =>
    rw [List.getElem?_set_self (List.getElem?_eq_some_iff.mp hd).1] at hc
    cases hc
    obtain ⟨g, course, drift⟩ := before d hd
    have hp : d.pending = true := by rw [Call.pending, hw]
    exact course.resumes hw answer (tags hd ▸ drift hp) h
  | reports _ _ _ _ h =>
    have reports := h.reports
    cases reports <;> cases hr

/-- **What happened in a call is a course of its program.** -/
theorem Run.course (run : Run config .new log t) (hc : t.calls[i]? = some c) :
    Followed config (diary log i) c t.floor := by
  -- over the run, for all calls
  induction run generalizing i c with
  | here => cases hc
  | @step log t t' j es run hs ih =>
    have reach : Reach config t := ⟨_, run⟩
    -- a call that did not go on stands as before
    have others (hc : t.calls[i]? = some c)
        (drift : c.pending = true → Drift c.tag t.floor t'.floor)
        (same : diary (log ++ [⟨j, es, t.floor, t'.floor⟩]) i = diary log i) :
        Followed config (diary (log ++ [⟨j, es, t.floor, t'.floor⟩]) i) c t'.floor := by
      obtain ⟨f, course, before⟩ := ih hc
      rw [same]
      exact ⟨f, course, fun hp => (before hp).trans (drift hp)⟩
    cases hr : Deed.report ⟨j, es, t.floor, t'.floor⟩ with
    | true =>
      obtain ⟨same, _, _, _, reports⟩ := hs.reported hr
      exact others (same ▸ hc) (fun _ => reports.drift _) (diary_other (.inr hr))
    | false =>
      by_cases hj : i = j
      · subst hj
        rw [diary_own rfl hr]
        exact ⟨t'.floor, hs.own_course run (fun _ => ih) hc hr, fun _ => .refl _ _⟩
      · rw [hs.others hj] at hc
        exact others hc (fun hp => reach.orderly.drift (reach.move hs) hc hp hj)
          (diary_other (.inl (Ne.symm hj)))

/-- After a step of its own, a call that is over left the floor as it is. -/
theorem Step.course (run : Run config .new log t) (hs : Step config t i es t')
    (hc : t'.calls[i]? = some c) :
    ∃ f, Course none (c.errand.program config) c.start
        (diary (log ++ [⟨i, es, t.floor, t'.floor⟩]) i) f c.rest ∧
      (c.pending = true → Drift c.tag f t'.floor) ∧ (c.pending = false → f = t'.floor) := by
  cases hr : Deed.report ⟨i, es, t.floor, t'.floor⟩ with
  | true =>
    obtain ⟨f, course, drift⟩ := (run.step hs).course hc
    have hp : c.pending = true := hs.pending ((hs.reported hr).1 ▸ hc)
    exact ⟨f, course, drift, fun done => by rw [hp] at done; cases done⟩
  | false =>
    rw [diary_own rfl hr]
    have course := hs.own_course run (fun _ hc => run.course hc) hc hr
    exact ⟨t'.floor, course, fun _ => .refl _ _, fun _ => rfl⟩

end Traffic

end FlashStation
