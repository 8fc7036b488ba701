/-
# How a call begins

Up to the moment at which a call is accepted or refused, it does not wait. It looks at the
record, may add to the trail, and writes the record at most once: a refusal leaves its text there,
a connect and a disconnect give it the next generation, and a flash takes the session. Then the
call goes on with its body. A report of progress does not wait either.

Key definitions: `Prelude`, `Opens`, `Desk.connecting`, `Desk.flashing`, `Desk.tornDown`.
Key theorems: `Stretch.opens`, `Stretch.reports`.
-/
import FlashStation.Proofs.Traffic

namespace FlashStation

open Station

/-! ### The record after a call was accepted -/

namespace Desk

/-- After a connect was accepted. -/
def connecting (d : Desk) : Desk :=
  { d with phase := .connecting, generation := d.generation + 1, session := none, info := none,
           progress := 0, lastError := none }

/-- After a flash was accepted. -/
def flashing (d : Desk) : Desk :=
  { d with phase := .flashing, session := none, progress := 0, lastError := none }

/-- After a disconnect. -/
def tornDown (d : Desk) : Desk :=
  { d with phase := .idle, generation := d.generation + 1, session := none, info := none }

end Desk

/-- Events before a call is accepted or refused. While the record is free, the floor is `f`. -/
inductive Prelude (f : Floor) : List Event → Prop where
  | nil : Prelude f []
  | record {op : StationOp} {answer : op.Answer} {g : Floor} {es : List Event}
      (h : op.onRecord = true) (rest : Prelude f es) : Prelude f (.does op answer g :: es)
  | supported {answer : Bool} {es : List Event} (rest : Prelude f es) :
      Prelude f (.does .supported answer f :: es)
  | log {variant : Variant} {message : String} {answer : Unit} {es : List Event}
      (rest : Prelude f es) : Prelude f (.does (.link (.log variant message)) answer f :: es)

/-- A first stretch: the call is refused and over, or it is accepted and goes on with its body. -/
inductive Opens (config : Config) (f : Floor) :
    Errand → List Event → Floor → Program Station Result → Prop where
  | refused {errand : Errand} {es : List Event} {r : Result} (text : Option String)
      (h : errand ≠ .disconnect) (pre : Prelude f es) (tag : Event.tags es none = none) :
      Opens config f errand es { f with desk := { f.desk with lastError := text } } (.done r)
  | connects {preferred : Option UInt32} {pre es : List Event} {f' : Floor}
      {q : Program Station Result} (h : f.desk.phase = .idle ∨ f.desk.phase = .connected)
      (hpre : Prelude f pre) (tag : Event.tags pre none = some (f.desk.generation + 1))
      (body : Stretch ((attempt config (f.desk.generation + 1) (preferred.getD config.defaultBaud)
        f.desk.session).bind fun r => .done (.connected r))
        { f with desk := f.desk.connecting } es f' q) :
      Opens config f (.connect preferred) (pre ++ es) f' q
  | flashes {errand : Errand} {session : Session} {source : Source} {chip : Option String}
      {wrap : Except FlashFault FlashSummary → Result} {pre es : List Event} {f' : Floor}
      {q : Program Station Result} (h : errand.isFlash = true) (hp : f.desk.phase = .connected)
      (hs : f.desk.session = some session) (hpre : Prelude f pre)
      (tag : Event.tags pre none = some f.desk.generation)
      (body : Stretch ((flashWith config f.desk.generation session source chip).bind fun r =>
        .done (wrap r)) { f with desk := f.desk.flashing } es f' q) :
      Opens config f errand (pre ++ es) f' q
  | disconnects {pre es : List Event} {f' : Floor} {q : Program Station Result}
      (hpre : Prelude f pre) (tag : Event.tags pre none = none)
      (body : Stretch ((letGo config f.desk.session f.desk.phase).bind fun _ => .done .disconnected)
        { f with desk := f.desk.tornDown } es f' q) :
      Opens config f .disconnect (pre ++ es) f' q

section
variable {config : Config} {f f' : Floor} {es : List Event} {q : Program Station Result}

theorem Prelude.free (h : Prelude f es) : ∀ e ∈ es, e.free = true → e.floor = f := by
  induction h with
  | nil => exact List.forall_mem_nil _
  | record ho _ ih =>
    refine List.forall_mem_cons.mpr ⟨fun hf => ?_, ih⟩
    simp [Event.free, ho] at hf
  | supported _ ih | log _ ih => exact List.forall_mem_cons.mpr ⟨fun _ => rfl, ih⟩

/-! ### Running without a wait -/

theorem Stretch.done_inv {α : Type} {a : α} {q : Program Station α}
    (h : Stretch (.done a) f es f' q) : es = [] ∧ f' = f ∧ q = .done a := by
  cases h
  exact ⟨rfl, rfl, rfl⟩

theorem Stretch.does_inv {α : Type} (op : StationOp) {next : op.Answer → Program Station α}
    {q : Program Station α} (h : Stretch (.call op next) f es f' q) (hs : op.suspends = false) :
    ∃ suggested rest, es = .does op (op.settle suggested f).1 f :: rest ∧
      Stretch (next (op.settle suggested f).1) (op.settle suggested f).2 rest f' q := by
  cases h with
  | waits hs' =>
    rw [hs] at hs'
    cases hs'
  | does _ suggested rest => exact ⟨suggested, _, rfl, rest⟩

theorem Stretch.read_inv {α : Type} {next : Desk → Program Station α} {q : Program Station α}
    (h : Stretch (.call .read next) f es f' q) :
    ∃ rest, es = .does .read f.desk f :: rest ∧ Stretch (next f.desk) f rest f' q := by
  obtain ⟨_, rest, he, h'⟩ := h.does_inv _ rfl
  exact ⟨rest, he, h'⟩

theorem Stretch.write_inv {α : Type} {desk : Desk} {next : Unit → Program Station α}
    {q : Program Station α} (h : Stretch (.call (.write desk) next) f es f' q) :
    ∃ rest, es = .does (.write desk) () f :: rest ∧
      Stretch (next ()) { f with desk } rest f' q := by
  obtain ⟨_, rest, he, h'⟩ := h.does_inv _ rfl
  exact ⟨rest, he, h'⟩

theorem Stretch.log_inv {α : Type} {variant : Variant} {message : String}
    {next : Unit → Program Station α} {q : Program Station α}
    (h : Stretch (.call (.link (.log variant message)) next) f es f' q) :
    ∃ rest, es = .does (.link (.log variant message)) () f :: rest ∧
      Stretch (next ()) f rest f' q := by
  obtain ⟨_, rest, he, h'⟩ := h.does_inv _ rfl
  exact ⟨rest, he, h'⟩

theorem Stretch.changed_inv {α : Type} {before after : Phase}
    {next : Unit → Program Station α} {q : Program Station α}
    (h : Stretch (.call (.changed before after) next) f es f' q) :
    ∃ rest, es = .does (.changed before after) () f :: rest ∧ Stretch (next ()) f rest f' q := by
  obtain ⟨_, rest, he, h'⟩ := h.does_inv _ rfl
  exact ⟨rest, he, h'⟩

/-- The phase is changed; if it is another one, the observer is told. -/
theorem Stretch.setPhase_inv {α : Type} {next : Phase} {k : Unit → Program Station α}
    {q : Program Station α} (h : Stretch ((setPhase next).bind k) f es f' q) :
    ∃ pre rest, es = pre ++ rest ∧ (∀ g, Prelude g pre) ∧
      Event.tags pre none = (if f.desk.phase = next then none else
        Event.tag none (.does (.changed f.desk.phase next) () f)) ∧
      Stretch (k ()) { f with desk := { f.desk with phase := next } } rest f' q := by
  obtain ⟨_, rfl, h1⟩ := Stretch.read_inv h
  by_cases hp : f.desk.phase = next
  · simp only [Program.done_bind, hp, ne_eq, not_true_eq_false, if_false] at h1
    refine ⟨[_], _, rfl, fun g => .record rfl .nil, by rw [if_pos hp]; rfl, ?_⟩
    rw [← hp]
    exact h1
  · simp only [Program.done_bind, hp, ne_eq, not_false_eq_true, if_true] at h1
    obtain ⟨_, rfl, h2⟩ := Stretch.write_inv h1
    obtain ⟨rest, rfl, h3⟩ := Stretch.changed_inv h2
    refine ⟨[_, _, _], rest, rfl, fun g => .record rfl (.record rfl (.record rfl .nil)), ?_, h3⟩
    rw [if_neg hp]
    cases next <;> rfl

/-! ### The first stretch of each call -/

/-- A fault is told, its text is kept, and the call is over. -/
theorem Stretch.complains {α : Type} {variant : Variant} {message text : String} {a : α}
    {q : Program Station α}
    (h : Stretch ((Station.log variant message).bind fun _ =>
      (setLastError text).bind fun _ => .done a) f es f' q) :
    Prelude f es ∧ Event.tags es none = none ∧ q = .done a ∧
      f' = { f with desk := { f.desk with lastError := some text } } := by
  obtain ⟨_, rfl, h1⟩ := Stretch.log_inv h
  obtain ⟨_, rfl, h2⟩ := Stretch.read_inv h1
  obtain ⟨_, rfl, h3⟩ := Stretch.write_inv h2
  obtain ⟨rfl, rfl, rfl⟩ := Stretch.done_inv h3
  exact ⟨.log (.record rfl (.record rfl .nil)), rfl, rfl, rfl⟩

theorem connect_opens {preferred : Option UInt32}
    (h : Stretch ((Errand.connect preferred).program config) f es f' q) :
    Opens config f (.connect preferred) es f' q := by
  obtain ⟨supported, _, rfl, h1⟩ := Stretch.does_inv .supported h rfl
  cases supported with
  | false =>
    obtain ⟨pre, tag, rfl, rfl⟩ := Stretch.complains h1
    exact .refused _ nofun (.supported pre) tag
  | true =>
    obtain ⟨_, rfl, h2⟩ := Stretch.read_inv h1
    by_cases hb : f.desk.phase = .connecting ∨ f.desk.phase = .flashing
    · simp only [StationOp.settle, Program.done_bind, if_pos hb] at h2
      obtain ⟨_, rfl, h3⟩ := Stretch.log_inv h2
      obtain ⟨rfl, rfl, rfl⟩ := Stretch.done_inv h3
      exact .refused f'.desk.lastError nofun (.supported (.record rfl (.log .nil))) rfl
    · -- the phase is another one than before, so the observer is told and the call has its tag
      simp only [StationOp.settle, Program.done_bind, Program.bind_def, if_neg hb] at h2
      obtain ⟨_, rfl, h3⟩ := Stretch.write_inv h2
      simp only [Program.done_bind, Program.bind_assoc] at h3
      obtain ⟨pre, es, rfl, hpre, tag, h4⟩ := Stretch.setPhase_inv h3
      have hc : f.desk.phase ≠ .connecting := fun e => hb (.inl e)
      have free : f.desk.phase = .idle ∨ f.desk.phase = .connected := by
        cases hp : f.desk.phase <;> simp [hp] at hb ⊢
      rw [if_neg hc] at tag
      exact .connects free (.supported (.record rfl (.record rfl (hpre f)))) tag h4

/-- A flash is refused because of the phase. -/
theorem Stretch.rejects {α : Type} {phase : Phase} {wrap : FlashFault → α} {q : Program Station α}
    (h : Stretch ((rejectFlash phase).bind fun r => .done (wrap r)) f es f' q) :
    Prelude f es ∧ Event.tags es none = none ∧ q = .done (wrap (.notConnected phase)) ∧
      f' = { f with
        desk := { f.desk with lastError := some (FlashFault.notConnected phase).message } } := by
  simp only [rejectFlash, Program.bind_def, Program.pure_def, Program.bind_assoc,
    Program.done_bind] at h
  exact Stretch.complains h

theorem flash_opens {errand : Errand} {source : Source}
    (wrap : Except FlashFault FlashSummary → Result)
    {k : Except FlashFault FlashSummary → Program Station Result} (he : errand.isFlash = true)
    (hk : ∀ r, k r = .done (wrap r))
    (h : Stretch ((Station.flash config source).bind k) f es f' q) :
    Opens config f errand es f' q := by
  obtain rfl : k = fun r => .done (wrap r) := funext hk
  have hd : errand ≠ .disconnect := by rintro rfl; cases he
  obtain ⟨_, rfl, h1⟩ := Stretch.read_inv h
  by_cases hp : f.desk.phase = .connected
  · cases hs : f.desk.session with
    | none =>
      simp only [Program.done_bind, Program.bind_def, Program.pure_def, Program.bind_assoc, hs,
        ite_self] at h1
      obtain ⟨pre, tag, rfl, rfl⟩ := Stretch.rejects h1
      exact .refused _ hd (.record rfl pre) tag
    | some session =>
      simp only [Program.done_bind, Program.bind_def, hp, hs, ne_eq, not_true_eq_false,
        if_false] at h1
      obtain ⟨_, rfl, h2⟩ := Stretch.write_inv h1
      simp only [Program.done_bind, Program.bind_assoc] at h2
      obtain ⟨pre, es, rfl, hpre, tag, h3⟩ := Stretch.setPhase_inv h2
      rw [if_neg (by simp)] at tag
      exact .flashes he hp hs (.record rfl (.record rfl (hpre f))) tag h3
  · simp only [Program.done_bind, Program.bind_def, Program.pure_def, Program.bind_assoc, hp, ne_eq,
      not_false_eq_true, if_true] at h1
    obtain ⟨pre, tag, rfl, rfl⟩ := Stretch.rejects h1
    exact .refused _ hd (.record rfl pre) tag

/-- It may look at the record first. -/
theorem Opens.reads {errand : Errand} (h : Opens config f errand es f' q) :
    Opens config f errand (.does .read f.desk f :: es) f' q := by
  cases h with
  | refused text h pre tag => exact .refused text h (.record rfl pre) tag
  | connects h hpre tag body => exact .connects h (.record rfl hpre) tag body
  | flashes h hp hs hpre tag body => exact .flashes h hp hs (.record rfl hpre) tag body
  | disconnects hpre tag body => exact .disconnects (.record rfl hpre) tag body

/-- A flash of a choice looks at the record and at the choice, and is the flash of a source then. -/
theorem flashChoice_opens {choice : Choice}
    (h : Stretch ((Errand.flashChoice choice).program config) f es f' q) :
    Opens config f (.flashChoice choice) es f' q := by
  obtain ⟨_, rfl, h1⟩ := Stretch.read_inv h
  by_cases hp : f.desk.phase = .connected
  · cases hc : choice.resolve with
    | error fault =>
      simp only [Program.done_bind, Program.bind_def, Program.pure_def, Program.bind_assoc, hp, hc,
        ne_eq, not_true_eq_false, if_false] at h1
      obtain ⟨pre, tag, rfl, rfl⟩ := Stretch.complains h1
      exact .refused _ nofun (.record rfl pre) tag
    | ok source =>
      simp only [Program.done_bind, Program.bind_def, Program.pure_def, Program.bind_assoc, hp, hc,
        ne_eq, not_true_eq_false, if_false] at h1
      refine (flash_opens (fun r => .flashedChoice (r.mapError .flash)) rfl (fun r => ?_) h1).reads
      cases r <;> rfl
  · simp only [Program.done_bind, Program.bind_def, Program.pure_def, Program.bind_assoc, hp, ne_eq,
      not_false_eq_true, if_true] at h1
    obtain ⟨pre, tag, rfl, rfl⟩ := Stretch.rejects h1
    exact .refused _ nofun (.record rfl pre) tag

theorem disconnect_opens (h : Stretch (Errand.disconnect.program config) f es f' q) :
    Opens config f .disconnect es f' q := by
  obtain ⟨_, rfl, h1⟩ := Stretch.log_inv h
  obtain ⟨_, rfl, h2⟩ := Stretch.read_inv h1
  obtain ⟨_, rfl, h3⟩ := Stretch.write_inv h2
  simp only [Program.done_bind, Program.bind_def, Program.bind_assoc] at h3
  obtain ⟨pre, es, rfl, hpre, tag, h4⟩ := Stretch.setPhase_inv h3
  -- being idle accepts no call
  have none : Event.tags pre none = none := by
    rw [tag]
    split <;> rfl
  exact .disconnects (.log (.record rfl (.record rfl (hpre f)))) none h4

/-- **A call is refused, or it is accepted and goes on with its body.** -/
theorem Stretch.opens {errand : Errand} (h : Stretch (errand.program config) f es f' q) :
    Opens config f errand es f' q := by
  cases errand with
  | connect preferred => exact connect_opens h
  | flash source => exact flash_opens .flashed rfl (fun _ => rfl) h
  | flashChoice choice => exact flashChoice_opens h
  | disconnect => exact disconnect_opens h

/-! ### Progress -/

/-- What happens in a report: the record is read and written only for the right generation. -/
inductive Reports (f : Floor) (generation : Nat) (written total : UInt64) :
    List Event → Floor → Prop where
  | late (h : f.desk.generation ≠ generation) :
      Reports f generation written total [.does (.current generation) false f] f
  | counts (h : f.desk.generation = generation) (f' : Floor)
      (hf : f' = { f with desk := { f.desk with progress := percent written total } }) :
      Reports f generation written total [.does (.current generation) true f, .does .read f.desk f,
        .does (.write f'.desk) () f, .does (.progress (percent written total)) () f'] f'

/-- A report counts only if the generation is the record's. -/
theorem Stretch.reports {generation : Nat} {written total : UInt64} {q : Program Station Unit}
    (h : Stretch (reportProgress generation written total) f es f' q) :
    Reports f generation written total es f' := by
  obtain ⟨_, _, rfl, h1⟩ := Stretch.does_inv (.current generation) h rfl
  by_cases hg : f.desk.generation = generation
  · have yes : (f.desk.generation == generation) = true := beq_iff_eq.mpr hg
    simp only [StationOp.settle, yes, Program.bind_def] at h1 ⊢
    obtain ⟨_, rfl, h2⟩ := Stretch.read_inv h1
    obtain ⟨_, rfl, h3⟩ := Stretch.write_inv h2
    obtain ⟨_, _, rfl, h4⟩ := Stretch.does_inv (.progress _) h3 rfl
    obtain ⟨rfl, hf, rfl⟩ := Stretch.done_inv h4
    subst hf
    exact .counts hg _ rfl
  · have no : (f.desk.generation == generation) = false := beq_eq_false_iff_ne.mpr hg
    simp only [StationOp.settle, no] at h1 ⊢
    obtain ⟨rfl, hf, rfl⟩ := Stretch.done_inv h1
    subst hf
    exact .late hg

end

end FlashStation
