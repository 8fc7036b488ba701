/-
# What happened in a call so far

The diary of a call holds what happened in it, from its beginning on and across its waits. The
reports of a loader that writes are not in it, since the call waits on through them.

A conduct that notes the diary lets a call promise something with regard to all of its past. If the
programs of all calls conform to such a conduct, then in each run every step does what is promised,
and what was promised for a wait or for the end of a call holds of its diary from then on.

Key definitions: `Program.Performs`, `Conduct.ofDiary`, `Program.Stands`, `Traffic.diary`,
`Traffic.Kept`.
Key theorems: `Program.conforms_along`, `Stretch.stands`, `Traffic.Kept.step`,
`Traffic.Run.kept`.
-/
import FlashStation.Proofs.Superseded

namespace FlashStation

open Station Program

variable {α : Type}

namespace Program

/-- What happens while a program goes on until `q` is left of it. -/
inductive Performs (p : Program Station α) : List Event → Program Station α → Prop where
  | here : Performs p [] p
  | does {es : List Event} {op : StationOp} {next : op.Answer → Program Station α}
      (h : Performs p es (.call op next)) (hs : op.suspends = false) (suggested : op.Answer)
      (f : Floor) : Performs p (es ++ [.does op (op.settle suggested f).1 f])
        (next (op.settle suggested f).1)
  | answered {es : List Event} {op : StationOp} {next : op.Answer → Program Station α}
      (h : Performs p es (.call op next)) (hs : op.suspends = true) (f : Floor)
      (answer : op.Answer) (f' : Floor) :
      Performs p (es ++ [.starts op f] ++ [.wakes op answer f']) (next answer)

/-- An invariant that tells of the program that is left: if it allows each operation and each
answer keeps it, the program conforms. -/
theorem conforms_along {γ : Type} {C : Conduct γ} {I : Program Station α → γ → Floor → Prop}
    (may : ∀ {op next x f}, I (.call op next) x f → C.may x f op)
    (does : ∀ {op next x f}, I (.call op next) x f → op.suspends = false → ∀ suggested,
      I (next (op.settle suggested f).1) (C.note x (.does op (op.settle suggested f).1 f))
        (op.settle suggested f).2)
    (wakes : ∀ {op next x f}, I (.call op next) x f → op.suspends = true → ∀ answer f',
      C.rely (C.note x (.starts op f)) f f' →
        I (next answer) (C.note (C.note x (.starts op f)) (.wakes op answer f')) f')
    {p : Program Station α} {x : γ} {f : Floor} (h : I p x f) :
    p.Conforms C (fun a => I (.done a)) x f := by
  induction p generalizing x f with
  | done a => exact h
  | call op next ih =>
    refine ⟨may h, ?_⟩
    cases hs : op.suspends with
    | true =>
      simp only [↓reduceIte]
      exact fun answer f' hr => ih answer (wakes h hs answer f' hr)
    | false =>
      simp only [Bool.false_eq_true, ↓reduceIte]
      exact fun suggested => ih _ (does h hs suggested)

end Program

/-- The conduct of a call that notes all that happens in it. -/
def Conduct.ofDiary (may : List Event → Floor → StationOp → Prop) : Conduct (List Event) where
  note x e := x ++ [e]
  may
  rely x := Drift (Event.tags x none)

variable {may : List Event → Floor → StationOp → Prop}

theorem Conduct.ofDiary_notes (es x : List Event) :
    es.foldl (Conduct.ofDiary may).note x = x ++ es := by
  induction es generalizing x with
  | nil => exact (List.append_nil x).symm
  | cons e es ih => exact (ih (x ++ [e])).trans (List.append_assoc x [e] es)

/-- What happens later is judged with regard to what happened before. -/
theorem Conduct.ofDiary_append {x es es' : List Event} :
    (Conduct.ofDiary may).Admits x (es ++ es') ↔
      (Conduct.ofDiary may).Admits x es ∧ (Conduct.ofDiary may).Admits (x ++ es) es' := by
  rw [admits_append, ofDiary_notes]

/-- Each operation was allowed with regard to what had happened before. -/
theorem Conduct.admits_at {x pre post : List Event} {e : Event} {op : StationOp}
    (h : (Conduct.ofDiary may).Admits x (pre ++ e :: post)) (ho : e.performed = some op) :
    may (x ++ pre) e.floor op :=
  (ofDiary_append.mp h).2.1 op ho

/-- How things stand with a call whose diary is `x` when it gives way to others on the floor `f`:
it is over and ended in `Q`, or it waits for an operation that was allowed, and goes on to
conform. -/
def Program.Stands (may : List Event → Floor → StationOp → Prop)
    (Q : α → List Event → Floor → Prop) (x : List Event) (f : Floor) : Program Station α → Prop
  | .done a => Q a x f
  | .call op next => (op.suspends = true ∧ ∃ before, x = before ++ [.starts op f] ∧
      may before f op) ∧
      ∀ answer f', Drift (Event.tags x none) f f' →
        (next answer).Conforms (.ofDiary may) Q (x ++ [.wakes op answer f']) f'

/-- A stretch of a program that conforms does what is promised. -/
theorem Stretch.stands {Q : α → List Event → Floor → Prop} {p q : Program Station α}
    {f f' : Floor} {es x : List Event} (h : Stretch p f es f' q)
    (hp : p.Conforms (.ofDiary may) Q x f) :
    (Conduct.ofDiary may).Admits x es ∧ q.Stands may Q (x ++ es) f' := by
  refine ⟨(h.conforms hp).1, ?_⟩
  induction h generalizing x with
  | ends a f =>
    rw [List.append_nil]
    exact hp
  | @waits op next f hs =>
    obtain ⟨hm, hn⟩ := hp
    simp only [hs, ↓reduceIte] at hn
    exact ⟨⟨hs, x, rfl, hm⟩, hn⟩
  | @does op next f f' es q hs suggested _ ih =>
    obtain ⟨_, hn⟩ := hp
    simp only [hs, Bool.false_eq_true, ↓reduceIte] at hn
    rw [← List.singleton_append, ← List.append_assoc]
    exact ih (hn suggested)

namespace Traffic

/-! ### The diaries of all calls -/

/-- Whether a deed is a report of a loader: only these begin with a look at the generation. -/
def Deed.report (d : Deed) : Bool :=
  match d.events with
  | .does (.current _) _ _ :: _ => true
  | _ => false

/-- What happened in the call at a place, but for reports. -/
def diary (log : List Deed) (i : Nat) : List Event :=
  (log.filter fun d => d.caller == i && !d.report).flatMap (·.events)

variable {config : Config} {t t' : Traffic} {log : List Deed} {i j : Nat} {c : Call}
  {es : List Event}

theorem diary_own {d : Deed} (hd : d.caller = i) (hr : d.report = false) :
    diary (log ++ [d]) i = diary log i ++ d.events := by
  have keep : [d].filter (fun d => d.caller == i && !d.report) = [d] :=
    List.filter_cons_of_pos (by simp [hd, hr])
  rw [diary, List.filter_append, keep, List.flatMap_append, List.flatMap_singleton, ← diary]

theorem diary_other {d : Deed} (hd : d.caller ≠ i ∨ d.report = true) :
    diary (log ++ [d]) i = diary log i := by
  have skip : [d].filter (fun d => d.caller == i && !d.report) = [] :=
    List.filter_cons_of_neg (by rcases hd with h | h <;> simp [h])
  rw [diary, List.filter_append, skip, List.append_nil, ← diary]

/-- Before a call is made nothing happens in it. -/
theorem diary_none (h : ∀ d ∈ log, d.caller ≠ i) : diary log i = [] := by
  have none : log.filter (fun d => d.caller == i && !d.report) = [] :=
    List.filter_eq_nil_iff.mpr fun d hd => by simp [h d hd]
  rw [diary, none, List.flatMap_nil]

theorem mem_diary {e : Event} (h : e ∈ diary log i) :
    ∃ d ∈ log, d.caller = i ∧ d.report = false ∧ e ∈ d.events := by
  obtain ⟨d, hd, he⟩ := List.mem_flatMap.mp h
  obtain ⟨hd, keep⟩ := List.mem_filter.mp hd
  simp only [Bool.and_eq_true, beq_iff_eq, Bool.not_eq_true'] at keep
  exact ⟨d, hd, keep.1, keep.2, he⟩

/-- The first operation of a call is no look at the generation. -/
theorem Step.begins_report {errand : Errand} {f f' : Floor} {q : Program Station Result}
    (h : Stretch (errand.program config) f es f' q) : Deed.report ⟨i, es, f, f'⟩ = false := by
  cases errand <;> cases h <;> rfl

theorem Step.caller_lt (hs : Step config t i es t') :
    t.calls.length ≤ t'.calls.length ∧ i < t'.calls.length := by
  cases hs with
  | begins => exact ⟨by simp, by simp⟩
  | resumes hc => exact ⟨by simp, by simpa using (List.getElem?_eq_some_iff.mp hc).1⟩
  | reports hc => exact ⟨Nat.le_refl _, (List.getElem?_eq_some_iff.mp hc).1⟩

theorem Step.caller (hs : Step config t i es t') : ∃ c, t'.calls[i]? = some c :=
  ⟨_, List.getElem?_eq_getElem hs.caller_lt.2⟩

/-- A call that was made before and takes a step was still under way. -/
theorem Step.pending (hs : Step config t i es t') (hc : t.calls[i]? = some c) :
    c.pending = true := by
  cases hs with
  | begins errand h =>
    rw [List.getElem?_eq_none (Nat.le_refl _)] at hc
    cases hc
  | resumes hd hw =>
    rw [hd] at hc
    cases hc
    rw [Call.pending, hw]
  | reports hd hw =>
    rw [hd] at hc
    cases hc
    rw [Call.pending, hw]

/-- A report is told from other deeds by its first event. -/
theorem Step.reported (hs : Step config t i es t')
    (hr : Deed.report ⟨i, es, t.floor, t'.floor⟩ = true) :
    t'.calls = t.calls ∧ ∃ g written total, Reports t.floor g written total es t'.floor := by
  cases hs with
  | begins errand h =>
    rw [Step.begins_report h] at hr
    cases hr
  | resumes => cases hr
  | reports _ _ written total h => exact ⟨rfl, _, written, total, h.reports⟩

/-- A step changes no call but the caller's. -/
theorem Step.others (hs : Step config t i es t') (hj : j ≠ i) : t'.calls[j]? = t.calls[j]? := by
  cases hs with
  | begins => exact (getElem?_snoc _ _).1 j hj
  | resumes => exact List.getElem?_set_ne (Ne.symm hj)
  | reports => rfl

/-- A call has done what is promised so far, and waits or is over as it should, with regard to its
diary `x`. -/
structure Faithful (may : Errand → Floor → List Event → Floor → StationOp → Prop)
    (Q : Errand → Floor → Result → List Event → Floor → Prop) (x : List Event) (c : Call)
    (now : Floor) : Prop where
  tag : Event.tags x none = c.tag
  admits : (Conduct.ofDiary (may c.errand c.start)).Admits [] x
  stands : ∃ f, (c.pending = true → Drift c.tag f now) ∧
    c.rest.Stands (may c.errand c.start) (Q c.errand c.start) x f

/-- What is promised for all calls has been kept in a run. -/
structure Kept (may : Errand → Floor → List Event → Floor → StationOp → Prop)
    (Q : Errand → Floor → Result → List Event → Floor → Prop) (log : List Deed) (t : Traffic) :
    Prop where
  callers : ∀ d ∈ log, d.caller < t.calls.length
  calls : ∀ {i : Nat} {c : Call}, t.calls[i]? = some c → Faithful may Q (diary log i) c t.floor

/-- The programs of all calls conform, from their beginning on. -/
def Promised (config : Config) (may : Errand → Floor → List Event → Floor → StationOp → Prop)
    (Q : Errand → Floor → Result → List Event → Floor → Prop) : Prop :=
  ∀ (errand : Errand) (start : Floor),
    (errand.program config).Conforms (.ofDiary (may errand start)) (Q errand start) [] start

variable {may : Errand → Floor → List Event → Floor → StationOp → Prop}
  {Q : Errand → Floor → Result → List Event → Floor → Prop}

/-- A call that takes a step does what is promised. -/
theorem Kept.own (kept : Kept may Q log t) (promised : Promised config may Q)
    (hs : Step config t i es t') (hc : t'.calls[i]? = some c)
    (hr : Deed.report ⟨i, es, t.floor, t'.floor⟩ = false) :
    Event.tags (diary log i ++ es) none = c.tag ∧
      (Conduct.ofDiary (may c.errand c.start)).Admits [] (diary log i ++ es) ∧
      c.rest.Stands (may c.errand c.start) (Q c.errand c.start) (diary log i ++ es) t'.floor := by
  cases hs with
  | begins errand h =>
    rw [List.getElem?_concat_length] at hc
    cases hc
    rw [diary_none fun d hd => Nat.ne_of_lt (kept.callers d hd), List.nil_append]
    exact ⟨rfl, h.stands (promised errand t.floor)⟩
  | @resumes _ d op next hd hw answer es f q h =>
    rw [List.getElem?_set_self (List.getElem?_eq_some_iff.mp hd).1] at hc
    cases hc
    obtain ⟨tag, before, g, drift, stands⟩ := kept.calls hd
    have hp : d.pending = true := by rw [Call.pending, hw]
    rw [hw] at stands
    obtain ⟨admits, stands⟩ := h.stands (stands.2 answer t.floor (tag ▸ drift hp))
    have woken : diary log i ++ .wakes op answer t.floor :: es =
        diary log i ++ [.wakes op answer t.floor] ++ es := by rw [List.append_assoc]; rfl
    refine ⟨?_, ?_, woken ▸ stands⟩
    · rw [Event.tags_append, tag]
      rfl
    · exact Conduct.ofDiary_append.mpr ⟨before, fun _ ho => (by cases ho), admits⟩
  | reports _ _ _ _ h =>
    have reports := h.reports
    cases reports <;> cases hr

theorem Kept.step (kept : Kept may Q log t) (promised : Promised config may Q)
    (h : Reach config t) (hs : Step config t i es t') :
    Kept may Q (log ++ [⟨i, es, t.floor, t'.floor⟩]) t' := by
  obtain ⟨longer, short⟩ := hs.caller_lt
  -- a call that did not go on stands as before
  have others {j : Nat} {c : Call} (hc : t.calls[j]? = some c)
      (drift : c.pending = true → Drift c.tag t.floor t'.floor)
      (same : diary (log ++ [⟨i, es, t.floor, t'.floor⟩]) j = diary log j) :
      Faithful may Q (diary (log ++ [⟨i, es, t.floor, t'.floor⟩]) j) c t'.floor := by
    obtain ⟨tag, admits, f, before, stands⟩ := kept.calls hc
    rw [same]
    exact ⟨tag, admits, f, fun hp => (before hp).trans (drift hp), stands⟩
  refine ⟨fun d hd => ?_, fun {j c} hc => ?_⟩
  · rcases List.mem_append.mp hd with hd | hd
    · exact Nat.lt_of_lt_of_le (kept.callers d hd) longer
    · rw [List.mem_singleton.mp hd]
      exact short
  · cases hr : Deed.report ⟨i, es, t.floor, t'.floor⟩ with
    | true =>
      obtain ⟨same, _, _, _, reports⟩ := hs.reported hr
      exact others (same ▸ hc) (fun _ => reports.drift _) (diary_other (.inr hr))
    | false =>
      by_cases hj : j = i
      · subst hj
        obtain ⟨tag, admits, stands⟩ := kept.own promised hs hc hr
        rw [diary_own rfl hr]
        exact ⟨tag, admits, t'.floor, fun _ => .refl _ _, stands⟩
      · rw [hs.others hj] at hc
        exact others hc (fun hp => h.orderly.drift (h.move hs) hc hp hj)
          (diary_other (.inl (Ne.symm hj)))

/-- **What all calls promise is kept in each run.** -/
theorem Run.kept (promised : Promised config may Q) (run : Run config .new log t) :
    Kept may Q log t := by
  induction run with
  | here =>
    refine ⟨fun d hd => absurd hd List.not_mem_nil, fun {i c} hc => ?_⟩
    cases hc
  | step run hs ih => exact ih.step promised ⟨_, run⟩ hs

end Traffic

end FlashStation
