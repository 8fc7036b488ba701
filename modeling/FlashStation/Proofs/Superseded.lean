/-
# A superseded call is inert

A call is late if it does not have the station: it was superseded, or it is a disconnect, which
never carries a generation after its first word. What a late call does in a step leaves the floor
as it is and is inert. Generations are never taken back, so a call that was superseded stays late,
and a session of an older generation is gone for good.

Key theorems: `Traffic.Move.late`, `Traffic.Orderly.later`, `superseded_inert`.
-/
import FlashStation.Proofs.Order

namespace FlashStation

namespace Traffic

variable {config : Config} {t t' : Traffic} {i j : Nat} {c : Call} {es : List Event}

/-- A call that was made stays at its place; only its own steps change what it has still to do. -/
theorem Move.place (hm : Move config t i es t') (hc : t.calls[j]? = some c) :
    ∃ c', t'.calls[j]? = some c' ∧ c'.errand = c.errand ∧ c'.start = c.start ∧ c'.tag = c.tag ∧
      (j ≠ i → c' = c) := by
  have short : j < t.calls.length := (List.getElem?_eq_some_iff.mp hc).1
  cases hm with
  | refused | accepted =>
    exact ⟨c, (List.getElem?_append_left short).trans hc, rfl, rfl, rfl, fun _ => rfl⟩
  | @resumed i d op answer es f' q hd hp ran =>
    by_cases hj : j = i
    · subst hj
      rw [hd] at hc
      cases hc
      exact ⟨_, List.getElem?_set_self short, rfl, rfl, rfl, fun h => absurd rfl h⟩
    · exact ⟨c, (List.getElem?_set_ne (Ne.symm hj)).trans hc, rfl, rfl, rfl, fun _ => rfl⟩
  | reported => exact ⟨c, hc, rfl, rfl, rfl, fun _ => rfl⟩

/-- The generation is never taken back. -/
theorem Orderly.later (h : Orderly config t) (hm : Move config t i es t') :
    t.floor.desk.generation ≤ t'.floor.desk.generation := by
  cases hm with
  | refused => exact Nat.le_refl _
  | @accepted errand f f' tag pre es q ha hpre ran =>
    have turn := h.accepted (q := q) ha
    exact Nat.le_trans turn.later (Nat.le_of_eq (ran.generation turn.sound turn.fits).symm)
  | @resumed i d op answer es f' q hd hp ran =>
    have turn := h.resumed hd hp q
    exact Nat.le_of_eq (ran.generation turn.sound turn.fits).symm
  | reported _ _ _ hr =>
    cases hr with
    | late => exact Nat.le_refl _
    | counts _ _ hf => exact Nat.le_of_eq (by rw [hf])

theorem Run.later (h : Reach config t) {log : List Deed} (run : Run config t log t') :
    t.floor.desk.generation ≤ t'.floor.desk.generation := by
  induction run with
  | here => exact Nat.le_refl _
  | step run hs ih =>
    have reach := run.reach h
    exact Nat.le_trans ih (reach.orderly.later (reach.move hs))

/-- A step of a late call leaves the floor as it is, and all it performs is inert. -/
theorem Move.late (hm : Move config t i es t') (hc : t.calls[i]? = some c)
    (late : Late c.tag t.floor.desk) :
    t'.floor = t.floor ∧ ∀ e ∈ es, e.floor = t.floor ∧ ∀ op, e.performed = some op → op.Inert := by
  have past : t.calls[t.calls.length]? = none := List.getElem?_eq_none (Nat.le_refl _)
  cases hm with
  | refused | accepted => rw [past] at hc; cases hc
  | resumed hd hp ran =>
    rw [hd] at hc
    cases hc
    obtain ⟨same, floors⟩ := ran.idle late
    refine ⟨same, List.forall_mem_cons.mpr ⟨⟨rfl, fun _ ho => by cases ho⟩, fun e he => ?_⟩⟩
    exact ⟨floors e he, fun op ho => (ran.proper e he op ho).inert late⟩
  | reported hd hp ht hr =>
    rw [hd] at hc
    cases hc
    cases hr with
    | late =>
      refine ⟨rfl, List.forall_mem_singleton.mpr ⟨rfl, ?_⟩⟩
      rintro _ ⟨⟩
      rfl
    | counts hg => exact absurd (late _ ht) (hg ▸ Nat.lt_irrefl _)

/-- A call that was superseded stays so, whoever goes on. -/
theorem Run.superseded (h : Reach config t) {g : Nat} (hc : t.calls[i]? = some c)
    (ht : c.tag = some g) (hg : g < t.floor.desk.generation) {log : List Deed}
    (run : Run config t log t') :
    (∃ c', t'.calls[i]? = some c' ∧ c'.tag = some g) ∧ g < t'.floor.desk.generation := by
  refine ⟨?_, Nat.lt_of_lt_of_le hg (run.later h)⟩
  induction run with
  | here => exact ⟨c, hc, ht⟩
  | step run hs ih =>
    obtain ⟨c', hc', ht'⟩ := ih
    obtain ⟨d, hd, _, _, tag, _⟩ := ((run.reach h).move hs).place hc'
    exact ⟨d, hd, tag.trans ht'⟩

end Traffic

open Traffic

section
variable {config : Config} {t t' : Traffic}

/-- **A superseded call is inert.** Once a connect or a flash under way carries another generation
than the record, it never has the station again. Whatever it still does leaves the record and the
loaders as they are; it writes nothing to the record, tells nothing to the observer or to the
caller of a flash, makes no loader and asks none for anything. And a session of an older
generation is never put back, by whomever. -/
theorem superseded_inert (h : Reach config t) {i g : Nat} {c : Call} (hc : t.calls[i]? = some c)
    (hp : c.pending = true) (ht : c.tag = some g) (hg : g ≠ t.floor.desk.generation)
    {log : List Deed} (run : Run config t log t') :
    g ≠ t'.floor.desk.generation ∧
    (∀ d ∈ log, d.caller = i → d.after = d.before ∧
      ∀ e ∈ d.events, e.floor = d.before ∧ ∀ op, e.performed = some op → op.Inert) ∧
    ∀ s : Session, s.generation < t.floor.desk.generation → t'.floor.desk.session ≠ some s := by
  have bound := (h.orderly.fits c (List.mem_of_getElem? hc) hp).bound ht
  have older : g < t.floor.desk.generation := Nat.lt_of_le_of_ne bound hg
  refine ⟨Nat.ne_of_lt (run.superseded h hc ht older).2, ?_, fun s hs he => ?_⟩
  -- over the run: at each step of its own the call is still late
  · induction run with
    | here => exact List.forall_mem_nil _
    | @step log t' t'' j es run hs ih =>
      obtain ⟨⟨c', hc', ht'⟩, past⟩ := run.superseded h hc ht older
      refine List.forall_mem_append.mpr ⟨ih, List.forall_mem_singleton.mpr ?_⟩
      rintro rfl
      have late : Late c'.tag t'.floor.desk := fun g' e => by
        rw [ht'] at e
        cases e
        exact past
      exact ((run.reach h).move hs).late hc' late
  · have now := (run.reach h).orderly.sound.coherent.generation s he
    have later := run.later h
    omega

/-- A connect that waits, and after it a disconnect. -/
def Traffic.abandoned : Traffic :=
  (Traffic.new.begin .default (obliging default .closed) (.connect none)).begin .default
    (obliging default .closed) .disconnect

/-- The connect that was superseded goes on to its end, and leaves everything as it is. -/
theorem abandoned_inert :
    let later := Traffic.abandoned.carryOn (obliging default .closed) 0 2
    later.calls[0]?.map Call.pending = some false ∧
      ∃ log, Run .default .abandoned log later ∧ ∀ d ∈ log, d.caller = 0 → d.after = d.before := by
  have reach : Reach .default .abandoned := (Reach.new.begin _ _).begin _ _
  have first : Traffic.abandoned.calls[0]?.map (fun c => (c.pending, c.tag)) =
      some (true, some 1) := by
    decide +kernel
  obtain ⟨c, hc, look⟩ := Option.map_eq_some_iff.mp first
  obtain ⟨hp, ht⟩ := Prod.mk.inj look
  have older : 1 ≠ Traffic.abandoned.floor.desk.generation := by decide +kernel
  obtain ⟨log, run⟩ := Run.here.carryOn (obliging default .closed) 0 2
  have inert := (superseded_inert reach hc hp ht older run).2.1
  exact ⟨by decide +kernel, log, run, fun d hd hi => (inert d hd hi).1⟩

end

end FlashStation
