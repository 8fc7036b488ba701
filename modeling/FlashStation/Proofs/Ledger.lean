/-
# Every loader is accounted for

A call moves a loader between its hands, the record and what it has taken apart, and never copies
or drops one; only making one adds one. So over all calls each loader counts as often as it was
made, which is once, since no two loaders have the same number.

Key definitions: `Floor.stored`, `share`, `tally`, `Floor.Numbered`.
Key theorems: `Stretch.tally`, `Traffic.Run.ledger`, `Traffic.Run.share_le`,
`Traffic.Run.shares_le`, `Traffic.Run.apart_count`, `Traffic.Run.loaders_nodup`.
-/
import FlashStation.Proofs.Promises
import Mathlib.Algebra.Order.BigOperators.Group.Finset

namespace FlashStation

open Station Program Event

/-- The loader of the session in the record. -/
def Floor.stored (f : Floor) : List Loader := (f.desk.session.map (·.loader)).toList

/-- How often a loader is in a call's hands or was taken apart by it. -/
def share (l : Loader) (x : List Event) : Nat := (hands x).count l + (aparts x).count l

/-- How often a loader is in a call's hands, was taken apart by it, or is in the record. -/
def tally (l : Loader) (x : List Event) (f : Floor) : Nat := share l x + f.stored.count l

theorem share_pos {l : Loader} {x : List Event} :
    0 < share l x ↔ l ∈ hands x ∨ l ∈ aparts x := by
  rw [share, Nat.add_pos_iff_pos_or_pos, List.count_pos_iff, List.count_pos_iff]

section
variable {config : Config} {errand : Errand} {start f f' : Floor} {x es : List Event} {e : Event}
  {op : StationOp}

theorem tally_snoc (l : Loader) (hh : e.hand (hands x) = hands x) (ha : e.apart = none) :
    tally l (x ++ [e]) f = tally l x f := by
  simp [tally, share, hh, ha]

/-- Whatever a call does, no loader is copied or dropped, and only making one adds one. -/
theorem Duty.tally (h : Duty config errand x f op) (suggested : op.Answer) (l : Loader) :
    tally l (x ++ [.does op (op.settle suggested f).1 f]) (op.settle suggested f).2 +
      f.loaders.count l = tally l x f + (op.settle suggested f).2.loaders.count l := by
  cases h with
  | plain h =>
    rw [StationOp.plain_settle h, tally_snoc l ((idle_plain h _ f).hand _) (idle_plain h _ f).apart]
  | complains | reads | looks | changes | asks | shakes => rw [tally_snoc l rfl rfl]; rfl
  | @keeps desk h =>
    have same : Floor.stored { f with desk } = f.stored := by simp only [Floor.stored, h]
    rw [tally_snoc l (hand_keeps h _) rfl]
    simp only [FlashStation.tally, StationOp.settle, same]
  | @takes desk h =>
    have empty : Floor.stored { f with desk } = [] := by simp only [Floor.stored, h]; rfl
    have taken : hands (x ++ [.does (.write desk) () f]) = f.stored ++ hands x := by
      rw [hands_snoc, hand_takes h]
      rfl
    simp only [FlashStation.tally, share, StationOp.settle, empty, taken, aparts_snoc, apart,
      Option.toList_none, List.append_nil, List.count_append, List.count_nil]
    omega
  | @stores desk s h free hand =>
    have full : Floor.stored { f with desk } = [s.loader] := by simp only [Floor.stored, h]; rfl
    have empty : f.stored = [] := by simp only [Floor.stored, free]; rfl
    have given : hands (x ++ [.does (.write desk) () f]) = (hands x).erase s.loader := by
      rw [hands_snoc, hand_stores h free]
    have moved := (List.perm_cons_erase hand).count_eq l
    simp only [FlashStation.tally, share, StationOp.settle, empty, full, given, aparts_snoc, apart,
      Option.toList_none, List.append_nil, List.count_cons, List.count_nil] at moved ⊢
    omega
  | @attaches port baud romBaud =>
    simp only [FlashStation.tally, share, Floor.stored, StationOp.settle, hands_snoc, aparts_snoc,
      apart, Event.hand, Option.toList_none, List.append_nil, List.count_append, List.count_cons,
      List.count_nil]
    omega
  | @takesApart loader h =>
    have moved := (List.perm_cons_erase h).count_eq l
    simp only [FlashStation.tally, share, StationOp.settle, hands_snoc, aparts_snoc, apart,
      Event.hand, Option.toList_some, List.count_append, List.count_cons, List.count_nil] at moved ⊢
    omega

/-- Over a stretch, too. -/
theorem Stretch.tally {α : Type} {p q : Program Station α} (h : Stretch p f es f' q)
    (admits : (Duties config errand start).Admits x es) (l : Loader) :
    tally l (x ++ es) f' + f.loaders.count l = tally l x f + f'.loaders.count l := by
  induction h generalizing x with
  | ends a f => rw [List.append_nil]
  | waits hs => rw [tally_snoc l rfl rfl]
  | @does op next f f' es q hs suggested _ ih =>
    obtain ⟨may, admits⟩ := admits
    have duty : Duty config errand x f op := (may op rfl).duty
    have first := duty.tally suggested l
    have rest : FlashStation.tally l (x ++ [.does op (op.settle suggested f).1 f] ++ es) f' +
        (op.settle suggested f).2.loaders.count l =
      FlashStation.tally l (x ++ [.does op (op.settle suggested f).1 f])
        (op.settle suggested f).2 + f'.loaders.count l := ih admits
    rw [List.append_cons]
    omega

/-! ### The numbers of the loaders -/

/-- The loaders are numbered in the order of making. -/
def Floor.Numbered (f : Floor) : Prop := f.loaders.map (·.ticket) = List.range f.loaders.length

theorem Floor.Numbered.nodup (h : f.Numbered) : f.loaders.Nodup := by
  have tickets : (f.loaders.map (·.ticket)).Nodup := by
    rw [h]
    exact List.nodup_range
  exact tickets.of_map

theorem StationOp.settle_numbered (op : StationOp) (suggested : op.Answer) (h : f.Numbered) :
    (op.settle suggested f).2.Numbered := by
  cases op with
  | attach port baud romBaud =>
    show (f.loaders ++ [_]).map Loader.ticket = List.range (f.loaders ++ [_]).length
    rw [List.map_append, List.length_append, List.length_singleton, List.range_succ, h]
    rfl
  | _ => exact h

theorem Stretch.numbered {α : Type} {p q : Program Station α} (h : Stretch p f es f' q)
    (hf : f.Numbered) : f'.Numbered := by
  induction h with
  | ends | waits => exact hf
  | @does op _ f _ _ _ _ suggested _ ih => exact ih (op.settle_numbered suggested hf)

/-- A loader that is made in a stretch is there at the end of it. -/
theorem Stretch.keeps_made {α : Type} {p q : Program Station α} (h : Stretch p f es f' q)
    {l : Loader} (he : e ∈ es) (made : e.Attaches l) : l ∈ f'.loaders := by
  induction h with
  | ends => cases he
  | waits hs =>
    obtain ⟨g, rfl⟩ := made
    simp at he
  | @does op next f f' es q hs suggested rest ih =>
    rcases List.mem_cons.mp he with rfl | he
    · obtain ⟨g, he⟩ := made
      have there : l ∈ (op.settle suggested f).2.loaders := by
        cases op with
        | attach port baud romBaud =>
          injection he with _ answer
          rw [← answer]
          exact List.mem_append_right _ (.head _)
        | _ => cases he
      exact rest.loaders.1 there
    · exact ih he

/-- A loader that is made in a stretch was not there before. -/
theorem Stretch.fresh {α : Type} {p q : Program Station α} (h : Stretch p f es f' q)
    (hf : f.Numbered) {l : Loader} (he : e ∈ es) (made : e.Makes l) : l ∉ f.loaders := by
  induction h with
  | ends => cases he
  | waits hs =>
    rw [List.mem_singleton] at he
    subst he
    cases made
  | @does op next f f' es q hs suggested rest ih =>
    rcases List.mem_cons.mp he with rfl | he
    · cases made with
      | attach port baud romBaud =>
        -- its number is the number of the loaders so far
        intro there
        have number := List.mem_map_of_mem (f := Loader.ticket) there
        rw [hf, List.mem_range] at number
        exact Nat.lt_irrefl _ number
    · intro there
      exact ih (op.settle_numbered suggested hf) he ((op.settle_loaders suggested f).1 there)

end

namespace Traffic

open Finset (range)

variable {config : Config} {t t' : Traffic} {log : List Deed} {i : Nat} {es : List Event}

theorem Step.numbered (hs : Step config t i es t') (h : t.floor.Numbered) :
    t'.floor.Numbered := by
  cases hs with
  | begins _ stretch => exact stretch.numbered h
  | resumes _ _ _ stretch => exact stretch.numbered h
  | reports _ _ _ _ stretch => exact stretch.numbered h

/-- No loader goes away, and each that is made is there. -/
theorem Step.keeps_made (hs : Step config t i es t') {l : Loader}
    (h : l ∈ t.floor.loaders ∨ ∃ e ∈ es, e.Attaches l) : l ∈ t'.floor.loaders := by
  rcases h with h | ⟨e, he, made⟩
  · cases hs with
    | begins _ stretch => exact stretch.loaders.1 h
    | resumes _ _ _ stretch => exact stretch.loaders.1 h
    | reports _ _ _ _ stretch => exact stretch.loaders.1 h
  · cases hs with
    | begins _ stretch => exact stretch.keeps_made he made
    | resumes _ _ _ stretch =>
      rcases List.mem_cons.mp he with rfl | he
      · obtain ⟨_, he⟩ := made
        cases he
      · exact stretch.keeps_made he made
    | reports _ _ _ _ stretch => exact stretch.keeps_made he made

theorem Run.numbered (run : Run config .new log t) : t.floor.Numbered := by
  induction run with
  | here => rfl
  | step _ hs ih => exact hs.numbered ih

/-- No two loaders that were made are the same. -/
theorem Run.loaders_nodup (run : Run config .new log t) : t.floor.loaders.Nodup :=
  run.numbered.nodup

/-- A loader that is made in a step was not there before. -/
theorem Step.fresh (hs : Step config t i es t') (h : t.floor.Numbered) {e : Event} (he : e ∈ es)
    {l : Loader} (made : e.Makes l) : l ∉ t.floor.loaders := by
  cases hs with
  | begins _ stretch => exact stretch.fresh h he made
  | resumes _ _ _ stretch =>
    rcases List.mem_cons.mp he with rfl | he
    · cases made
    · exact stretch.fresh h he made
  | reports _ _ _ _ stretch => exact stretch.fresh h he made

/-- Each loader that was made some time is there. -/
theorem Run.keeps_made (run : Run config .new log t) {e : Event}
    (he : e ∈ log.flatMap (·.events)) {l : Loader} (made : e.Attaches l) :
    l ∈ t.floor.loaders := by
  induction run with
  | here => cases he
  | step _ hs ih =>
    rw [List.flatMap_append, List.flatMap_singleton, List.mem_append] at he
    rcases he with he | he
    · exact hs.keeps_made (.inl (ih he))
    · exact hs.keeps_made (.inr ⟨e, he, made⟩)

/-! ### The ledger -/

/-- A step other than a report neither copies nor drops a loader. -/
theorem Step.tally (run : Run config .new log t) (hs : Step config t i es t')
    (hr : Deed.report ⟨i, es, t.floor, t'.floor⟩ = false) (l : Loader) :
    tally l (diary log i ++ es) t'.floor + t.floor.loaders.count l =
      tally l (diary log i) t.floor + t'.floor.loaders.count l := by
  obtain ⟨c, hc⟩ := hs.caller
  have admits := run.admits hs hc hr
  cases hs with
  | begins errand h => exact h.tally admits l
  | @resumes _ _ op _ _ _ answer es _ _ h =>
    obtain ⟨_, admits⟩ := admits
    have rest := h.tally admits l
    have woken : FlashStation.tally l (diary log i ++ [.wakes op answer t.floor]) t.floor =
      FlashStation.tally l (diary log i) t.floor := tally_snoc l rfl rfl
    rw [List.append_cons, ← woken]
    exact rest
  | reports _ _ _ _ h =>
    have reports := h.reports
    cases reports <;> cases hr

/-- Over all calls, a quantity that is told by the diaries changes in a step as it changes for the
caller. -/
theorem Step.sum (run : Run config .new log t) (hs : Step config t i es t')
    (hr : Deed.report ⟨i, es, t.floor, t'.floor⟩ = false) (φ : List Event → Nat) (hφ : φ [] = 0) :
    ∑ j ∈ range t'.calls.length, φ (diary (log ++ [⟨i, es, t.floor, t'.floor⟩]) j) +
        φ (diary log i) =
      ∑ j ∈ range t.calls.length, φ (diary log j) + φ (diary log i ++ es) := by
  obtain ⟨longer, short⟩ := hs.caller_lt
  have callers := (run.kept (promised config)).callers
  -- a call that is made now had no diary
  have extend : ∑ j ∈ range t.calls.length, φ (diary log j) =
      ∑ j ∈ range t'.calls.length, φ (diary log j) := by
    refine Finset.sum_subset (Finset.range_subset_range.mpr longer) fun j _ hj => ?_
    have fresh : ∀ d ∈ log, d.caller ≠ j := fun d hd => by
      have := callers d hd
      simp only [Finset.mem_range] at hj
      omega
    rw [diary_none fresh, hφ]
  have others : ∑ j ∈ (range t'.calls.length).erase i,
        φ (diary (log ++ [⟨i, es, t.floor, t'.floor⟩]) j) =
      ∑ j ∈ (range t'.calls.length).erase i, φ (diary log j) := by
    refine Finset.sum_congr rfl fun j hj => ?_
    rw [diary_other (.inl (Ne.symm (Finset.ne_of_mem_erase hj)))]
  have mem : i ∈ range t'.calls.length := Finset.mem_range.mpr short
  have after := Finset.add_sum_erase _ (fun j =>
    φ (diary (log ++ [⟨i, es, t.floor, t'.floor⟩]) j)) mem
  have before := Finset.add_sum_erase _ (fun j => φ (diary log j)) mem
  have own : diary (log ++ [⟨i, es, t.floor, t'.floor⟩]) i = diary log i ++ es := diary_own rfl hr
  rw [own] at after
  omega

/-- A report is in no diary. -/
theorem Step.sum_report (hs : Step config t i es t')
    (hr : Deed.report ⟨i, es, t.floor, t'.floor⟩ = true) (φ : List Event → Nat) :
    ∑ j ∈ range t'.calls.length, φ (diary (log ++ [⟨i, es, t.floor, t'.floor⟩]) j) =
      ∑ j ∈ range t.calls.length, φ (diary log j) := by
  rw [(hs.reported hr).1]
  refine Finset.sum_congr rfl fun j _ => ?_
  rw [diary_other (.inr hr)]

/-- A report takes no loader apart, and leaves the loaders and the session as they are. -/
theorem Reports.harmless {f f' : Floor} {g : Nat} {written total : UInt64}
    (h : Reports f g written total es f') :
    aparts es = [] ∧ f'.stored = f.stored ∧ f'.loaders = f.loaders := by
  cases h with
  | late => exact ⟨rfl, rfl, rfl⟩
  | counts _ _ hf =>
    subst hf
    exact ⟨rfl, rfl, rfl⟩

/-- **The ledger.** Each loader is as often in the hands of a call, taken apart by one or in the
record as it was made. -/
theorem Run.ledger (run : Run config .new log t) (l : Loader) :
    ∑ j ∈ range t.calls.length, share l (diary log j) + t.floor.stored.count l =
      t.floor.loaders.count l := by
  induction run with
  | here => rfl
  | @step log t t' i es run hs ih =>
    cases hr : Deed.report ⟨i, es, t.floor, t'.floor⟩ with
    | true =>
      obtain ⟨_, _, _, _, reports⟩ := hs.reported hr
      obtain ⟨_, stored, loaders⟩ := Reports.harmless reports
      rw [hs.sum_report hr (share l), stored, loaders]
      exact ih
    | false =>
      have shares := hs.sum run hr (share l) rfl
      have moved := hs.tally run hr l
      simp only [FlashStation.tally] at moved
      omega

/-- A loader is with one call or in the record, and only once. -/
theorem Run.share_le (run : Run config .new log t) (l : Loader) (hi : i ∈ range t.calls.length) :
    share l (diary log i) + t.floor.stored.count l ≤ 1 := by
  have once := List.nodup_iff_count_le_one.mp run.loaders_nodup l
  have ledger := run.ledger l
  have part := Finset.single_le_sum (f := fun j => share l (diary log j))
    (fun _ _ => Nat.zero_le _) hi
  omega

/-- A loader is not with two calls. -/
theorem Run.shares_le (run : Run config .new log t) (l : Loader) {j : Nat}
    (hi : i ∈ range t.calls.length) (hj : j ∈ range t.calls.length) (other : i ≠ j) :
    share l (diary log i) + share l (diary log j) ≤ 1 := by
  have once := List.nodup_iff_count_le_one.mp run.loaders_nodup l
  have ledger := run.ledger l
  have parts := Finset.add_le_sum (f := fun j => share l (diary log j))
    (fun _ _ => Nat.zero_le _) hi hj other
  omega

/-- The calls have taken apart what was taken apart in the run. -/
theorem Run.apart_count (run : Run config .new log t) (l : Loader) :
    ∑ j ∈ range t.calls.length, (aparts (diary log j)).count l =
      (aparts (log.flatMap (·.events))).count l := by
  induction run with
  | here => rfl
  | @step log t t' i es run hs ih =>
    have longer (x y : List Event) : aparts (x ++ y) = aparts x ++ aparts y :=
      List.filterMap_append
    rw [List.flatMap_append, List.flatMap_singleton, longer, List.count_append, ← ih]
    show _ = _ + (aparts es).count l
    cases hr : Deed.report ⟨i, es, t.floor, t'.floor⟩ with
    | true =>
      obtain ⟨_, _, _, _, reports⟩ := hs.reported hr
      rw [hs.sum_report hr (fun x => (aparts x).count l), (Reports.harmless reports).1]
      rfl
    | false =>
      have shares := hs.sum run hr (fun x => (aparts x).count l) rfl
      rw [longer, List.count_append] at shares
      omega

end Traffic

end FlashStation
