/-
# Where each loader is

A loader that was made is in one place at any time: in the hands of the connect that made it, in
the record as the session's, in the hands of a flash, with a call that is releasing it, or released.
A call is releasing a loader if it took it over with the session of an earlier connect, which it
does not put back, or if it took it apart and is amid bringing its port back to the closed state.

Key definitions: `Place`, `Located`.
Key theorems: `Traffic.Run.located`, `Traffic.Run.unique`, `loader_in_one_place`.
-/
import FlashStation.Proofs.Ledger
import FlashStation.Proofs.Ownership

namespace FlashStation

open Station Program Event Traffic

/-- A place where a loader can be; calls are told by their places among all calls. -/
inductive Place where
  /-- In the hands of the connect that made it. -/
  | connect (caller : Nat)
  /-- In the record. -/
  | session
  /-- In the hands of a flash. -/
  | flash (caller : Nat)
  /-- With a call that is releasing it. -/
  | releasing (caller : Nat)
  /-- Released by a call. -/
  | released (caller : Nat)
  deriving DecidableEq, Repr

/-- The call that has to do with a place. -/
def Place.caller : Place → Option Nat
  | .session => none
  | .connect i | .flash i | .releasing i | .released i => some i

/-- Where a loader is after a run. It is being released by a call that took it over and does not use
it to flash, and by a call that took it apart and waits for what brings its port back to the closed
state. -/
inductive Located (config : Config) (log : List Deed) (t : Traffic) (l : Loader) :
    Place → Prop where
  | connect {i : Nat} {c : Call} (hc : t.calls[i]? = some c) (hp : c.pending = true)
      (he : c.errand.isConnect = true) (made : Made (diary log i) l)
      (hand : l ∈ hands (diary log i)) : Located config log t l (.connect i)
  | session {s : Session} (hs : t.floor.desk.session = some s) (hl : s.loader = l) :
      Located config log t l .session
  | flash {i : Nat} {c : Call} (hc : t.calls[i]? = some c) (hp : c.pending = true)
      (he : c.errand.isFlash = true) (hand : l ∈ hands (diary log i)) :
      Located config log t l (.flash i)
  | takenOver {i : Nat} {c : Call} (hc : t.calls[i]? = some c) (hp : c.pending = true)
      (he : c.errand.isFlash = false) (made : ¬ Made (diary log i) l)
      (hand : l ∈ hands (diary log i)) : Located config log t l (.releasing i)
  | takenApart {i : Nat} {c : Call} {op : StationOp} {next : op.Answer → Program Station Result}
      {before : List Event} {f : Floor} (hc : t.calls[i]? = some c) (hw : c.rest = .call op next)
      (apart : l ∈ aparts (diary log i)) (hb : diary log i = before ++ [.starts op f])
      (whole : ¬ Whole config l (diary log i)) (amid : Amid config l before op) :
      Located config log t l (.releasing i)
  | released {i : Nat} (apart : l ∈ aparts (diary log i)) (whole : Whole config l (diary log i)) :
      Located config log t l (.released i)

namespace Traffic

open Finset (range)

variable {config : Config} {t t' : Traffic} {log : List Deed} {i : Nat} {c : Call}
  {es : List Event} {l : Loader}

/-! ### Each loader is somewhere -/

/-- Only a connect makes loaders. -/
theorem Run.maker (run : Run config .new log t) (hc : t.calls[i]? = some c)
    (made : Made (diary log i) l) : c.errand.isConnect = true := by
  obtain ⟨e, he, makes⟩ := made
  obtain ⟨pre, post, split⟩ := List.append_of_mem he
  have admits := ((run.kept (promised config)).calls hc).admits
  rw [split] at admits
  cases makes with
  | attach port baud romBaud f =>
    have duty := (Conduct.admits_at admits rfl).duty
    cases duty with
    | plain h => cases h
    | attaches h => exact h

/-- A call with a loader in hand is under way. -/
theorem Run.holder (run : Run config .new log t) (hc : t.calls[i]? = some c)
    (hand : l ∈ hands (diary log i)) : c.pending = true := by
  obtain ⟨_, _, f, _, stands⟩ := (run.kept (promised config)).calls hc
  unfold Call.pending
  cases hr : c.rest with
  | call op next => rfl
  | done r =>
    rw [hr] at stands
    have tidy : hands (diary log i) = [] := stands.tidy.hands
    rw [tidy] at hand
    cases hand

/-- What a call has in hand it made, uses to flash, or is releasing. -/
theorem Run.in_hand (run : Run config .new log t) (hc : t.calls[i]? = some c)
    (hand : l ∈ hands (diary log i)) : ∃ p, Located config log t l p := by
  have pending := run.holder hc hand
  by_cases made : Made (diary log i) l
  · exact ⟨_, .connect hc pending (run.maker hc made) made hand⟩
  · cases he : c.errand.isFlash with
    | true => exact ⟨_, .flash hc pending he hand⟩
    | false => exact ⟨_, .takenOver hc pending he made hand⟩

/-- What a call has taken apart is released, or it is amid that. -/
theorem Run.taken_apart (run : Run config .new log t) (hc : t.calls[i]? = some c)
    (apart : l ∈ aparts (diary log i)) :
    Located config log t l (.released i) ∨ Located config log t l (.releasing i) := by
  by_cases whole : Whole config l (diary log i)
  · exact .inl (.released apart whole)
  obtain ⟨_, _, f, _, stands⟩ := (run.kept (promised config)).calls hc
  cases hr : c.rest with
  | done r =>
    rw [hr] at stands
    exact absurd (stands.tidy.settled l apart) whole
  | call op next =>
    rw [hr] at stands
    obtain ⟨suspends, before, hb, dutiful⟩ := stands.1
    have early : l ∈ aparts before := by
      rw [hb, aparts_snoc] at apart
      simpa [Event.apart] using apart
    rcases (dutiful.waits suspends).2 l early with settled | amid
    · exact absurd (hb ▸ settled.append _) whole
    · exact .inr (.takenApart hc hr apart hb whole amid)

/-- **Each loader that was made is somewhere.** -/
theorem Run.located (run : Run config .new log t) (hl : l ∈ t.floor.loaders) :
    ∃ p, Located config log t l p := by
  have once := List.count_eq_one_of_mem run.loaders_nodup hl
  have ledger := run.ledger l
  by_cases stored : t.floor.stored.count l = 0
  · have held : ∑ j ∈ range t.calls.length, share l (diary log j) ≠ 0 := by omega
    obtain ⟨j, hj, share⟩ := Finset.exists_ne_zero_of_sum_ne_zero held
    have hc : t.calls[j]? = some _ := List.getElem?_eq_getElem (Finset.mem_range.mp hj)
    rcases share_pos.mp (Nat.pos_of_ne_zero share) with hand | apart
    · exact run.in_hand hc hand
    · rcases run.taken_apart hc apart with place | place
      · exact ⟨_, place⟩
      · exact ⟨_, place⟩
  · have mem : l ∈ t.floor.stored := List.count_pos_iff.mp (Nat.pos_of_ne_zero stored)
    obtain ⟨s, hs, hl⟩ := Option.map_eq_some_iff.mp (Option.mem_toList.mp mem)
    exact ⟨_, .session hs hl⟩

/-! ### No loader is in two places -/

/-- A call that has taken something apart was made. -/
theorem Run.caller_lt (run : Run config .new log t) (apart : l ∈ aparts (diary log i)) :
    i < t.calls.length := by
  obtain ⟨e, he, _⟩ := List.mem_filterMap.mp apart
  obtain ⟨d, hd, rfl, _, _⟩ := mem_diary he
  exact (run.kept (promised config)).callers d hd

/-- A loader that has a place is in the record, or it is with the call of that place. -/
theorem Run.with_caller (run : Run config .new log t) {p : Place} (h : Located config log t l p) :
    (p = .session ∧ 0 < t.floor.stored.count l) ∨
      ∃ i ∈ range t.calls.length, p.caller = some i ∧ 0 < share l (diary log i) := by
  have placed {i : Nat} {c : Call} (hc : t.calls[i]? = some c) : i ∈ range t.calls.length :=
    Finset.mem_range.mpr (List.getElem?_eq_some_iff.mp hc).1
  cases h with
  | session hs hl =>
    left
    refine ⟨rfl, List.count_pos_iff.mpr ?_⟩
    rw [Floor.stored, hs, ← hl]
    exact .head _
  | connect hc _ _ _ hand | flash hc _ _ hand | takenOver hc _ _ _ hand =>
    exact .inr ⟨_, placed hc, rfl, share_pos.mpr (.inl hand)⟩
  | takenApart hc _ apart => exact .inr ⟨_, placed hc, rfl, share_pos.mpr (.inr apart)⟩
  | released apart =>
    exact .inr ⟨_, Finset.mem_range.mpr (run.caller_lt apart), rfl, share_pos.mpr (.inr apart)⟩

/-- What a call has in hand it has not taken apart. -/
theorem Run.intact (run : Run config .new log t) (hand : l ∈ hands (diary log i))
    (apart : l ∈ aparts (diary log i)) : False := by
  have once := run.share_le l (Finset.mem_range.mpr (run.caller_lt apart))
  have hand := List.count_pos_iff.mpr hand
  have apart := List.count_pos_iff.mpr apart
  simp only [share] at once
  omega

open Classical in
/-- The place of a loader that a call has in hand is told by the call. -/
theorem Run.place_of_hand (run : Run config .new log t) {p : Place}
    (h : Located config log t l p) (hp : p.caller = some i) (hc : t.calls[i]? = some c)
    (hand : l ∈ hands (diary log i)) :
    p = if Made (diary log i) l then .connect i
      else if c.errand.isFlash = true then .flash i else .releasing i := by
  cases h with
  | session => cases hp
  | connect _ _ _ made =>
    cases hp
    rw [if_pos made]
  | flash hc' _ he =>
    cases hp
    have other : ¬ Made (diary log i) l := fun made => by
      have connect := run.maker hc' made
      rw [Errand.isFlash_not_connect he] at connect
      cases connect
    rw [hc] at hc'
    cases hc'
    rw [if_neg other, if_pos he]
  | takenOver hc' _ he made =>
    cases hp
    rw [hc] at hc'
    cases hc'
    rw [if_neg made, if_neg (by simp [he])]
  | takenApart _ _ apart | released apart =>
    cases hp
    exact (run.intact hand apart).elim

open Classical in
/-- The place of a loader that a call has taken apart is told by whether it was released. -/
theorem Run.place_of_apart (run : Run config .new log t) {p : Place}
    (h : Located config log t l p) (hp : p.caller = some i) (apart : l ∈ aparts (diary log i)) :
    p = if Whole config l (diary log i) then .released i else .releasing i := by
  cases h with
  | session => cases hp
  | connect _ _ _ _ hand | flash _ _ _ hand | takenOver _ _ _ _ hand =>
    cases hp
    exact (run.intact hand apart).elim
  | takenApart _ _ _ _ whole =>
    cases hp
    rw [if_neg whole]
  | released _ whole =>
    cases hp
    rw [if_pos whole]

/-- **No loader is in two places.** -/
theorem Run.unique (run : Run config .new log t) {p p' : Place} (h : Located config log t l p)
    (h' : Located config log t l p') : p = p' := by
  rcases run.with_caller h with ⟨hp, stored⟩ | ⟨i, hi, hp, held⟩
  · rcases run.with_caller h' with ⟨hp', _⟩ | ⟨j, hj, _, held'⟩
    · rw [hp, hp']
    · have once := run.share_le l hj
      omega
  · rcases run.with_caller h' with ⟨_, stored⟩ | ⟨j, hj, hp', held'⟩
    · have once := run.share_le l hi
      omega
    · obtain rfl : i = j := by
        by_contra other
        have once := run.shares_le l hi hj other
        omega
      have hc : t.calls[i]? = some _ := List.getElem?_eq_getElem (Finset.mem_range.mp hi)
      rcases share_pos.mp held with hand | apart
      · rw [run.place_of_hand h hp hc hand, run.place_of_hand h' hp' hc hand]
      · rw [run.place_of_apart h hp apart, run.place_of_apart h' hp' apart]

end Traffic

/-! ### A loader that is being released -/

section
variable {config : Config} {errand : Errand} {start f : Floor} {x es : List Event} {op : StationOp}
  {l : Loader}

/-- A call that is no flash and has a loader in hand that it did not make keeps it, or takes it
apart: it does not put it into the record. -/
theorem Duty.holds (h : Duty config errand x f op) (he : errand.isFlash = false)
    (made : ¬ Made x l) (hand : l ∈ hands x) (answer : op.Answer) :
    l ∈ hands (x ++ [.does op answer f]) ∨ l ∈ aparts (x ++ [.does op answer f]) := by
  rw [hands_snoc]
  cases h with
  | plain h =>
    left
    rw [(idle_plain h answer f).hand]
    exact hand
  | complains | reads | looks | changes | asks | shakes => exact .inl hand
  | keeps h =>
    left
    rw [hand_keeps h]
    exact hand
  | takes h =>
    left
    rw [hand_takes h]
    exact List.mem_append_right _ hand
  | @stores desk s h free _ own =>
    left
    rw [hand_stores h free]
    refine (List.mem_erase_of_ne ?_).mpr hand
    rintro rfl
    rcases own with own | own
    · exact made own
    · rw [he] at own
      cases own
  | attaches => exact .inl (List.mem_cons_of_mem _ hand)
  | @takesApart loader h =>
    by_cases same : l = loader
    · right
      simp [aparts_snoc, apart, same]
    · exact .inl ((List.mem_erase_of_ne same).mpr hand)

theorem holds_on (admits : (Duties config errand start).Admits x es) (he : errand.isFlash = false)
    (made : ¬ Made (x ++ es) l) (h : 0 < share l x) : 0 < share l (x ++ es) := by
  induction es generalizing x with
  | nil =>
    rw [List.append_nil]
    exact h
  | cons e es ih =>
    obtain ⟨may, admits⟩ := admits
    rw [List.append_cons] at made ⊢
    refine ih admits made (share_pos.mpr ?_)
    have before : ¬ Made x l := fun h => made ((h.append _).append _)
    rcases share_pos.mp h with hand | apart
    · cases e with
      | does op answer f => exact (may op rfl).duty.holds he before hand answer
      | starts op f | wakes op answer f =>
        left
        rw [hands_snoc]
        exact hand
    · right
      rw [aparts_snoc]
      exact List.mem_append_left _ apart

end

namespace Traffic

variable {config : Config} {t t' : Traffic} {log : List Deed} {i j : Nat} {es : List Event}
  {l : Loader}

/-- A loader that has a place was made. -/
theorem Run.there (run : Run config .new log t) {p : Place} (h : Located config log t l p) :
    l ∈ t.floor.loaders := by
  have ledger := run.ledger l
  rw [← List.count_pos_iff]
  rcases run.with_caller h with ⟨_, stored⟩ | ⟨i, hi, _, held⟩
  · omega
  · have part := Finset.single_le_sum (f := fun j => share l (diary log j))
      (fun _ _ => Nat.zero_le _) hi
    omega

/-- What a call that was made had not made before, it has not made in a step either. -/
theorem Step.not_made (run : Run config .new log t) (hs : Step config t i es t')
    (hl : l ∈ t.floor.loaders) (made : ¬ Made (diary log i) l) : ¬ Made (diary log i ++ es) l := by
  rintro ⟨e, he, makes⟩
  rcases List.mem_append.mp he with he | he
  · exact made ⟨e, he, makes⟩
  · exact hs.fresh run.numbered he makes hl

/-- A loader that is being released stays with the call that releases it until it is released. -/
theorem Step.releasing (run : Run config .new log t) (hs : Step config t j es t')
    (h : Located config log t l (.releasing i)) :
    Located config (log ++ [⟨j, es, t.floor, t'.floor⟩]) t' l (.releasing i) ∨
      Located config (log ++ [⟨j, es, t.floor, t'.floor⟩]) t' l (.released i) := by
  have run' := run.step hs
  have there := run.there h
  -- while others go on, all is as before
  have others (same : diary (log ++ [⟨j, es, t.floor, t'.floor⟩]) i = diary log i)
      (still : t'.calls[i]? = t.calls[i]?) :
      Located config (log ++ [⟨j, es, t.floor, t'.floor⟩]) t' l (.releasing i) := by
    cases h with
    | takenOver hc hp he made hand =>
      rw [← same] at made hand
      exact .takenOver (still.trans hc) hp he made hand
    | takenApart hc hw apart hb whole amid =>
      rw [← same] at apart hb whole
      exact .takenApart (still.trans hc) hw apart hb whole amid
  cases hr : Deed.report ⟨j, es, t.floor, t'.floor⟩ with
  | true => exact .inl (others (diary_other (.inr hr)) (by rw [(hs.reported hr).1]))
  | false =>
    by_cases hj : i = j
    · subst hj
      have own : diary (log ++ [⟨i, es, t.floor, t'.floor⟩]) i = diary log i ++ es :=
        diary_own rfl hr
      have reach : Reach config t := ⟨log, run⟩
      cases h with
      | takenApart hc _ apart =>
        obtain ⟨c', hc', _⟩ := (reach.move hs).place hc
        have apart' : l ∈ aparts (diary (log ++ [⟨i, es, t.floor, t'.floor⟩]) i) := by
          rw [own, aparts, List.filterMap_append]
          exact List.mem_append_left _ apart
        exact (run'.taken_apart hc' apart').symm
      | takenOver hc _ he made hand =>
        have made' := hs.not_made run there made
        obtain ⟨c', hc', errand, _⟩ := (reach.move hs).place hc
        have he' : c'.errand.isFlash = false := by rw [errand, he]
        have held := holds_on (run.admits hs hc' hr) he' made' (share_pos.mpr (.inl hand))
        rw [← own] at made' held
        rcases share_pos.mp held with hand' | apart'
        · exact .inl (.takenOver hc' (run'.holder hc' hand') he' made' hand')
        · exact (run'.taken_apart hc' apart').symm
    · exact .inl (others (diary_other (.inl (Ne.symm hj))) (hs.others hj))

/-- Whatever is written to the record in a run leaves a session where it is, or takes it, or puts
one where there is none. -/
theorem Run.writes (run : Run config .new log t) {desk : Desk} {f : Floor}
    (h : .does (.write desk) () f ∈ log.flatMap (·.events)) {s : Session}
    (hs : f.desk.session = some s) : desk.session = some s ∨ desk.session = none := by
  induction run with
  | here => cases h
  | @step log t t' i es run step ih =>
    rw [List.flatMap_append, List.flatMap_singleton, List.mem_append] at h
    rcases h with h | h
    · exact ih h
    · obtain ⟨c, hc⟩ := step.caller
      obtain ⟨pre, post, he⟩ := List.append_of_mem h
      have duty : Duty config c.errand (diary log i ++ pre) f (.write desk) :=
        run.duty_now step hc he rfl
      cases duty with
      | plain h => cases h
      | keeps h => exact .inl (h.trans hs)
      | takes h => exact .inr h
      | stores _ free =>
        rw [hs] at free
        cases free

/-- No loader is taken apart twice. -/
theorem Run.aparts_nodup (run : Run config .new log t) :
    (aparts (log.flatMap (·.events))).Nodup := by
  refine List.nodup_iff_count_le_one.mpr fun l => ?_
  have once := List.nodup_iff_count_le_one.mp run.loaders_nodup l
  have ledger := run.ledger l
  have parts : ∑ j ∈ Finset.range t.calls.length, (aparts (diary log j)).count l ≤
      ∑ j ∈ Finset.range t.calls.length, share l (diary log j) :=
    Finset.sum_le_sum fun j _ => Nat.le_add_left _ _
  rw [← run.apart_count l]
  omega

theorem Run.apart_once (run : Run config .new log t) (h : l ∈ aparts (diary log i)) :
    (aparts (log.flatMap (·.events))).count l = 1 := by
  refine List.count_eq_one_of_mem run.aparts_nodup ?_
  obtain ⟨e, he, apart⟩ := List.mem_filterMap.mp h
  obtain ⟨d, hd, _, _, he⟩ := mem_diary he
  exact List.mem_filterMap.mpr ⟨e, List.mem_flatMap.mpr ⟨d, hd, he⟩, apart⟩

/-- When the station is idle and nobody is under way, each loader was released. -/
theorem Run.all_released (run : Run config .new log t) (idle : t.floor.desk.phase = .idle)
    (ended : ∀ c ∈ t.calls, c.pending = false) (hl : l ∈ t.floor.loaders) :
    ∃ i, Located config log t l (.released i) := by
  obtain ⟨p, place⟩ := run.located hl
  have coherent := (Reach.orderly ⟨log, run⟩).sound.coherent
  have done {i : Nat} {c : Call} (hc : t.calls[i]? = some c) (hp : c.pending = true) : False := by
    rw [ended c (List.mem_of_getElem? hc)] at hp
    cases hp
  cases place with
  | connect hc hp | flash hc hp | takenOver hc hp => exact (done hc hp).elim
  | takenApart hc hw => exact (done hc (by rw [Call.pending, hw])).elim
  | session hs =>
    have connected := coherent.session.mp (Option.isSome_of_eq_some hs)
    rw [idle] at connected
    cases connected
  | released apart whole => exact ⟨_, .released apart whole⟩

end Traffic

section
variable {config : Config} {t : Traffic} {log : List Deed}

/-- **No loader is lost or released twice.** Each loader that was made is in exactly one place; one
that is being released stays with the call that releases it until it is released, and none is taken
apart twice. Whatever is written to the record, no session is put in the place of another. And when
the station is idle and no call is under way, each loader was taken apart once and released. -/
theorem loader_in_one_place (run : Run config .new log t) :
    (∀ e ∈ log.flatMap (·.events), ∀ l, e.Attaches l → ∃! p, Located config log t l p) ∧
    (∀ l i, Located config log t l (.releasing i) → ∀ j es t', Step config t j es t' →
      Located config (log ++ [⟨j, es, t.floor, t'.floor⟩]) t' l (.releasing i) ∨
        Located config (log ++ [⟨j, es, t.floor, t'.floor⟩]) t' l (.released i)) ∧
    (aparts (log.flatMap (·.events))).Nodup ∧
    (∀ desk f, .does (.write desk) () f ∈ log.flatMap (·.events) →
      ∀ s, f.desk.session = some s → desk.session = some s ∨ desk.session = none) ∧
    (t.floor.desk.phase = .idle → (∀ c ∈ t.calls, c.pending = false) →
      ∀ e ∈ log.flatMap (·.events), ∀ l, e.Attaches l →
        (∃ i, Located config log t l (.released i)) ∧
          (aparts (log.flatMap (·.events))).count l = 1) := by
  refine ⟨fun e he l made => ?_, fun l i h j es t' hs => hs.releasing run h, run.aparts_nodup,
    fun desk f h s hs => run.writes h hs, fun idle ended e he l made => ?_⟩
  · obtain ⟨p, place⟩ := run.located (run.keeps_made he made)
    exact ⟨p, place, fun p' place' => run.unique place' place⟩
  · obtain ⟨i, place⟩ := run.all_released idle ended (run.keeps_made he made)
    refine ⟨⟨i, place⟩, ?_⟩
    cases place with
    | released apart => exact run.apart_once apart

end

/-- After a connect that succeeded the station is disconnected, and its open port is brought back
to the closed state. -/
def Traffic.parted : Traffic :=
  (Traffic.joined.begin .default (obliging default ⟨some true, some true⟩) .disconnect).carryOn
    (obliging default ⟨some true, some true⟩) 1 6

/-- The loader of that connect was released once. -/
theorem parted_released : ∃ log l i, Run .default .new log .parted ∧
    Traffic.parted.floor.loaders = [l] ∧ Located .default log .parted l (.released i) ∧
    (aparts (log.flatMap (·.events))).count l = 1 := by
  have reach : Reach .default .parted := (Reach.joined.begin _ _).carryOn _ _ _
  obtain ⟨log, run⟩ := reach
  have one : Traffic.parted.floor.loaders.length = 1 := by decide +kernel
  obtain ⟨l, loaders⟩ := List.length_eq_one_iff.mp one
  obtain ⟨e, he, made⟩ := run.made l (by simp [loaders])
  have idle : Traffic.parted.floor.desk.phase = .idle := by decide +kernel
  have ended : ∀ c ∈ Traffic.parted.calls, c.pending = false := by decide +kernel
  obtain ⟨_, _, _, _, last⟩ := loader_in_one_place run
  obtain ⟨⟨i, place⟩, once⟩ := last idle ended e he l made
  exact ⟨log, l, i, run, loaders, place, once⟩

end FlashStation
