/-
# The session of a generation

A connect that joins the board leaves a session and what it learned of the board. From then on, as
long as nobody connects or disconnects, there is no other session: a flash takes this one and puts
it back when it is over, and what is known of the board stays. So all flashes of one generation run
on the session that its connect has left.

A step does one of three things to this: it leaves all as it is, but that a flash may put the
session back; it counts the generation up, and nothing is known of the board any more; or it ends a
connect.

Key definitions: `Traffic.Turns`, `Traffic.Founded`, `Traffic.Bond`.
Key theorems: `Traffic.Step.turns`, `Traffic.Step.flash_before`, `Traffic.Bond.step`,
`Traffic.Run.founded`.
-/
import FlashStation.Proofs.Tolerance

namespace FlashStation

open Station Program

/-- A flash that ends and has the station puts the session back that it has found. -/
theorem Ran.puts_back {config : Config} {c : Call} {f f' : Floor} {es : List Event}
    (ran : Ran config c f es f') (ended : c.pending = false) (he : c.errand.isFlash = true)
    (ht : c.tag = some f.desk.generation) :
    f'.desk.generation = f.desk.generation ∧ f'.desk.info = f.desk.info ∧
      f'.desk.session = c.start.desk.session := by
  have ends := ran.ends ended
  unfold Call.Ends at ends
  generalize c.errand = errand at ends he
  cases ends with
  | connect | disconnect => cases he
  | @flash _ g s _ ht' found finished =>
    obtain rfl : g = f.desk.generation := Option.some.inj (ht'.symm.trans ht)
    rw [found]
    cases finished with
    | superseded late => exact absurd late (Nat.lt_irrefl _)
    | flashed _ left | failed _ _ left =>
      rw [left]
      exact ⟨rfl, rfl, rfl⟩

namespace Traffic

variable {config : Config} {t t' : Traffic} {log : List Deed} {i j : Nat} {c : Call}
  {es : List Event}

/-! ### Where calls come from -/

/-- A call that there is after a step was there before, or it has just been made; then it was
refused, or accepted on the floor that it found. -/
theorem Step.origin (reach : Reach config t) (hs : Step config t i es t')
    (hc : t'.calls[j]? = some c) :
    (∃ d, t.calls[j]? = some d ∧ d.errand = c.errand ∧ d.start = c.start ∧ d.tag = c.tag) ∨
      t.calls.length = j ∧ c.start = t.floor ∧ (c.tag = none ∨
        ∃ f, Accepted t.floor c.errand f c.tag ∧
          ∀ g, c.tag = some g → g ≤ t'.floor.desk.generation) := by
  have hm := reach.move hs
  cases hj : t.calls[j]? with
  | some d =>
    obtain ⟨c', hc', errand, start, tag, _⟩ := hm.place hj
    cases hc.symm.trans hc'
    exact .inl ⟨d, rfl, errand.symm, start.symm, tag.symm⟩
  | none =>
    -- then there is one call more, and it is at this place
    have last {d : Call} (hc : (t.calls ++ [d])[j]? = some c) : t.calls.length = j ∧ d = c := by
      obtain ⟨others, here⟩ := getElem?_snoc t.calls d
      by_cases new : j = t.calls.length
      · rw [new] at hc
        exact ⟨new.symm, Option.some.inj (here.symm.trans hc)⟩
      · rw [others j new, hj] at hc
        cases hc
    cases hm with
    | refused =>
      obtain ⟨new, rfl⟩ := last hc
      exact .inr ⟨new, rfl, .inl rfl⟩
    | @accepted _ f _ _ _ _ q ha _ ran =>
      obtain ⟨new, rfl⟩ := last hc
      have turn := reach.orderly.accepted (q := q) ha
      refine .inr ⟨new, rfl, .inr ⟨f, ha, fun g ht => ?_⟩⟩
      rw [ran.generation turn.sound turn.fits]
      exact turn.fits.bound ht
    | resumed =>
      have there := (List.getElem?_eq_some_iff.mp hc).1
      rw [List.length_set] at there
      exact absurd (List.getElem?_eq_none_iff.mp hj) (Nat.not_le_of_lt there)
    | reported =>
      rw [hj] at hc
      cases hc

/-- No call carries a generation that the record has not had yet. -/
theorem Reach.tag_bound (h : Reach config t) :
    ∀ c ∈ t.calls, ∀ g, c.tag = some g → g ≤ t.floor.desk.generation := by
  refine h.induction (P := fun t => ∀ c ∈ t.calls, ∀ g, c.tag = some g →
    g ≤ t.floor.desk.generation) (fun c hc => absurd hc List.not_mem_nil) ?_
  intro t i es t' reach bound hs c mem g ht
  obtain ⟨j, hc⟩ := List.mem_iff_getElem?.mp mem
  rcases hs.origin reach hc with ⟨d, hd, _, _, same⟩ | ⟨_, _, none | ⟨_, _, fits⟩⟩
  · have later := reach.orderly.later (reach.move hs)
    exact Nat.le_trans (bound d (List.mem_of_getElem? hd) g (same.trans ht)) later
  · rw [none] at ht
    cases ht
  · exact fits g ht

/-- A flash of the generation that the record has after a step is of the one that it had before.
The flash was there before, or it has just been accepted and has taken the session. -/
theorem Step.flash_before (reach : Reach config t) (hs : Step config t i es t') (hc : c ∈ t'.calls)
    (he : c.errand.isFlash = true) (ht : c.tag = some t'.floor.desk.generation) :
    t'.floor.desk.generation = t.floor.desk.generation ∧
      ((∃ d ∈ t.calls, d.errand.isFlash = true ∧ d.tag = some t.floor.desk.generation ∧
          d.start = c.start) ∨
        c.start = t.floor ∧ ∃ s, t.floor.desk.session = some s) := by
  obtain ⟨j, hj⟩ := List.mem_iff_getElem?.mp hc
  rcases hs.origin reach hj with ⟨d, hd, errand, start, tag⟩ | ⟨_, start, none | ⟨_, ha, _⟩⟩
  · have mem := List.mem_of_getElem? hd
    have carried : d.tag = some t'.floor.desk.generation := tag.trans ht
    have same : t'.floor.desk.generation = t.floor.desk.generation :=
      Nat.le_antisymm (reach.tag_bound d mem _ carried) (reach.orderly.later (reach.move hs))
    exact ⟨same, .inl ⟨d, mem, errand ▸ he, same ▸ carried, start⟩⟩
  · rw [none] at ht
    cases ht
  · generalize hg : c.tag = tag at ha
    generalize hr : c.errand = errand at ha he
    cases ha with
    | connect | disconnect => cases he
    | @flash _ s _ _ hs' => exact ⟨Option.some.inj (ht.symm.trans hg), .inr ⟨start, s, hs'⟩⟩

/-! ### What a step does to the session -/

/-- What a step of the call at the place `i` does to the session and to what is known of the
board. -/
inductive Turns (t : Traffic) (i : Nat) (t' : Traffic) : Prop where
  | keeps (generation : t'.floor.desk.generation = t.floor.desk.generation)
      (info : t'.floor.desk.info = t.floor.desk.info)
      (session : ∀ s, t'.floor.desk.session = some s → t.floor.desk.session = some s ∨
        ∃ c ∈ t.calls, c.errand.isFlash = true ∧ c.tag = some t.floor.desk.generation ∧
          c.start.desk.session = some s)
  | clears (generation : t'.floor.desk.generation ≠ t.floor.desk.generation)
      (info : t'.floor.desk.info = none)
  | concludes {c : Call} {preferred : Option UInt32} (hc : t'.calls[i]? = some c)
      (he : c.errand = .connect preferred) (ht : c.tag = some t'.floor.desk.generation)
      (ended : c.pending = false)
      (fresh : t'.floor.desk.generation ≠ t.floor.desk.generation ∨ t.floor.desk.info = none)

/-- **What a step does to the session** is one of three things. -/
theorem Step.turns (reach : Reach config t) (hs : Step config t i es t') : Turns t i t' := by
  cases reach.move hs with
  | refused => exact .keeps rfl rfl fun _ there => .inl there
  | @accepted errand f f' tag pre es q ha hpre ran =>
    have turn := reach.orderly.accepted (q := q) ha
    rcases ran.outcome turn.sound turn.fits with ⟨same, _⟩ | ⟨ended, carried, generation, _, _⟩
    · cases ha with
      | connect | disconnect =>
        refine .clears ?_ ?_
        · rw [same]
          exact Nat.succ_ne_self _
        · rw [same]
          rfl
      | flash =>
        refine .keeps ?_ ?_ fun s there => ?_
        · rw [same]
          rfl
        · rw [same]
          rfl
        · rw [same] at there
          cases there
    · cases ha with
      | connect =>
        refine .concludes List.getElem?_concat_length rfl ?_ ended (.inl ?_)
        · exact congrArg some generation.symm
        · rw [generation]
          exact Nat.succ_ne_self _
      | flash he =>
        obtain ⟨generation, info, back⟩ := ran.puts_back ended he rfl
        exact .keeps generation info fun s there => .inl (back.symm.trans there)
      | disconnect => cases carried
  | @resumed _ d _ _ _ f' q hd hp ran =>
    have turn := reach.orderly.resumed hd hp q
    rcases ran.outcome turn.sound turn.fits with ⟨same, _⟩ | ⟨ended, carried, generation, _, _⟩
    · exact .keeps (by rw [same]) (by rw [same]) fun s there => .inl (same ▸ there)
    · rcases turn.fits.busy carried with ⟨connect, phase⟩ | ⟨flash, _⟩
      · obtain ⟨preferred, he⟩ : ∃ preferred, d.errand = .connect preferred := by
          cases h : d.errand <;> simp_all [Errand.isConnect]
        have here := (List.getElem?_eq_some_iff.mp hd).1
        refine .concludes (List.getElem?_set_self here) he (generation ▸ carried) ended (.inr ?_)
        have unknown := reach.orderly.sound.coherent.info
        rw [phase] at unknown
        simpa using unknown
      · obtain ⟨generation, info, back⟩ := ran.puts_back ended flash carried
        have mem := List.mem_of_getElem? hd
        exact .keeps generation info fun s there => .inr ⟨d, mem, flash, carried, back ▸ there⟩
  | reported _ _ _ hr =>
    cases hr with
    | late => exact .keeps rfl rfl fun _ there => .inl there
    | counts _ _ hf =>
      subst hf
      exact .keeps rfl rfl fun _ there => .inl there

/-! ### One session for a generation -/

/-- A connect of the record's generation has left a session and what is known of the board. Unless a
flash has taken it, the session is still there, and each flash of the generation has found it. -/
structure Founded (config : Config) (log : List Deed) (t : Traffic) (session : Session)
    (info : DeviceInfo) : Prop where
  joined : ∃ k preferred, Concluded config log t k preferred (.ok info) ∧
    Leaves config (preferred.getD config.defaultBaud) (outward (dialogue (diary log k)))
      session info
  generation : session.generation = t.floor.desk.generation
  known : t.floor.desk.info = some info
  free : ∀ s, t.floor.desk.session = some s → s = session
  flashes : ∀ c ∈ t.calls, c.errand.isFlash = true → c.tag = some t.floor.desk.generation →
    c.start.desk.session = some session ∧ c.start.desk.info = some info

/-- Nothing is known of a board, and no flash carries the record's generation; or a connect has left
a session for all of them. -/
inductive Bond (config : Config) (log : List Deed) (t : Traffic) : Prop where
  | unknown (info : t.floor.desk.info = none) (none : ∀ c ∈ t.calls, c.errand.isFlash = true →
      c.tag ≠ some t.floor.desk.generation) : Bond config log t
  | founded {session : Session} {info : DeviceInfo} (h : Founded config log t session info) :
      Bond config log t

/-- A connect that is over stands as it did, as long as its generation is the record's. -/
theorem Concluded.stands {preferred : Option UInt32} {info : DeviceInfo} {k : Nat}
    (h : Concluded config log t k preferred (.ok info)) (hs : Step config t i es t')
    (same : t'.floor.desk.generation = t.floor.desk.generation) :
    Concluded config (log ++ [⟨i, es, t.floor, t'.floor⟩]) t' k preferred (.ok info) ∧
      diary (log ++ [⟨i, es, t.floor, t'.floor⟩]) k = diary log k := by
  obtain ⟨start, hc⟩ := h.call
  have other : i ≠ k := by
    rintro rfl
    cases hs.pending hc
  refine ⟨⟨h.run.step hs, start, ?_⟩, diary_other (.inl other)⟩
  rw [hs.others (Ne.symm other), hc, same]

/-- If nothing is known of a board before a step, no flash has the record's generation after it. -/
theorem Bond.none_after (h : Bond config log t) (reach : Reach config t)
    (hs : Step config t i es t') (unknown : t.floor.desk.info = none) :
    ∀ c ∈ t'.calls, c.errand.isFlash = true → c.tag ≠ some t'.floor.desk.generation := by
  intro c hc he ht
  obtain ⟨_, ⟨d, hd, flash, carried, _⟩ | ⟨_, s, there⟩⟩ := hs.flash_before reach hc he ht
  · cases h with
    | unknown _ none => exact none d hd flash carried
    | founded h =>
      rw [h.known] at unknown
      cases unknown
  · have coherent := reach.orderly.sound.coherent
    have phase := coherent.session.mp (by rw [there]; rfl)
    have known := coherent.info.mpr (.inl phase)
    rw [unknown] at known
    cases known

/-- What a connect has left is kept by a step that does not count the generation up. -/
theorem Founded.step {session : Session} {info : DeviceInfo}
    (h : Founded config log t session info) (reach : Reach config t) (hs : Step config t i es t')
    (generation : t'.floor.desk.generation = t.floor.desk.generation)
    (known : t'.floor.desk.info = t.floor.desk.info)
    (free : ∀ s, t'.floor.desk.session = some s → t.floor.desk.session = some s ∨
      ∃ c ∈ t.calls, c.errand.isFlash = true ∧ c.tag = some t.floor.desk.generation ∧
        c.start.desk.session = some s) :
    Founded config (log ++ [⟨i, es, t.floor, t'.floor⟩]) t' session info where
  joined := by
    obtain ⟨k, preferred, concluded, leaves⟩ := h.joined
    obtain ⟨stands, same⟩ := concluded.stands hs generation
    exact ⟨k, preferred, stands, same ▸ leaves⟩
  generation := h.generation.trans generation.symm
  known := known.trans h.known
  free s there := by
    rcases free s there with before | ⟨c, hc, flash, carried, found⟩
    · exact h.free s before
    · exact Option.some.inj (found.symm.trans (h.flashes c hc flash carried).1)
  flashes c hc he ht := by
    obtain ⟨_, ⟨d, hd, flash, carried, start⟩ | ⟨start, s, there⟩⟩ := hs.flash_before reach hc he ht
    · rw [← start]
      exact h.flashes d hd flash carried
    · obtain rfl := h.free s there
      rw [start]
      exact ⟨there, h.known⟩

theorem Bond.step (h : Bond config log t) (run : Run config .new log t)
    (hs : Step config t i es t') : Bond config (log ++ [⟨i, es, t.floor, t'.floor⟩]) t' := by
  have reach : Reach config t := ⟨_, run⟩
  have none_after := h.none_after reach hs
  cases hs.turns reach with
  | keeps generation info session =>
    cases h with
    | unknown unknown => exact .unknown (info.trans unknown) (none_after unknown)
    | founded h => exact .founded (h.step reach hs generation info session)
  | clears generation info =>
    refine .unknown info fun c hc he ht => ?_
    exact generation (hs.flash_before reach hc he ht).1
  | concludes hc he ht ended fresh =>
    have none : ∀ c ∈ t'.calls, c.errand.isFlash = true →
        c.tag ≠ some t'.floor.desk.generation := by
      rcases fresh with counted | unknown
      · exact fun c hc he ht => counted (hs.flash_before reach hc he ht).1
      · exact none_after unknown
    obtain ⟨r, _, concluded⟩ := (run.step hs).concludes hc he ht ended
    have last : (log ++ [Deed.mk i es t.floor t'.floor]).getLast?.map Deed.caller = some i := by
      simp
    cases r with
    | error fault =>
      obtain ⟨_, _, _, _, _, _, left⟩ := concluded.approached
      obtain ⟨_, _, unknown, _⟩ := (left last).2 fault rfl
      exact .unknown unknown none
    | ok info =>
      obtain ⟨_, known, session, there, generation, leaves⟩ := concluded.leaves last
      exact .founded {
        joined := ⟨_, _, concluded, leaves⟩
        generation
        known
        free s hs := Option.some.inj (hs.symm.trans there)
        flashes c hc he ht := absurd ht (none c hc he) }

theorem Run.bond (run : Run config .new log t) : Bond config log t := by
  induction run with
  | here => exact .unknown rfl fun c hc => absurd hc List.not_mem_nil
  | step run hs ih => exact ih.step run hs

/-- **All flashes of the record's generation have found the session that its connect has left.** -/
theorem Run.founded (run : Run config .new log t) (hc : t.calls[i]? = some c)
    (he : c.errand.isFlash = true) (ht : c.tag = some t.floor.desk.generation) :
    ∃ session info, Founded config log t session info ∧ c.start.desk.session = some session ∧
      c.start.desk.info = some info := by
  have mem := List.mem_of_getElem? hc
  cases run.bond with
  | unknown _ none => exact absurd ht (none c mem he)
  | founded h => exact ⟨_, _, h, h.flashes c mem he ht⟩

end Traffic

end FlashStation
