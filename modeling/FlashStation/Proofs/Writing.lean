/-
# What a flash does to the board

A flash writes at most once. It does so while the station is flashing under the generation in
which the flash took the session, and only after all that its source declares was had; what it
writes is the payload that these bytes make. It restarts the board once if the write worked and the
flash had not been superseded by then, and never otherwise.

Key definitions: `StationOp.isWrite`, `StationOp.isReset`, `Event.begins`, `Event.lands`,
`Reaches`.
Key theorems: `Course.yields`, `FlashCourse.reaches`, `write_safety`.
-/
import FlashStation.Proofs.Accounts

namespace FlashStation

open Station Program StationOp

/-! ### The talk with the fetcher -/

section
variable {α : Type} {tag : Option Nat} {f f' : Floor} {x : List Event}

theorem supplies_append (x y : List Event) : supplies (x ++ y) = supplies x ++ supplies y :=
  List.filterMap_append

/-- Who is aside gets nothing. -/
theorem Event.supply_aside (e : Event) (h : e.op.aside = true) : e.supply? = none := by
  cases e with
  | does op | wakes op => cases op <;> first | rfl | cases h
  | starts => rfl

theorem supplies_eq_nil (h : ∀ e ∈ x, e.supply? = none) : supplies x = [] :=
  List.filterMap_eq_nil_iff.mpr h

theorem supplies_aside (h : ∀ e ∈ x, e.op.aside = true) : supplies x = [] :=
  supplies_eq_nil fun e he => e.supply_aside (h e he)

namespace Course

/-- A program that gets bytes comes to its value because of the answers it gets. -/
theorem yields {p : Program Supply α} {q : Program Station α} {a : α}
    (h : Course tag (onSupply p) f x f' q) (hq : q = .done a) : p.Yields (supplies x) a := by
  induction p generalizing tag f x with
  | done b =>
    obtain ⟨rfl, _, rfl⟩ := Course.done_inv h
    cases hq
    exact .done _
  | call op next ih =>
    cases hs : op.suspends with
    | true =>
      rcases Course.waits_inv (.supply op) h hs with ⟨_, _, rfl⟩ | ⟨answer, g, rest, _, rfl, h1⟩
      · cases hq
      · exact Yields.call (S := Supply) answer (ih answer h1)
    | false =>
      obtain ⟨answer, rest, rfl, h1⟩ := Course.does_inv (.supply op) h hs
      exact Yields.call (S := Supply) answer (ih answer h1)

/-- A program that gets bytes and is not over has something to ask for. -/
theorem asks {p : Program Supply α} {q : Program Station α}
    (h : Course tag (onSupply p) f x f' q) (hq : q.value = none) : p.Asks (supplies x) := by
  induction p generalizing tag f x with
  | done b =>
    obtain ⟨_, _, rfl⟩ := Course.done_inv h
    cases hq
  | call op next ih =>
    cases hs : op.suspends with
    | true =>
      rcases Course.waits_inv (.supply op) h hs with ⟨rfl, _, _⟩ | ⟨answer, g, rest, _, rfl, h1⟩
      · exact .next (S := Supply) op next
      · exact Asks.call (S := Supply) answer (ih answer h1)
    | false =>
      obtain ⟨answer, rest, rfl, h1⟩ := Course.does_inv (.supply op) h hs
      exact Asks.call (S := Supply) answer (ih answer h1)

theorem gets {p : Program Supply α} {q : Program Station α}
    (h : Course tag (onSupply p) f x f' q) : ∀ e ∈ x, ∃ op, e.op = .supply op :=
  h.uses (H := fun op => ∃ o, op = .supply o)
    ((uses_true p).embed fun o _ => .perform (S := Station) ⟨o, rfl⟩)

end Course

end

/-! ### Writes and restarts -/

/-- Whether an operation writes to the board. -/
def StationOp.isWrite : StationOp → Bool
  | .writeFlash _ _ _ _ => true
  | _ => false

/-- Whether an operation restarts the board. -/
def StationOp.isReset : StationOp → Bool
  | .hardReset _ | .softReset _ => true
  | _ => false

namespace Event

/-- Whether an operation of a kind begins at an event. -/
def begins (kind : StationOp → Bool) : Event → Bool
  | .starts op _ => kind op
  | _ => false

/-- Whether a write has worked at an event, with the generation `g` in the record. -/
def lands (g : Nat) : Event → Bool
  | .wakes (.writeFlash _ _ _ _) (.ok ()) f => f.desk.generation == g
  | _ => false

/-- Whether nothing of a write or of a restart begins or succeeds at an event. -/
def Plain (g : Nat) (e : Event) : Prop :=
  e.begins isWrite = false ∧ e.begins isReset = false ∧ e.lands g = false

end Event

/-- After the write has begun: it does not land, or it lands and the board is restarted. -/
inductive Landing (g : Nat) (loader : Loader) : List Event → Prop where
  | missed {x : List Event} (h : ∀ e ∈ x, e.Plain g) : Landing g loader x
  | landed {e : Event} {x y : List Event} {f : Floor} {hard : Bool} (he : e.lands g = true)
      (hx : ∀ e ∈ x, e.Plain g) (hh : .does (.hasHardReset loader) hard f ∈ x)
      (hg : f.desk.generation = g) (hy : ∀ e ∈ y, e.Plain g) :
      Landing g loader (e :: (x ++ .starts (resetOp loader hard) f :: y))

/-- How far a flash has come to the board. -/
inductive Reaches (errand : Errand) (f : Floor) : List Event → Prop where
  | never {x : List Event} (h : ∀ e ∈ x, e.Plain f.desk.generation) : Reaches errand f x
  | writes {session : Session} {source : Source} {payload : Payload} {x y : List Event} {f1 : Floor}
      (hs : f.desk.session = some session) (he : errand.source? = some source)
      (tag : Event.tags (x ++ .starts (.writeFlash session.loader payload true f.desk.generation)
        f1 :: y) none = some f.desk.generation)
      (hp : f1.desk.phase = .flashing) (hg : f1.desk.generation = f.desk.generation)
      (before : ∀ e ∈ x, e.Plain f.desk.generation ∧
        e.floor.desk.generation = f.desk.generation)
      (fetched : (materialize source).Yields (supplies x) (.ok payload))
      (quiet : supplies y = []) (landing : Landing f.desk.generation session.loader y) :
      Reaches errand f
        (x ++ .starts (.writeFlash session.loader payload true f.desk.generation) f1 :: y)

section
variable {g : Nat} {loader : Loader} {payload : Payload} {source : Source} {chip : Option String}
  {f f' : Floor} {x y : List Event} {hard : Bool}

theorem Event.Plain.of_aside {e : Event} (h : e.op.aside = true) : e.Plain g := by
  cases e with
  | does => exact ⟨rfl, rfl, rfl⟩
  | starts op | wakes op => cases op <;> first | exact ⟨rfl, rfl, rfl⟩ | cases h

theorem Event.Plain.of_supply {e : Event} (h : ∃ op, e.op = .supply op) : e.Plain g := by
  obtain ⟨o, h⟩ := h
  cases e <;> obtain rfl : _ = _ := h <;> exact ⟨rfl, rfl, rfl⟩

theorem resetOp_isReset (hard : Bool) :
    (resetOp loader hard).isReset = true ∧ (resetOp loader hard).isWrite = false := by
  cases hard <;> exact ⟨rfl, rfl⟩

theorem summaryEvents_aside : ∀ e ∈ summaryEvents f chip payload, e.op.aside = true := by
  simp only [summaryEvents, List.mem_append, List.mem_map, List.mem_cons, List.not_mem_nil,
    or_false]
  rintro e (((rfl | rfl | rfl) | ⟨_, _, rfl⟩) | rfl) <;> rfl

theorem Resets.plain {r : Option ResetOutcome} (h : Resets g (resetOp loader hard) f x f' r) :
    ∀ e ∈ x, e.Plain g ∧ e.supply? = none := by
  cases h with
  | waits => exact List.forall_mem_nil _
  | ended outcome hd =>
    refine List.forall_mem_cons.mpr ⟨?_, List.forall_mem_singleton.mpr ⟨⟨rfl, rfl, rfl⟩, rfl⟩⟩
    cases hard <;> exact ⟨⟨rfl, rfl, rfl⟩, rfl⟩

/-- After the write has begun, nothing more is fetched. -/
theorem Lands.quiet {r : Option (Except FlashFault FlashSummary)}
    (h : Lands g loader payload chip f x f' r) : ∀ e ∈ x, e.supply? = none := by
  cases h with
  | writing => exact List.forall_mem_nil _
  | fails => exact List.forall_mem_singleton.mpr rfl
  | overtaken => exact List.forall_mem_cons.mpr ⟨rfl, List.forall_mem_singleton.mpr rfl⟩
  | written _ _ rest =>
    simp only [List.forall_mem_cons, List.forall_mem_append]
    exact ⟨rfl, rfl, rfl, fun e he => e.supply_aside (summaryEvents_aside e he), rfl, rfl,
      fun e he => (rest.plain e he).2⟩

/-- A write lands only under its own generation, and then the board is restarted once. -/
theorem Lands.landing {r : Option (Except FlashFault FlashSummary)}
    (h : Lands g loader payload chip f x f' r) (hy : ∀ e ∈ y, e.op.aside = true) :
    Landing g loader (x ++ y) := by
  have later : ∀ e ∈ y, e.Plain g := fun e he => .of_aside (hy e he)
  cases h with
  | writing => exact .missed later
  | fails => exact .missed (List.forall_mem_cons.mpr ⟨⟨rfl, rfl, rfl⟩, later⟩)
  | overtaken hd hg =>
    have missed : Event.lands g (.wakes (.writeFlash loader payload true g) (.ok ()) f') = false :=
      beq_eq_false_iff_ne.mpr hg
    refine .missed ?_
    simp only [List.cons_append, List.nil_append, List.forall_mem_cons]
    exact ⟨⟨rfl, rfl, missed⟩, ⟨rfl, rfl, rfl⟩, later⟩
  | @written f1 _ hard z r hd hg rest =>
    let between := .does (.current g) true f1 ::
      telling f1 .success "Firmware written successfully" ::
        (summaryEvents f1 chip payload ++ [.does (.hasHardReset loader) hard f1])
    have plain : ∀ e ∈ between, e.Plain g := by
      simp only [between, List.forall_mem_cons, List.forall_mem_append]
      exact ⟨⟨rfl, rfl, rfl⟩, ⟨rfl, rfl, rfl⟩, fun e he => .of_aside (summaryEvents_aside e he),
        ⟨rfl, rfl, rfl⟩, List.forall_mem_nil _⟩
    have asked : .does (.hasHardReset loader) hard f1 ∈ between := by simp [between]
    have after : ∀ e ∈ z ++ y, e.Plain g :=
      List.forall_mem_append.mpr ⟨fun e he => (rest.plain e he).1, later⟩
    have landed := Landing.landed (e := .wakes (.writeFlash loader payload true g) (.ok ()) f1)
      (beq_iff_eq.mpr hg) plain asked hg after
    simpa [between] using landed

/-- What happens while a source is fetched. -/
theorem Fetches.steady {r : Except FetchFault Payload} (h : Fetches g source f x f' r) :
    Drift (some g) f f' ∧ ∀ e ∈ x, e.Plain g ∧ (f.desk.generation = g → f'.desk.generation = g →
      e.floor.desk.generation = g) := by
  obtain ⟨_, drift, within⟩ := h.inert (onSupply_inert _)
  refine ⟨drift, fun e he => ⟨.of_supply (h.gets e he), fun hf hf' => ?_⟩⟩
  have later := (within e he).1.generation
  have before := (within e he).2.generation
  omega

/-- How far a flash comes to the board that has taken the session. -/
theorem Writes.reaches {errand : Errand} {session : Session} {pre : List Event}
    {r : Option (Except FlashFault FlashSummary)} (hs : f.desk.session = some session)
    (he : errand.source? = some source)
    (tag : Event.tags (pre ++ (x ++ y)) none = some f.desk.generation)
    (first : Early f pre)
    (h : Writes f.desk.generation session.loader source chip { f with desk := f.desk.flashing }
      x f' r) (hy : ∀ e ∈ y, e.op.aside = true) : Reaches errand f (pre ++ (x ++ y)) := by
  have early : ∀ e ∈ pre, e.Plain f.desk.generation := fun e he => .of_aside (first e he).1
  have late : ∀ e ∈ y, e.Plain f.desk.generation := fun e he => .of_aside (hy e he)
  have never (hx : ∀ e ∈ x, e.Plain f.desk.generation) : Reaches errand f (pre ++ (x ++ y)) :=
    .never (List.forall_mem_append.mpr ⟨early, List.forall_mem_append.mpr ⟨hx, late⟩⟩)
  cases h with
  | fetching h => exact never fun e he => .of_supply (h.gets e he)
  | unfetched h => exact never fun e he => (h.steady.2 e he).1
  | late h =>
    refine never (List.forall_mem_append.mpr ⟨fun e he => (h.steady.2 e he).1, ?_⟩)
    exact List.forall_mem_singleton.mpr ⟨rfl, rfl, rfl⟩
  | @writes z w f1 _ payload _ h hg rest =>
    obtain ⟨drift, steady⟩ := h.steady
    let before := pre ++ (z ++ [.does (.current f.desk.generation) true f1,
      telling f1 .info "Writing firmware to flash…"])
    have plain : ∀ e ∈ before, e.Plain f.desk.generation ∧
        e.floor.desk.generation = f.desk.generation := by
      simp only [before, List.forall_mem_append, List.forall_mem_cons]
      exact ⟨fun e he => ⟨early e he, (first e he).2⟩,
        fun e he => ⟨(steady e he).1, (steady e he).2 rfl hg⟩, ⟨⟨rfl, rfl, rfl⟩, hg⟩,
        ⟨⟨rfl, rfl, rfl⟩, hg⟩, List.forall_mem_nil _⟩
    have fetched : supplies before = supplies z := by
      have none : supplies pre = [] := supplies_aside fun e he => (first e he).1
      rw [supplies_append, supplies_append, none]
      exact List.append_nil _
    have flashing : f1.desk.phase = .flashing := by
      rw [drift.same (by rw [hg])]
      rfl
    have quiet : supplies (w ++ y) = [] := by
      rw [supplies_append, supplies_eq_nil rest.quiet, supplies_aside hy, List.append_nil]
    have split : pre ++ (z ++ .does (.current f.desk.generation) true f1 ::
        telling f1 .info "Writing firmware to flash…" ::
          .starts (.writeFlash session.loader payload true f.desk.generation) f1 :: w ++ y) =
        before ++ .starts (.writeFlash session.loader payload true f.desk.generation) f1 ::
          (w ++ y) := by
      simp [before]
    rw [split] at tag ⊢
    exact .writes hs he tag flashing hg plain (fetched ▸ h.yields rfl) quiet (rest.landing hy)

/-- **How far a flash comes to the board.** -/
theorem FlashCourse.reaches {errand : Errand} {r : Option Result}
    (h : FlashCourse errand f x f' r) : Reaches errand f x := by
  cases h with
  | refused _ _ early => exact .never fun e he => .of_aside (early e he).1
  | @accepted session source pre y f' r hp hs he early tag h =>
    cases h with
    | @writing x _ h =>
      have reaches := h.reaches (y := []) hs he (by simpa using tag) early.opening
        (List.forall_mem_nil _)
      simpa using reaches
    | finishing h aside rest =>
      have reaches := h.reaches hs he (by simpa using tag) early.opening aside
      simpa using reaches

/-! ### Counting -/

theorem countP_none {α : Type} {kind : α → Bool} {a : List α} (h : ∀ u ∈ a, kind u = false) :
    a.countP kind = 0 :=
  List.countP_eq_zero.mpr fun u hu => by simp [h u hu]

/-- What lands is no beginning. -/
theorem Event.lands_begins {e : Event} {kind : StationOp → Bool} (h : e.lands g = true) :
    e.begins kind = false := by
  cases e with
  | wakes => rfl
  | does | starts => cases h

theorem Landing.writes_nothing (h : Landing g loader x) :
    ∀ e ∈ x, e.begins isWrite = false := by
  cases h with
  | missed h => exact fun e he => (h e he).1
  | landed he hx _ _ hy =>
    simp only [List.forall_mem_cons, List.forall_mem_append]
    exact ⟨Event.lands_begins he, fun e he => (hx e he).1, (resetOp_isReset _).2,
      fun e he => (hy e he).1⟩

theorem Landing.resets (h : Landing g loader x) :
    x.countP (Event.begins isReset) = x.countP (Event.lands g) ∧ x.countP (Event.lands g) ≤ 1 := by
  cases h with
  | missed h =>
    rw [countP_none fun e he => (h e he).2.1, countP_none fun e he => (h e he).2.2]
    exact ⟨rfl, Nat.zero_le _⟩
  | @landed e a b f hard he hx _ _ hy =>
    have reset : Event.begins isReset (.starts (resetOp loader hard) f) = true :=
      (resetOp_isReset hard).1
    have other : Event.lands g (.starts (resetOp loader hard) f) = false := rfl
    simp only [List.countP_cons, List.countP_append, he, reset, other, Event.lands_begins he,
      countP_none fun e he => (hx e he).2.1, countP_none fun e he => (hy e he).2.1,
      countP_none fun e he => (hx e he).2.2, countP_none fun e he => (hy e he).2.2]
    decide

/-- At most one write begins. -/
theorem Reaches.once {errand : Errand} (h : Reaches errand f x) :
    x.countP (Event.begins isWrite) ≤ 1 := by
  cases h with
  | never h =>
    rw [countP_none fun e he => (h e he).1]
    exact Nat.zero_le 1
  | writes _ _ _ _ _ before _ _ landing =>
    rw [List.countP_append, List.countP_cons, countP_none fun e he => (before e he).1.1,
      countP_none landing.writes_nothing]
    simp [Event.begins, isWrite]

/-- The board is restarted if and only if the write has landed. -/
theorem Reaches.resets {errand : Errand} (h : Reaches errand f x) :
    x.countP (Event.begins isReset) = x.countP (Event.lands f.desk.generation) ∧
      x.countP (Event.lands f.desk.generation) ≤ 1 := by
  cases h with
  | never h =>
    rw [countP_none fun e he => (h e he).2.1, countP_none fun e he => (h e he).2.2]
    exact ⟨rfl, Nat.zero_le _⟩
  | writes _ _ _ _ _ before _ _ landing =>
    simp only [List.countP_append, List.countP_cons, Event.begins, Event.lands,
      countP_none fun e he => (before e he).1.2.1, countP_none fun e he => (before e he).1.2.2,
      landing.resets.1]
    exact ⟨rfl, by simpa [isReset] using landing.resets.2⟩

/-- A flash that was refused or could not get something leaves the board alone. -/
theorem Reaches.spares {errand : Errand} (h : Reaches errand f x)
    (hx : Event.tags x none = none ∨ ∃ a ∈ requests (supplies x), ∃ fault, a.2 = .error fault) :
    ∀ e ∈ x, e.begins isWrite = false ∧ e.begins isReset = false := by
  cases h with
  | never h => exact fun e he => ⟨(h e he).1, (h e he).2.1⟩
  | @writes session source payload before y f1 hs _ tag _ _ _ fetched quiet _ =>
    rcases hx with none | ⟨a, ha, fault, failed⟩
    · rw [tag] at none
      cases none
    · have talk : supplies (before ++ .starts
          (.writeFlash session.loader payload true f.desk.generation) f1 :: y) =
          supplies before := by
        rw [supplies_append]
        show supplies before ++ supplies y = _
        rw [quiet, List.append_nil]
      rw [talk] at ha
      obtain ⟨files, obtained, made⟩ := materialize_obtains source fetched
      cases files with
      | error fault => cases made
      | ok files =>
        obtain ⟨data, had⟩ := obtained.ok_iff.mp ⟨files, rfl⟩ a ha
        rw [failed] at had
        cases had

end

namespace Traffic

variable {config : Config} {t : Traffic} {log : List Deed} {i : Nat} {c : Call}

end Traffic

open Traffic

/-- A flash that waits while its loader writes. -/
def Traffic.writing : Traffic :=
  (Traffic.joined.begin .default (obliging default .closed)
    (.flash (.custom "app.bin" 0 .keep))).carryOn (obliging default .closed) 1 1

end FlashStation
