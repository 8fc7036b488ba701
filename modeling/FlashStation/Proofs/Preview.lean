/-
# A plan foretells its flash

A plan resolves a choice, gets what the choice declares and reports it, without a board. A flash of
the same choice resolves and gets it on its own way, and then writes it. If nobody disconnects
while the flash is under way and both get their bytes from one fetcher, the plan tells what the
flash comes to: it reports if and only if the flash begins to write, and then it lists what is
written; and it fails with the fault with which the flash fails before it writes.

Key definitions: `Supply.served`, `Report.planned`, `Traffic.Undisturbed`, `Listed`, `Comes`,
`Foretold`.
Key theorems: `plan_run`, `Traffic.Run.undisturbed`, `FlashCourse.comes`, `plan_foretells_flash`.
-/
import Mathlib.Algebra.GroupWithZero.Nat
import FlashStation.Proofs.Reversion
import FlashStation.Proofs.Writing

namespace FlashStation

open Station Program StationOp

/-! ### What a plan reports -/

/-- How getting bytes below a base is answered by what answers commands. -/
def Supply.served {σ : Type} (shell : (op : ShellOp) → σ → op.Answer × σ) (root : Base)
    (op : SupplyOp) (s : σ) : op.Answer × σ :=
  (Supply.below root op).run (S := Shell) shell s

namespace FlashedFile

/-- A file of a plan as data. -/
def data (f : FlashedFile) : Json :=
  .obj [("address", .str (addressText f.address)), ("index", .num f.index), ("size", .num f.size)]

/-- A file's line in a plan. -/
def line (f : FlashedFile) : String :=
  s!"  [{Text.decimal f.index}] {addressColumn f.address} " ++ s!"({Text.decimal f.size} bytes)"

end FlashedFile

/-- The report of a plan, with its table of files. -/
def Report.planned (json quiet : Bool) (label : String) (params : FlashParams)
    (files : List FlashedFile) : Report :=
  let total := (files.map (·.size)).sum
  if json then .ofData [("files", .arr (files.map (·.data))), ("params", params.data),
    ("source", .str label), ("totalBytes", .num total)]
  else .lines ((if quiet then [] else [s!"📦 {label}"]) ++ params.line :: (files.map (·.line) ++
    [s!"✓ {Text.decimal files.length} file(s), " ++ s!"{Text.decimal total} bytes total"]))

theorem Payload.flashedFiles_zipIdx (p : Payload) :
    p.flashedFiles = p.files.zipIdx.map fun f => ⟨f.2, f.1.address, f.1.data.length⟩ :=
  List.mapIdx_eq_zipIdx_map

/-- The size of a payload is the sum of the sizes in its table. -/
theorem Payload.totalBytes_eq (p : Payload) : p.totalBytes = (p.flashedFiles.map (·.size)).sum := by
  have sizes : p.flashedFiles.map (·.size) = p.files.map (·.data.length) := by
    rw [p.flashedFiles_zipIdx, List.map_map, Function.comp_def]
    conv_rhs => rw [← List.zipIdx_map_fst 0 p.files, List.map_map, Function.comp_def]
  rw [sizes, List.sum_eq_foldr, List.foldr_map]
  rfl

/-- A plan reports the table of what the summary of a flash lists. -/
theorem report_planned (json quiet : Bool) (source : Source) (payload : Payload) :
    (if json then .ofData (planData source payload) else .lines (planLines quiet source payload)) =
      Report.planned json quiet source.label payload.params payload.flashedFiles := by
  have rows {α : Type} (w : FlashedFile → α) (v : FlashFile × Nat → α)
      (same : ∀ f, v f = w ⟨f.2, f.1.address, f.1.data.length⟩) :
      payload.files.zipIdx.map v = payload.flashedFiles.map w := by
    rw [payload.flashedFiles_zipIdx, List.map_map, Function.comp_def]
    exact List.map_congr_left fun f _ => same f
  have length : payload.files.length = payload.flashedFiles.length := by
    simp [Payload.flashedFiles]
  rw [Report.planned, planData, planLines, rows FlashedFile.data fileData fun _ => rfl,
    rows FlashedFile.line fileLine fun _ => rfl, length, payload.totalBytes_eq]

section
variable {σ : Type} {shell : (op : ShellOp) → σ → op.Answer × σ} {s0 s : σ} {base : String}
  {root : Base} {choice : Choice} {source : Source}

/-- A program that gets bytes runs below a base as they are served there. -/
theorem Shell.below_run {α : Type} (p : Program Supply α) :
    (Shell.below root p).run shell s = p.run (Supply.served shell root) s :=
  run_embed shell (Supply.below root) p s

/-- What a plan of a choice that can be written comes to. -/
theorem planChoice_run (hb : Base.ofText base = .ok root) (h : choice.resolve = .ok source) :
    ((planChoice base choice).run shell s).1 =
      (((materialize source).run (Supply.served shell root) s).1.mapError .payload).map
        fun payload => (source, payload) := by
  unfold planChoice
  rw [h, hb]
  show (((Shell.below root (materialize source)).bind _).run shell s).1 = _
  rw [run_bind, Shell.below_run]
  cases ((materialize source).run (Supply.served shell root) s).1 <;> rfl

/-- A plan goes on with the choice that was asked for. -/
theorem plan_run {wanted : PlanSource} (json quiet : Bool)
    (hw : (wanted.choice base).run shell s0 = (.ok choice, s)) :
    ((plan base wanted json quiet).run shell s0).1 =
      ((planChoice base choice).run shell s).1.map fun made =>
        .planned json quiet made.1.label made.2.params made.2.flashedFiles := by
  unfold plan
  show (((wanted.choice base).bind _).run shell s0).1 = _
  rw [run_bind, hw]
  show (((planChoice base choice).bind _).run shell s).1 = _
  rw [run_bind]
  cases ((planChoice base choice).run shell s).1 with
  | error fault => rfl
  | ok made => exact congrArg Except.ok (report_planned json quiet made.1 made.2)

end

/-! ### A flash that nobody disturbs -/

namespace Traffic

variable {config : Config} {t t' : Traffic} {log : List Deed} {i j : Nat} {c : Call}
  {es : List Event}

/-- Nobody has disconnected since a call was made. -/
def Undisturbed (t : Traffic) (i : Nat) : Prop :=
  ∀ j d, i < j → t.calls[j]? = some d → d.errand ≠ .disconnect

theorem Undisturbed.before (hd : t'.Undisturbed i) (hm : Move config t j es t') :
    t.Undisturbed i := by
  intro k d hk hc
  obtain ⟨d', hc', same, _⟩ := hm.place hc
  rw [← same]
  exact hd k d' hk hc'

/-- While a flash has the station, only a disconnect counts the generation up. -/
theorem Move.generation (h : Orderly config t) (hm : Move config t j es t')
    (hc : t.calls[i]? = some c) (hf : c.errand.isFlash = true) (ho : c.Owns t.floor.desk)
    (hd : t'.Undisturbed i) : t'.floor.desk.generation = t.floor.desk.generation := by
  have flashing := (h.fits c (List.mem_of_getElem? hc) ho.1).flashing hf ho.2
  cases hm with
  | refused => rfl
  | accepted ha =>
    cases ha with
    | connect free => rcases free with other | other <;> rw [flashing] at other <;> cases other
    | flash _ other =>
      rw [flashing] at other
      cases other
    | disconnect =>
      have later := (List.getElem?_eq_some_iff.mp hc).1
      exact absurd rfl (hd _ _ later List.getElem?_concat_length)
  | @resumed _ _ _ _ _ _ q hw hp ran =>
    have turn := h.resumed hw hp q
    exact ran.generation turn.sound turn.fits
  | reported _ _ _ hr =>
    cases hr with
    | late => rfl
    | counts _ _ hf => rw [hf]

/-- A flash that nobody disturbs keeps the station in each step, whoever takes it, and its own
last step ends under its generation. -/
theorem Step.undisturbed (reach : Reach config t) (hs : Step config t j es t')
    (before : ∀ c, t.calls[i]? = some c → c.errand.isFlash = true → c.pending = true →
      c.Owns t.floor.desk ∧ t.floor.desk.generation = c.start.desk.generation)
    (hc : t'.calls[i]? = some c) (hf : c.errand.isFlash = true) (hd : t'.Undisturbed i)
    (live : c.pending = true ∨ j = i) :
    (c.pending = true → c.Owns t'.floor.desk) ∧
      t'.floor.desk.generation = c.start.desk.generation := by
  have hm := reach.move hs
  -- the flash was under way before, and has the station still
  have kept {d : Call} (hw : t.calls[i]? = some d) (hp : d.pending = true)
      (he : d.errand = c.errand) (hst : d.start = c.start) (ht : d.tag = c.tag) :
      (c.pending = true → c.Owns t'.floor.desk) ∧
        t'.floor.desk.generation = c.start.desk.generation := by
    obtain ⟨own, same⟩ := before d hw (he ▸ hf) hp
    have stays := hm.generation reach.orderly hw (he ▸ hf) own hd
    exact ⟨fun now => ⟨now, by rw [← ht, own.2, stays]⟩, by rw [stays, same, hst]⟩
  by_cases hij : j = i
  · subst hij
    cases hm with
    | refused =>
      rw [List.getElem?_concat_length] at hc
      cases hc
      exact ⟨nofun, rfl⟩
    | @accepted errand f f' tag pre es q ha hpre ran =>
      rw [List.getElem?_concat_length] at hc
      cases hc
      have turn := reach.orderly.accepted (q := q) ha
      have stays := ran.generation turn.sound turn.fits
      cases ha with
      | connect | disconnect => cases hf
      | flash => exact ⟨fun now => ⟨now, congrArg some stays.symm⟩, stays⟩
    | resumed hw hp =>
      rw [List.getElem?_set_self (List.getElem?_eq_some_iff.mp hw).1] at hc
      cases hc
      exact kept hw hp rfl rfl rfl
    | reported hw hp =>
      rw [hw] at hc
      cases hc
      exact kept hw hp rfl rfl rfl
  · rw [hs.others (Ne.symm hij)] at hc
    exact kept hc (live.resolve_right hij) rfl rfl rfl

/-- **A flash that nobody disturbs has the station to its end.** -/
theorem Run.undisturbed (run : Run config .new log t) (hc : t.calls[i]? = some c)
    (hf : c.errand.isFlash = true) (hd : t.Undisturbed i)
    (live : c.pending = true ∨ log.getLast?.map Deed.caller = some i) :
    (c.pending = true → c.Owns t.floor.desk) ∧
      t.floor.desk.generation = c.start.desk.generation := by
  induction run generalizing c with
  | here => cases hc
  | @step log t t' j es run hs ih =>
    have reach : Reach config t := ⟨_, run⟩
    refine hs.undisturbed reach (fun c hc hf hp => ?_) hc hf hd (live.imp_right fun own => ?_)
    · obtain ⟨own, same⟩ := ih hc hf (hd.before (reach.move hs)) (.inl hp)
      exact ⟨own hp, same⟩
    · simpa using own

/-- The record that a call found fits together. -/
theorem Run.start_sound (run : Run config .new log t) (hc : t.calls[i]? = some c) :
    c.start.Sound := by
  induction run generalizing i c with
  | here => cases hc
  | @step log t t' j es run hs ih =>
    have reach : Reach config t := ⟨_, run⟩
    by_cases hij : i = j
    · subst hij
      cases hs with
      | begins =>
        rw [List.getElem?_concat_length] at hc
        cases hc
        exact reach.orderly.sound
      | @resumes _ d _ _ hw =>
        rw [List.getElem?_set_self (List.getElem?_eq_some_iff.mp hw).1] at hc
        cases hc
        exact ih (c := d) hw
      | reports => exact ih hc
    · rw [hs.others hij] at hc
      exact ih hc

/-- Where the last step was its own, a call's course leads to the floor as it is now. -/
theorem Run.last_course (run : Run config .new log t) (last : log.getLast?.map Deed.caller = some i)
    (hc : t.calls[i]? = some c) :
    ∃ f, Course none (c.errand.program config) c.start (diary log i) f c.rest ∧
      f.desk.generation ≤ t.floor.desk.generation := by
  cases run with
  | here => cases hc
  | @step log t _ j es run hs =>
    obtain rfl : j = i := by simpa using last
    obtain ⟨f, course, under, ended⟩ := hs.course run hc
    refine ⟨f, course, ?_⟩
    cases hp : c.pending with
    | true => exact (under hp).generation
    | false => exact Nat.le_of_eq (by rw [ended hp])

end Traffic

/-! ### What a flash comes to -/

/-- A payload that was written is listed in the trail, and in the summary when the flash is over. -/
def Listed (payload : Payload) (x : List Event) (r : Option (Except FlashFault FlashSummary)) :
    Prop :=
  (∃ f, payload.flashedFiles.map (fun file => telling f .info file.text) <:+: x) ∧
    ∀ outcome, r = some outcome → ∃ summary, outcome = .ok summary ∧
      summary.files = payload.flashedFiles

/-- What a flash of a source comes to that keeps the station. -/
inductive Comes (source : Source) (loader : Loader) (g : Nat) (x : List Event) :
    Option (Except FlashFault FlashSummary) → Prop where
  | fetching (asks : (materialize source).Asks (supplies x))
      (quiet : ∀ e ∈ x, e.begins isWrite = false) : Comes source loader g x none
  | unfetched {fault : FetchFault} (talk : (materialize source).Yields (supplies x) (.error fault))
      (quiet : ∀ e ∈ x, e.begins isWrite = false) :
      Comes source loader g x (some (.error (.fetch fault)))
  | writes {payload : Payload} {r : Option (Except FlashFault FlashSummary)}
      (talk : (materialize source).Yields (supplies x) (.ok payload))
      (begun : ∃ f, .starts (.writeFlash loader payload true g) f ∈ x)
      (only : ∀ op f, .starts op f ∈ x → op.isWrite = true → op = .writeFlash loader payload true g)
      (failed : ∀ fault, r = some (.error fault) → ∃ e, fault = .write e)
      (landed : ∀ f, .wakes (.writeFlash loader payload true g) (.ok ()) f ∈ x →
        Listed payload x r) : Comes source loader g x r

section
variable {g : Nat} {loader : Loader} {payload : Payload} {source : Source} {chip : Option String}
  {f f' : Floor} {x pre post : List Event}

/-- Who is aside writes nothing. -/
theorem Event.begins_aside {e : Event} (h : e.op.aside = true) : e.begins isWrite = false :=
  (Event.Plain.of_aside (g := 0) h).1

theorem summaryEvents_rows (f : Floor) (chip : Option String) (payload : Payload) :
    payload.flashedFiles.map (fun file => telling f .info file.text) <:+:
      summaryEvents f chip payload :=
  ⟨_, _, rfl⟩

/-- After the write has begun, if the flash keeps the station. -/
theorem Lands.lists {r : Option (Except FlashFault FlashSummary)}
    (h : Lands g loader payload chip f x f' r) (hg : f'.desk.generation = g) {f1 : Floor}
    (landed : .wakes (.writeFlash loader payload true g) (.ok ()) f1 ∈ x) : Listed payload x r := by
  cases h with
  | writing => cases landed
  | fails => cases List.mem_singleton.mp landed
  | overtaken _ late => exact absurd hg late
  | @written f2 _ hard y r _ _ _ =>
    have summary := summaryEvents_rows f2 chip payload
    refine ⟨⟨f2, summary.trans ⟨[_, _, _], _, rfl⟩⟩, fun outcome e => ?_⟩
    obtain ⟨reset, _, rfl⟩ := Option.map_eq_some_iff.mp e
    exact ⟨_, rfl, rfl⟩

/-- No other write begins after the write has begun. -/
theorem Lands.begins_nothing {r : Option (Except FlashFault FlashSummary)}
    (h : Lands g loader payload chip f x f' r) : ∀ e ∈ x, e.begins isWrite = false := by
  have landing := h.landing (y := []) (List.forall_mem_nil _)
  rw [List.append_nil] at landing
  exact landing.writes_nothing

theorem StationOp.isWrite_not_aside {op : StationOp} (h : op.isWrite = true) :
    op.aside = false := by
  cases op <;> first | rfl | cases h

/-- What happens aside does not matter for what a flash comes to. -/
theorem Comes.within {r : Option (Except FlashFault FlashSummary)} (h : Comes source loader g x r)
    (hpre : ∀ e ∈ pre, e.op.aside = true) (hpost : ∀ e ∈ post, e.op.aside = true) :
    Comes source loader g (pre ++ (x ++ post)) r := by
  have talk : supplies (pre ++ (x ++ post)) = supplies x := by
    rw [supplies_append, supplies_append, supplies_aside hpre, supplies_aside hpost,
      List.append_nil, List.nil_append]
  have quiet (hx : ∀ e ∈ x, e.begins isWrite = false) :
      ∀ e ∈ pre ++ (x ++ post), e.begins isWrite = false :=
    List.forall_mem_append.mpr ⟨fun e he => Event.begins_aside (hpre e he),
      List.forall_mem_append.mpr ⟨hx, fun e he => Event.begins_aside (hpost e he)⟩⟩
  -- writing is never aside, so all about it is in the middle
  have inner {e : Event} (he : e ∈ pre ++ (x ++ post)) (h : e.op.aside = false) : e ∈ x := by
    rcases List.mem_append.mp he with he | he
    · rw [hpre e he] at h
      cases h
    · refine (List.mem_append.mp he).resolve_right fun he => ?_
      rw [hpost e he] at h
      cases h
  cases h with
  | fetching asks none => exact .fetching (talk.symm ▸ asks) (quiet none)
  | unfetched fetched none => exact .unfetched (talk.symm ▸ fetched) (quiet none)
  | writes fetched begun only failed landed =>
    refine .writes (talk.symm ▸ fetched) (begun.imp fun f h => by simp [h])
      (fun op f he ho => only op f (inner he (isWrite_not_aside ho)) ho) failed fun f he => ?_
    obtain ⟨⟨f1, rows⟩, summary⟩ := landed f (inner he rfl)
    exact ⟨⟨f1, rows.trans (List.infix_append' ..)⟩, summary⟩

/-- While bytes are fetched, no write begins. -/
theorem Course.begins_nothing {α : Type} {tag : Option Nat} {p : Program Supply α}
    {q : Program Station α} (h : Course tag (onSupply p) f x f' q) :
    ∀ e ∈ x, e.begins isWrite = false := by
  intro e he
  have plain : e.Plain 0 := .of_supply (h.gets e he)
  exact plain.1

/-- From the fetching on, if the flash keeps the station. -/
theorem Writes.comes {r : Option (Except FlashFault FlashSummary)}
    (h : Writes g loader source chip f x f' r) (hg : f'.desk.generation = g) :
    Comes source loader g x r := by
  cases h with
  | fetching h hq => exact .fetching (h.asks hq) h.begins_nothing
  | unfetched h => exact .unfetched (h.yields rfl) (Course.begins_nothing h)
  | late _ late => exact absurd hg late
  | @writes y z f1 _ payload _ h _ rest =>
    have talk : supplies (y ++ .does (.current g) true f1 ::
        telling f1 .info "Writing firmware to flash…" ::
          .starts (.writeFlash loader payload true g) f1 :: z) = supplies y := by
      rw [supplies_append]
      show supplies y ++ supplies z = _
      rw [supplies_eq_nil rest.quiet, List.append_nil]
    refine .writes (talk.symm ▸ h.yields rfl) ⟨f1, by simp⟩ (fun op f he ho => ?_)
      (fun fault e => (rest.failures.2 fault e).resolve_left fun late => late.2 hg) fun f2 he => ?_
    · have begins : Event.begins isWrite (.starts op f) = true := ho
      rcases List.mem_append.mp he with he | he
      · rw [Course.begins_nothing h _ he] at begins
        cases begins
      · simp only [List.mem_cons] at he
        rcases he with he | he | he | he
        · cases he
        · cases he
        · cases he
          rfl
        · rw [rest.begins_nothing _ he] at begins
          cases begins
    · have after : .wakes (.writeFlash loader payload true g) (.ok ()) f2 ∈ z := by
        rcases List.mem_append.mp he with he | he
        · obtain ⟨_, no⟩ := h.gets _ he
          cases no
        · simpa [telling] using he
      obtain ⟨⟨f3, rows⟩, summary⟩ := rest.lists hg after
      have last := List.suffix_append (y ++ [.does (.current g) true f1,
        telling f1 .info "Writing firmware to flash…",
        .starts (.writeFlash loader payload true g) f1]) z
      exact ⟨⟨f3, rows.trans (by simpa using last.isInfix)⟩, summary⟩

/-- A flash that keeps the station gives back its outcome. -/
theorem Finishes.keeps {session : Session} {outcome : Except FlashFault FlashSummary}
    {r : Option (Except FlashFault FlashSummary)} (h : Finishes g session f outcome f' r)
    (before : g ≤ f.desk.generation) (hg : f'.desk.generation ≤ g) :
    f.desk.generation = g ∧ r = some outcome := by
  cases h with
  | givesBack late hd =>
    have later := hd.generation
    omega
  | flashed now | failed now => exact ⟨now, rfl⟩

/-- The source of a flash of a choice is what the choice resolves to. -/
theorem Errand.resolved {choice : Choice} (h : (Errand.flashChoice choice).source? = some source) :
    choice.resolve = .ok source := by
  change choice.resolve.toOption = some source at h
  cases hc : choice.resolve with
  | ok s =>
    rw [hc] at h
    cases h
    rfl
  | error =>
    rw [hc] at h
    cases h

/-- Only a flash of a choice fails because of a choice. -/
theorem Result.of_choice {r : Result} {fault : ChoiceFault} (h : r.failure = some (.choice fault)) :
    r = .flashedChoice (.error (.choice fault)) := by
  cases r with
  | flashedChoice result =>
    cases result with
    | error =>
      cases h
      rfl
    | ok => cases h
  | connected result | flashed result => cases result <;> cases h
  | disconnected => cases h

/-- **What a flash of a choice comes to that keeps the station.** -/
theorem FlashCourse.comes {choice : Choice} {session : Session} {r : Option Result}
    (h : FlashCourse (.flashChoice choice) f x f' r) (hp : f.desk.phase = .connected)
    (hs : f.desk.session = some session) (hg : f'.desk.generation ≤ f.desk.generation) :
    (∃ fault, choice.resolve = .error fault ∧ r = some (.flashedChoice (.error (.choice fault))) ∧
      ∀ e ∈ x, e.begins isWrite = false) ∨
    ∃ source o, choice.resolve = .ok source ∧ r = o.map (Errand.flashChoice choice).flashed ∧
      Comes source session.loader f.desk.generation x o := by
  cases h with
  | @refused _ e r h hr early =>
    left
    cases h with
    | notConnected _ away =>
      rcases away with other | none
      · exact absurd hp other
      · rw [hs] at none
        cases none
    | choice _ resolved =>
      exact ⟨_, resolved, congrArg some (Result.of_choice hr),
        fun e he => Event.begins_aside (early e he).1⟩
  | @accepted session' source pre y _ o _ hs' he early _ h =>
    right
    obtain rfl : session = session' := Option.some.inj (hs.symm.trans hs')
    refine ⟨source, o, Errand.resolved he, rfl, ?_⟩
    have first := fun e he => (early.opening e he).1
    cases h with
    | writing h =>
      have same := Nat.le_antisymm hg h.failures.1.generation
      have nothing : ∀ e ∈ ([] : List Event), e.op.aside = true := List.forall_mem_nil _
      simpa using (h.comes same).within first nothing
    | finishing h aside rest =>
      obtain ⟨same, rfl⟩ := rest.keeps h.failures.1.generation hg
      simpa using (h.comes same).within first aside

end

/-! ### The plan and the flash -/

/-- What a plan has got, and what a flash comes to that has got it from the same fetcher and keeps
the station. -/
inductive Foretold (loader : Loader) (g : Nat) (x : List Event) :
    Except CommandFault (Source × Payload) → Option Result → Prop where
  | choice {fault : ChoiceFault} (quiet : ∀ e ∈ x, e.begins isWrite = false) :
      Foretold loader g x (.error (.choice fault)) (some (.flashedChoice (.error (.choice fault))))
  | payload {fault : FetchFault} (quiet : ∀ e ∈ x, e.begins isWrite = false) :
      Foretold loader g x (.error (.payload fault))
        (some (.flashedChoice (.error (.flash (.fetch fault)))))
  | writes {source : Source} {payload : Payload} {o : Option (Except FlashFault FlashSummary)}
      (begun : ∃ f, .starts (.writeFlash loader payload true g) f ∈ x)
      (only : ∀ op f, .starts op f ∈ x → op.isWrite = true → op = .writeFlash loader payload true g)
      (failed : ∀ fault, o = some (.error fault) → ∃ e, fault = .write e)
      (landed : ∀ f, .wakes (.writeFlash loader payload true g) (.ok ()) f ∈ x →
        Listed payload x o) :
      Foretold loader g x (.ok (source, payload))
        (o.map fun r => .flashedChoice (r.mapError .flash))

/-- How a flash fails of which a plan has failed so. -/
def CommandFault.foretells : CommandFault → Option Failure
  | .choice fault => some (.choice fault)
  | .payload fault => some (.flash (.fetch fault))
  | _ => none

section
variable {σ α : Type} {shell : (op : ShellOp) → σ → op.Answer × σ} {s : σ} {base : String}
  {root : Base} {choice : Choice} {loader : Loader} {g : Nat} {f f' : Floor} {x : List Event}
  {made : Except CommandFault (Source × Payload)} {r : Option Result} {w : Source × Payload → α}

/-- **A plan foretells a flash of the same choice that keeps the station.** The flash has not
asked for all yet that the plan has asked for, or it comes to what is foretold. -/
theorem FlashCourse.foretold {session : Session} (h : FlashCourse (.flashChoice choice) f x f' r)
    (hp : f.desk.phase = .connected) (hs : f.desk.session = some session)
    (hg : f'.desk.generation ≤ f.desk.generation) (hb : Base.ofText base = .ok root)
    (same : Answers (Supply.served shell root) s (supplies x)) :
    (r = none ∧ (∀ e ∈ x, e.begins isWrite = false) ∧ ∃ source, choice.resolve = .ok source ∧
      ∃ e rest, (materialize source).talk (Supply.served shell root) s = supplies x ++ e :: rest) ∨
    Foretold session.loader f.desk.generation x ((planChoice base choice).run shell s).1 r := by
  rcases h.comes hp hs hg with ⟨fault, resolved, rfl, quiet⟩ | ⟨source, o, resolved, rfl, comes⟩
  · rw [planChoice, resolved]
    exact .inr (.choice quiet)
  · rw [planChoice_run hb resolved]
    cases comes with
    | fetching asks quiet => exact .inl ⟨rfl, quiet, source, resolved, asks.more same⟩
    | unfetched talk quiet =>
      rw [talk.run same]
      exact .inr (.payload quiet)
    | writes talk begun only failed landed =>
      rw [talk.run same]
      exact .inr (.writes begun only failed landed)

namespace Foretold

theorem settled (h : Foretold loader g x made r) :
    r ≠ none ∨ ∃ e ∈ x, e.begins isWrite = true := by
  cases h with
  | choice | payload => exact .inl nofun
  | writes begun => exact .inr (begun.elim fun f hf => ⟨_, hf, rfl⟩)

theorem reports_iff (h : Foretold loader g x made r) :
    (∃ a, made.map w = .ok a) ↔ ∃ e ∈ x, e.begins isWrite = true := by
  cases h with
  | choice quiet | payload quiet =>
    refine ⟨nofun, fun ⟨e, he, begins⟩ => ?_⟩
    rw [quiet e he] at begins
    cases begins
  | writes begun => exact ⟨fun _ => begun.elim fun f hf => ⟨_, hf, rfl⟩, fun _ => ⟨_, rfl⟩⟩

/-- A flash that writes fails with no other fault than one of writing. -/
theorem late {o : Option (Except FlashFault FlashSummary)} {e : Failure}
    (failed : ∀ fault, o = some (.error fault) → ∃ e, fault = .write e)
    (h : (o.map fun r => Result.flashedChoice (r.mapError .flash)).bind Result.failure = some e) :
    ∃ fault, e = .flash (.write fault) := by
  rcases o with _ | fault | summary
  · cases h
  · cases h
    obtain ⟨fault, rfl⟩ := failed fault rfl
    exact ⟨fault, rfl⟩
  · cases h

/-- The plan fails before the flash would write, if and only if the flash does, and for the same. -/
theorem fails_iff (h : Foretold loader g x made r) {fault : CommandFault} {e : Failure}
    (he : fault.foretells = some e) :
    made.map w = .error fault ↔ r.bind Result.failure = some e := by
  cases h with
  | choice | payload => cases fault <;> cases he <;> simp [Except.map, Result.failure]
  | writes _ _ failed =>
    refine ⟨nofun, fun failing => ?_⟩
    obtain ⟨_, rfl⟩ := late failed failing
    cases fault <;> cases he

theorem misuse_iff (h : Foretold loader g x made r) :
    (∃ fault, made.map w = .error fault ∧ fault.exitCode = CommandFault.misuseCode) ↔
      ∃ fault, r.bind Result.failure = some (.choice fault) := by
  constructor
  · rintro ⟨fault, failed, misuse⟩
    cases h with
    | choice => exact ⟨_, rfl⟩
    | payload =>
      cases failed
      cases misuse
    | writes => cases failed
  · rintro ⟨fault, failed⟩
    exact ⟨.choice fault, (h.fails_iff rfl).mpr failed, rfl⟩

/-- What a flash writes is what the plan has got. -/
theorem written (h : Foretold loader g x made r) {op : StationOp} {f1 : Floor}
    (he : .starts op f1 ∈ x) (ho : op.isWrite = true) :
    ∃ source payload, op = .writeFlash loader payload true g ∧ made = .ok (source, payload) ∧
      ∀ f2, .wakes (.writeFlash loader payload true g) (.ok ()) f2 ∈ x →
        (∃ f3, payload.flashedFiles.map (fun file => telling f3 .info file.text) <:+: x) ∧
        ∀ result, r = some result → ∃ summary, result = .flashedChoice (.ok summary) ∧
          summary.files = payload.flashedFiles := by
  cases h with
  | choice quiet | payload quiet =>
    have silent : op.isWrite = false := quiet _ he
    rw [ho] at silent
    cases silent
  | @writes source payload o _ only _ landed =>
    refine ⟨source, payload, only op f1 he ho, rfl, fun f2 landing => ?_⟩
    obtain ⟨rows, listed⟩ := landed f2 landing
    refine ⟨rows, fun result hr => ?_⟩
    obtain ⟨outcome, rfl, rfl⟩ := Option.map_eq_some_iff.mp hr
    obtain ⟨summary, rfl, files⟩ := listed outcome rfl
    exact ⟨summary, rfl, files⟩

end Foretold

end

open Traffic

/-- **A plan foretells its flash.** Take a flash of a choice that was made while the station was
connected, in any run in which nobody has disconnected since, right after a step of the flash; and
a plan of the same choice, below the base of the same fetcher, which answers both alike. The flash
is over or has begun to write, or there is more to ask the fetcher for that the plan has asked for.
In the first case, the plan reports if and only if a write has begun. What is written is what the
plan has got, its report is the table of what is written, and if the write works, the trail and
the summary list the same files. The plan fails as misuse if and only if the choice is what the
flash is refused for, and for its payload if and only if the flash fails to get it, with the same
fault. -/
theorem plan_foretells_flash {σ : Type} {shell : (op : ShellOp) → σ → op.Answer × σ} {s0 s : σ}
    {base : String} {root : Base} {wanted : PlanSource} {choice : Choice} (json quiet : Bool)
    {config : Config} {t : Traffic} {log : List Deed} {i : Nat} {c : Call}
    (hb : Base.ofText base = .ok root)
    (hw : (wanted.choice base).run shell s0 = (.ok choice, s))
    (run : Run config .new log t) (last : log.getLast?.map Deed.caller = some i)
    (hc : t.calls[i]? = some c) (he : c.errand = .flashChoice choice)
    (hp : c.start.desk.phase = .connected) (hd : t.Undisturbed i)
    (same : Answers (Supply.served shell root) s (supplies (diary log i))) :
    let x := diary log i
    let told := ((plan base wanted json quiet).run shell s0).1
    let settled := c.pending = false ∨ ∃ e ∈ x, e.begins isWrite = true
    (settled ∨ ∃ source, choice.resolve = .ok source ∧
      ∃ e rest, (materialize source).talk (Supply.served shell root) s = supplies x ++ e :: rest) ∧
    (settled →
      ((∃ report, told = .ok report) ↔ ∃ e ∈ x, e.begins isWrite = true) ∧
      (∀ op f, .starts op f ∈ x → op.isWrite = true → ∃ session source payload,
        c.start.desk.session = some session ∧
        op = .writeFlash session.loader payload true c.start.desk.generation ∧
        ((planChoice base choice).run shell s).1 = .ok (source, payload) ∧
        told = .ok (.planned json quiet source.label payload.params payload.flashedFiles) ∧
        ∀ f', .wakes (.writeFlash session.loader payload true c.start.desk.generation) (.ok ()) f'
            ∈ x →
          (∃ f1, payload.flashedFiles.map (fun file => telling f1 .info file.text) <:+: x) ∧
          ∀ r, c.rest.value = some r → ∃ summary, r = .flashedChoice (.ok summary) ∧
            summary.files = payload.flashedFiles) ∧
      ((∃ fault, told = .error fault ∧ fault.exitCode = CommandFault.misuseCode) ↔
        ∃ fault, c.failure = some (.choice fault)) ∧
      (∀ fault, told = .error (.choice fault) ↔ c.failure = some (.choice fault)) ∧
      ∀ fault, told = .error (.payload fault) ↔ c.failure = some (.flash (.fetch fault))) := by
  intro x told settled
  have hf : c.errand.isFlash = true := by
    rw [he]
    rfl
  obtain ⟨session, hs⟩ := Option.isSome_iff_exists.mp
    ((run.start_sound hc).coherent.session.mpr hp)
  obtain ⟨f, course, bound⟩ := run.last_course last hc
  rw [(run.undisturbed hc hf hd (.inr last)).2] at bound
  have flash := course.flash_begins hf
  rw [he] at flash
  have ended : c.rest.value ≠ none ↔ c.pending = false := by
    unfold Call.pending
    cases c.rest <;> simp [Program.value]
  rcases flash.foretold hp hs bound hb same with ⟨under, quiet, more⟩ | foretold
  · refine ⟨.inr more, fun far => ?_⟩
    rcases far with done | ⟨e, he, begins⟩
    · exact absurd under (ended.mpr done)
    · rw [quiet e he] at begins
      cases begins
  have plan_eq : told = _ := plan_run json quiet hw
  rw [plan_eq]
  refine ⟨.inl (foretold.settled.imp_left ended.mp), fun _ => ⟨foretold.reports_iff,
    fun op f1 he ho => ?_, foretold.misuse_iff, fun _ => foretold.fails_iff rfl,
    fun _ => foretold.fails_iff rfl⟩⟩
  obtain ⟨source, payload, written, made, landed⟩ := foretold.written he ho
  exact ⟨session, source, payload, hs, written, made, by rw [made]; rfl, landed⟩

/-- Every file is empty, and there is nothing else. -/
def emptyHanded : (op : ShellOp) → Unit → op.Answer × Unit
  | .holds _, s => (true, s)
  | .read _, s | .fetch _ _, s => (.ok [], s)
  | .ports, s => (.ok [], s)
  | .prompt _ _, s => (none, s)
  | .system op, s =>
    (match op with
      | .openDevice _ _ _ | .clone _ | .setBaud _ _ | .flush _ => .error "No such device"
      | .read _ _ | .write _ _ => .error .timedOut
      | .drop _ | .sleep _ | .log _ _ | .note _ => (), s)

/-- A file for the lowest address. -/
def lowFile : CustomFile := ⟨some "app.bin", "0x0000", .keep⟩

/-- A flash of an empty file has begun to write, as its plan has said. -/
theorem empty_file_foretold :
    let before := Traffic.joined.begin .default (obliging default .closed)
      (.flashChoice (.custom lowFile))
    let t := before.resume (obliging default .closed) 1
    let told := ((plan "public" (.file lowFile) true false).run emptyHanded ()).1
    ∃ log c, Run .default .new log t ∧ t.calls[1]? = some c ∧ c.pending = true ∧
      (∃ e ∈ diary log 1, e.begins isWrite = true) ∧ ∃ report, told = .ok report := by
  intro before t told
  let start := ((Errand.flashChoice (.custom lowFile)).program .default).advance
    (obliging default .closed) Traffic.joined.floor
  let es := before.events (obliging default .closed) 1
  let made : Deed := ⟨Traffic.joined.calls.length, start.1, Traffic.joined.floor, before.floor⟩
  let went : Deed := ⟨1, es, before.floor, t.floor⟩
  obtain ⟨log, run⟩ := Reach.joined
  have alone : Traffic.joined.calls.length = 1 := by decide +kernel
  have run' : Run .default .new (log ++ [made]) before := run.step (.begins _ (.advance _ _ _))
  have step : Step .default before 1 es t := .resume _ (by decide +kernel)
  have run'' : Run .default .new (log ++ [made] ++ [went]) t := run'.step step
  have own : diary (log ++ [made] ++ [went]) 1 = start.1 ++ es := by
    have first : diary log 1 = [] :=
      diary_none fun d hd => Nat.ne_of_lt (alone ▸ run.noted.1 d hd)
    rw [diary_own rfl rfl, diary_own alone (by decide +kernel), first, List.nil_append]
  have look : t.calls[1]?.map (fun c => (c.errand, c.start.desk.phase, c.pending)) =
      some (.flashChoice (.custom lowFile), .connected, true) := by
    decide +kernel
  obtain ⟨c, hc, look⟩ := Option.map_eq_some_iff.mp look
  obtain ⟨he, look⟩ := Prod.mk.inj look
  obtain ⟨hp, pending⟩ := Prod.mk.inj look
  have last : (log ++ [made] ++ [went]).getLast?.map Deed.caller = some 1 := by simp [went]
  have undisturbed : t.Undisturbed 1 := by
    intro j d hj hd
    have short := (List.getElem?_eq_some_iff.mp hd).1
    have length : t.calls.length = 2 := by decide +kernel
    omega
  have same : Answers (Supply.served emptyHanded (.directory "public")) ()
      (supplies (diary (log ++ [made] ++ [went]) 1)) := by
    rw [own]
    exact ⟨rfl, rfl, trivial⟩
  have begun : ∃ e ∈ diary (log ++ [made] ++ [went]) 1, e.begins isWrite = true := by
    rw [own, ← List.any_eq_true]
    decide +kernel
  have found : Base.ofText "public" = .ok (.directory "public") := rfl
  have chosen : ((PlanSource.file lowFile).choice "public").run emptyHanded () =
      (.ok (.custom lowFile), ()) := rfl
  have foretold := plan_foretells_flash true false found chosen run'' last hc he hp undisturbed same
  obtain ⟨reports, _⟩ := foretold.2 (.inr begun)
  exact ⟨_, c, run'', hc, pending, begun, reports.mpr begun⟩

end FlashStation
