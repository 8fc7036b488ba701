/-
# The account of a flash

What happens in a flash, step by step. Before it is accepted it only looks at the record and asks
nobody for anything. Then it fetches; it looks at its generation and writes; it looks again and
restarts the board; and at last it puts the session back, or gives the port back if it was
superseded. An account says how far a flash has come and with which events, and what it gives back
when it is over.

Key definitions: `StationOp.aside`, `Early`, `Refusal`, `Fetches`, `Resets`, `Lands`, `Writes`,
`Finishes`, `Flashes`, `FlashStart`.
Key theorems: `Course.writes`, `Course.finishes`, `Course.flashes`, `Course.flash_starts`,
`Course.flash_begins`.
-/
import FlashStation.Proofs.Course
import FlashStation.Proofs.Fetching

namespace FlashStation

open Station Program StationOp

/-! ### Events -/

/-- Whether an operation neither gets bytes nor changes what the board holds or does. -/
def StationOp.aside : StationOp → Bool
  | .supply _ | .writeFlash _ _ _ _ | .hardReset _ | .softReset _ => false
  | _ => true

/-- An entry is added to the trail. -/
def telling (f : Floor) (variant : Variant) (message : String) : Event :=
  .does (.link (.log variant message)) () f

/-- What an event adds to the talk with the fetcher. -/
def Event.supply? : Event → Option (Exchange Supply)
  | .does (.supply op) answer _ | .wakes (.supply op) answer _ => some ⟨op, answer⟩
  | _ => none

/-- The talk with the fetcher in some events. -/
def supplies (x : List Event) : List (Exchange Supply) :=
  x.filterMap Event.supply?

/-- Events before a call is accepted or refused: nobody is asked for anything, and the generation
stays. -/
def Early (f : Floor) (x : List Event) : Prop :=
  ∀ e ∈ x, e.op.aside = true ∧ e.floor.desk.generation = f.desk.generation

/-! ### What a flash can come to -/

namespace Errand

/-- The source that a flash writes, if what was chosen can be written. -/
def source? : Errand → Option Source
  | .flash source => some source
  | .flashChoice choice => choice.resolve.toOption
  | .connect _ | .disconnect => none

/-- The outcome of a flash, as its caller gets it. -/
def flashed : Errand → Except FlashFault FlashSummary → Result
  | .flashChoice _, r => .flashedChoice (r.mapError .flash)
  | _, r => .flashed r

end Errand

/-- Why a call is refused, with the record `d`. -/
inductive Refusal (d : Desk) : Errand → Failure → Prop where
  | unsupported {preferred : Option UInt32} : Refusal d (.connect preferred) (.connect .unsupported)
  | busy {preferred : Option UInt32} (h : d.phase = .connecting ∨ d.phase = .flashing) :
      Refusal d (.connect preferred) (.connect (.busy d.phase))
  | notConnected {errand : Errand} (he : errand.isFlash = true)
      (h : d.phase ≠ .connected ∨ d.session = none) :
      Refusal d errand (.flash (.notConnected d.phase))
  | choice {choice : Choice} {fault : ChoiceFault} (hp : d.phase = .connected)
      (h : choice.resolve = .error fault) : Refusal d (.flashChoice choice) (.choice fault)

/-- The fault that a call gives back. -/
def Result.failure : Result → Option Failure
  | .connected (.error fault) => some (.connect fault)
  | .flashed (.error fault) => some (.flash fault)
  | .flashedChoice (.error fault) => some fault
  | _ => none

/-- A program fetches a source on behalf of a flash, and comes to `r` if it is over. -/
def Fetches (g : Nat) (source : Source) (f : Floor) (x : List Event) (f' : Floor)
    (r : Except FetchFault Payload) : Prop :=
  Course (some g) (onSupply (materialize source)) f x f' (.done r)

/-- The operation that restarts the board. -/
def resetOp (loader : Loader) (hard : Bool) : StationOp :=
  if hard then .hardReset loader else .softReset loader

/-- What is added to the trail when a payload was written. -/
def summaryEvents (f : Floor) (chip : Option String) (payload : Payload) : List Event :=
  [telling f .info "--- Flash Summary ---", telling f .info ("Chip: " ++ chip.getD "Unknown"),
    telling f .info s!"Files written: {Text.decimal payload.files.length}"] ++
  payload.flashedFiles.map (fun file => telling f .info file.text) ++
  [telling f .info "--------------------"]

/-- After the restart has begun. -/
inductive Resets (g : Nat) (op : StationOp) (f : Floor) :
    List Event → Floor → Option ResetOutcome → Prop where
  | waits : Resets g op f [] f none
  | ended {answer : op.Answer} {f' : Floor} {variant : Variant} {message : String}
      (outcome : ResetOutcome) (hd : Drift (some g) f f') :
      Resets g op f [.wakes op answer f', telling f' variant message] f' (some outcome)

/-- After the writing has begun. -/
inductive Lands (g : Nat) (loader : Loader) (payload : Payload) (chip : Option String) (f : Floor) :
    List Event → Floor → Option (Except FlashFault FlashSummary) → Prop where
  | writing : Lands g loader payload chip f [] f none
  | fails {f' : Floor} {fault : ProtocolFault} (hd : Drift (some g) f f') :
      Lands g loader payload chip f [.wakes (.writeFlash loader payload true g) (.error fault) f']
        f' (some (.error (.write fault)))
  | overtaken {f' : Floor} (hd : Drift (some g) f f') (hg : f'.desk.generation ≠ g) :
      Lands g loader payload chip f
        [.wakes (.writeFlash loader payload true g) (.ok ()) f', .does (.current g) false f'] f'
        (some (.error .superseded))
  | written {f1 f' : Floor} {hard : Bool} {x : List Event} {r : Option ResetOutcome}
      (hd : Drift (some g) f f1) (hg : f1.desk.generation = g)
      (rest : Resets g (resetOp loader hard) f1 x f' r) :
      Lands g loader payload chip f
        (.wakes (.writeFlash loader payload true g) (.ok ()) f1 :: .does (.current g) true f1 ::
          telling f1 .success "Firmware written successfully" :: (summaryEvents f1 chip payload ++
            .does (.hasHardReset loader) hard f1 :: .starts (resetOp loader hard) f1 :: x))
        f' (r.map fun outcome => .ok ⟨chip, payload.flashedFiles, outcome⟩)

/-- What a flash does once its loader has answered. -/
def wrapUp (g : Nat) (loader : Loader) (payload : Payload) (chip : Option String) :
    Except ProtocolFault Unit → Program Station (Except FlashFault FlashSummary)
  | .error fault => pure (.error (.write fault))
  | .ok () => do
    if !(← isCurrent g) then pure (.error .superseded)
    else
      log .success "Firmware written successfully"
      logSummary chip payload
      let outcome ← reset loader
      pure (.ok ⟨chip, payload.flashedFiles, outcome⟩)

/-- From the fetching on. -/
inductive Writes (g : Nat) (loader : Loader) (source : Source) (chip : Option String) (f : Floor) :
    List Event → Floor → Option (Except FlashFault FlashSummary) → Prop where
  | fetching {x : List Event} {f' : Floor} {q : Program Station (Except FetchFault Payload)}
      (h : Course (some g) (onSupply (materialize source)) f x f' q) (hq : q.value = none) :
      Writes g loader source chip f x f' none
  | unfetched {x : List Event} {f' : Floor} {fault : FetchFault}
      (h : Fetches g source f x f' (.error fault)) :
      Writes g loader source chip f x f' (some (.error (.fetch fault)))
  | late {x : List Event} {f' : Floor} {payload : Payload}
      (h : Fetches g source f x f' (.ok payload)) (hg : f'.desk.generation ≠ g) :
      Writes g loader source chip f (x ++ [.does (.current g) false f']) f'
        (some (.error .superseded))
  | writes {x y : List Event} {f1 f' : Floor} {payload : Payload}
      {r : Option (Except FlashFault FlashSummary)} (h : Fetches g source f x f1 (.ok payload))
      (hg : f1.desk.generation = g) (rest : Lands g loader payload chip f1 y f' r) :
      Writes g loader source chip f
        (x ++ .does (.current g) true f1 :: telling f1 .info "Writing firmware to flash…" ::
          .starts (.writeFlash loader payload true g) f1 :: y) f' r

/-- Once the outcome is there. The session is put back, or the port is given back. -/
inductive Finishes (g : Nat) (session : Session) (f : Floor) :
    Except FlashFault FlashSummary → Floor → Option (Except FlashFault FlashSummary) → Prop where
  | givesBack {outcome : Except FlashFault FlashSummary} {f' : Floor} {r : Option Unit}
      (hg : f.desk.generation ≠ g) (hd : Drift (some g) f f') :
      Finishes g session f outcome f' (r.map fun _ => .error .superseded)
  | flashed {summary : FlashSummary} (hg : f.desk.generation = g) :
      Finishes g session f (.ok summary) { f with desk := f.desk.flashed session }
        (some (.ok summary))
  | failed {fault : FlashFault} (hg : f.desk.generation = g) :
      Finishes g session f (.error fault)
        { f with desk := f.desk.flashFailed session fault.message } (some (.error fault))

/-- What happens in a flash once it has the session, and what it gives back when it is over. -/
inductive Flashes (g : Nat) (session : Session) (source : Source) (chip : Option String)
    (f : Floor) : List Event → Floor → Option (Except FlashFault FlashSummary) → Prop where
  | writing {x : List Event} {f' : Floor} (h : Writes g session.loader source chip f x f' none) :
      Flashes g session source chip f
        (.does (.progress 0) () f :: telling f .info "Preparing firmware payload…" :: x) f' none
  | finishing {x y : List Event} {f1 f' : Floor} {outcome : Except FlashFault FlashSummary}
      {r : Option (Except FlashFault FlashSummary)}
      (h : Writes g session.loader source chip f x f1 (some outcome))
      (aside : ∀ e ∈ y, e.op.aside = true) (rest : Finishes g session f1 outcome f' r) :
      Flashes g session source chip f
        (.does (.progress 0) () f :: telling f .info "Preparing firmware payload…" :: (x ++ y)) f' r

/-- How a flash begins: it is refused, or it takes the session and goes on with its body. -/
inductive FlashStart (config : Config) (errand : Errand) (f : Floor) :
    List Event → Floor → Option Result → Prop where
  | refused {x : List Event} {e : Failure} {r : Result} (h : Refusal f.desk errand e)
      (hr : r.failure = some e) (early : Early f x) (tag : Event.tags x none = none) :
      FlashStart config errand f x
        { f with desk := { f.desk with lastError := some e.message } } (some r)
  | accepted {session : Session} {source : Source} {pre y : List Event} {f' : Floor}
      {q : Program Station (Except FlashFault FlashSummary)} (hp : f.desk.phase = .connected)
      (hs : f.desk.session = some session) (he : errand.source? = some source) (early : Early f pre)
      (record : ∀ e ∈ pre, e.free = false)
      (tag : Event.tags (pre ++ y) none = some f.desk.generation)
      (h : Course (some f.desk.generation)
        (flashWith config f.desk.generation session source (f.desk.info.bind (·.chip)))
        { f with desk := f.desk.flashing } y f' q) :
      FlashStart config errand f (pre ++ y) f' (q.value.map errand.flashed)

/-- What happens in a flash from its beginning on, and what its caller gets when it is over. -/
inductive FlashCourse (errand : Errand) (f : Floor) :
    List Event → Floor → Option Result → Prop where
  | refused {x : List Event} {e : Failure} {r : Result} (h : Refusal f.desk errand e)
      (hr : r.failure = some e) (early : Early f x) (tag : Event.tags x none = none) :
      FlashCourse errand f x { f with desk := { f.desk with lastError := some e.message } } (some r)
  | accepted {session : Session} {source : Source} {pre y : List Event} {f' : Floor}
      {r : Option (Except FlashFault FlashSummary)} (hp : f.desk.phase = .connected)
      (hs : f.desk.session = some session) (he : errand.source? = some source) (early : Early f pre)
      (tag : Event.tags (pre ++ y) none = some f.desk.generation)
      (h : Flashes f.desk.generation session source (f.desk.info.bind (·.chip))
        { f with desk := f.desk.flashing } y f' r) :
      FlashCourse errand f (pre ++ y) f' (r.map errand.flashed)

section
variable {α β : Type} {tag : Option Nat} {f f' : Floor} {x : List Event} {q : Program Station β}

theorem Program.value_eq {S : Signature} {p : Program S α} {a : α} :
    p.value = some a ↔ p = .done a := by
  cases p <;> simp [Program.value]

/-- A flash that was accepted says at first that nothing is written yet. -/
theorem Early.opening {pre : List Event} (early : Early f pre) :
    Early f (pre ++ [.does (.progress 0) () { f with desk := f.desk.flashing },
      telling { f with desk := f.desk.flashing } .info "Preparing firmware payload…"]) :=
  List.forall_mem_append.mpr ⟨early, List.forall_mem_cons.mpr ⟨⟨rfl, rfl⟩,
    List.forall_mem_singleton.mpr ⟨rfl, rfl⟩⟩⟩

/-! ### Programs that ask for nothing -/

/-- An operation that is aside and accepts no call. -/
def StationOp.Calm (op : StationOp) : Prop := op.aside = true ∧ op.accepts = false

theorem log_calm (variant : Variant) (message : String) :
    (Station.log variant message).Uses Calm :=
  .perform (S := Station) ⟨rfl, rfl⟩

theorem update_calm (u : Desk → Desk) : (update u).Uses Calm :=
  ⟨⟨rfl, rfl⟩, fun _ => ⟨⟨rfl, rfl⟩, fun _ => trivial⟩⟩

theorem connected_calm : (setPhase .connected).Uses Calm := by
  refine Uses.bind (.perform (S := Station) ⟨rfl, rfl⟩) fun desk => ?_
  split
  · exact ⟨⟨rfl, rfl⟩, fun _ => ⟨⟨rfl, rfl⟩, fun _ => trivial⟩⟩
  · trivial

theorem release_calm (config : Config) (loader : Loader) (context : String) :
    (release config loader context).Uses Calm := by
  refine Uses.bind (.perform (S := Station) ⟨rfl, rfl⟩) fun port => ?_
  refine Uses.bind ((uses_true _).embed fun _ _ => .perform (S := Station) ⟨rfl, rfl⟩) fun r => ?_
  cases r with
  | ok _ => trivial
  | error fault => exact log_calm _ _

theorem finishFlash_calm (config : Config) (g : Nat) (session : Session)
    (outcome : Except FlashFault FlashSummary) :
    (finishFlash config g session outcome).Uses Calm := by
  refine Uses.bind (.perform (S := Station) ⟨rfl, rfl⟩) fun current => ?_
  cases current with
  | false => exact (log_calm _ _).bind fun _ => (release_calm _ _ _).bind fun _ => trivial
  | true =>
    cases outcome with
    | ok summary =>
      refine (update_calm _).bind fun _ => connected_calm.bind fun _ => ?_
      exact Uses.bind (.perform (S := Station) ⟨rfl, rfl⟩) fun _ => trivial
    | error fault =>
      exact (log_calm _ _).bind fun _ => (update_calm _).bind fun _ =>
        connected_calm.bind fun _ => trivial

/-- What a flash that has the session performs while it gets and writes its source. It tells of no
failure. -/
theorem writeSource_performs {g : Nat} {loader : Loader} {source : Source} {chip : Option String}
    {H : StationOp → Prop} (fetches : (onSupply (materialize source)).Uses H)
    (logs : ∀ variant message, variant ≠ .error → H (.link (.log variant message)))
    (looks : H (.current g)) (writes : ∀ payload, H (.writeFlash loader payload true g))
    (asks : H (.hasHardReset loader)) (resets : ∀ hard, H (resetOp loader hard)) :
    (writeSource g loader source chip).Uses H := by
  have performs {op : StationOp} (h : H op) : (Station.perform op).Uses H :=
    .perform (S := Station) h
  have tells (variant : Variant) (message : String) (h : variant ≠ .error) :
      (Station.log variant message).Uses H :=
    performs (logs variant message h)
  refine fetches.bind fun r => ?_
  cases r with
  | error fault => trivial
  | ok payload =>
    refine Uses.bind (performs looks) fun current => ?_
    cases current with
    | false => trivial
    | true =>
      refine (tells .info _ nofun).bind fun _ => ?_
      refine Uses.bind (performs (writes payload)) fun r => ?_
      cases r with
      | error fault => trivial
      | ok _ =>
        refine Uses.bind (performs looks) fun current => ?_
        cases current with
        | false => trivial
        | true =>
          refine (tells .success _ nofun).bind fun _ => Uses.bind ?_ fun _ => ?_
          · refine (tells .info _ nofun).bind fun _ => (tells .info _ nofun).bind fun _ => ?_
            refine (tells .info _ nofun).bind fun _ => ?_
            exact (Uses.each fun _ _ => tells .info _ nofun).bind fun _ => tells .info _ nofun
          refine Uses.bind ?_ fun _ => trivial
          refine Uses.bind (performs asks) fun hard => Uses.bind ?_ fun r => ?_
          · cases hard with
            | false => exact performs (resets false)
            | true => exact performs (resets true)
          · cases r with
            | ok _ => exact (tells .success _ nofun).bind fun _ => trivial
            | error fault => exact (tells .trace _ nofun).bind fun _ => trivial

/-- What a flash that has the session may perform while it gets and writes its source. -/
theorem writeSource_uses {g : Nat} {loader : Loader} {source : Source} {chip : Option String}
    {H : StationOp → Prop} (inert : ∀ op : StationOp, op.Inert → H op)
    (writes : ∀ payload, H (.writeFlash loader payload true g))
    (resets : ∀ hard, H (resetOp loader hard)) :
    (writeSource g loader source chip).Uses H :=
  writeSource_performs ((onSupply_inert _).mono inert) (fun _ _ _ => inert _ rfl) (inert _ rfl)
    writes (inert _ rfl) resets

/-- A flash that has the session accepts no call while it gets and writes its source. -/
theorem writeSource_accepts (g : Nat) (loader : Loader) (source : Source) (chip : Option String) :
    (writeSource g loader source chip).Uses fun op : StationOp => op.accepts = false := by
  refine writeSource_uses (fun _ => Inert.accepts) (fun _ => rfl) fun hard => ?_
  cases hard <;> rfl

theorem flashWith_accepts (config : Config) (g : Nat) (session : Session) (source : Source)
    (chip : Option String) :
    (flashWith config g session source chip).Uses fun op : StationOp => op.accepts = false := by
  refine Uses.bind (.perform (S := Station) rfl) fun _ => ?_
  refine Uses.bind (.perform (S := Station) rfl) fun _ => ?_
  refine (writeSource_accepts _ _ _ _).bind fun outcome => ?_
  exact (finishFlash_calm _ _ _ _).mono fun _ => And.right

/-! ### The account -/

/-- A flash gets its source, looks whether it was superseded, writes, and wraps up. -/
theorem writeSource_eq (g : Nat) (loader : Loader) (source : Source) (chip : Option String) :
    writeSource g loader source chip = (onSupply (materialize source)).bind fun r =>
      match r with
      | .error fault => .done (.error (.fetch fault))
      | .ok payload => (isCurrent g).bind fun b =>
        if (!b) = true then .done (.error .superseded)
        else (Station.log .info "Writing firmware to flash…").bind fun _ =>
          (Station.perform (.writeFlash loader payload true g)).bind
            (wrapUp g loader payload chip) := by
  refine congrArg (Program.bind _) (funext fun r => ?_)
  cases r with
  | error fault => rfl
  | ok payload =>
    refine congrArg (Program.bind _) (funext fun b => ?_)
    cases b with
    | false => rfl
    | true =>
      refine congrArg (Program.bind _) (funext fun _ => ?_)
      refine congrArg (Program.bind _) (funext fun r => ?_)
      cases r <;> rfl

namespace Course

/-- A line for each item is added to the trail. -/
theorem lines_inv {ι : Type} {variant : Variant} {text : ι → String} {k : Unit → Program Station β}
    (items : List ι)
    (h : Course tag ((Program.each (fun i => Station.log variant (text i)) items).bind k)
      f x f' q) :
    ∃ rest, x = items.map (fun i => telling f variant (text i)) ++ rest ∧
      Course tag (k ()) f rest f' q := by
  induction items generalizing x with
  | nil => exact ⟨x, rfl, h⟩
  | cons i items ih =>
    obtain ⟨_, rfl, h1⟩ := Course.log_inv h
    obtain ⟨rest, rfl, h2⟩ := ih h1
    exact ⟨rest, rfl, h2⟩

theorem logSummary_inv {chip : Option String} {payload : Payload} {k : Unit → Program Station β}
    (h : Course tag ((logSummary chip payload).bind k) f x f' q) :
    ∃ rest, x = summaryEvents f chip payload ++ rest ∧ Course tag (k ()) f rest f' q := by
  simp only [logSummary, Program.bind_def, Program.bind_assoc] at h
  obtain ⟨_, rfl, h1⟩ := Course.log_inv h
  obtain ⟨_, rfl, h2⟩ := Course.log_inv h1
  obtain ⟨_, rfl, h3⟩ := Course.log_inv h2
  obtain ⟨_, rfl, h4⟩ := Course.lines_inv _ h3
  obtain ⟨rest, rfl, h5⟩ := Course.log_inv h4
  refine ⟨rest, ?_, h5⟩
  simp [summaryEvents, telling]

/-- An operation that waits, and a line on how it went. -/
theorem told_inv {g : Nat} (op : StationOp) {next : op.Answer → Program Station β}
    {k : ResetOutcome → Program Station β} (hs : op.suspends = true)
    (hn : ∀ answer, ∃ variant message outcome,
      next answer = (Station.log variant message).bind fun _ => k outcome)
    (h : Course (some g) (.call op next) f x f' q) :
    ∃ y, x = .starts op f :: y ∧ ((q.value = none ∧ Resets g op f y f' none) ∨
      ∃ outcome f1 y1 z, y = y1 ++ z ∧ Resets g op f y1 f1 (some outcome) ∧
        Course (some g) (k outcome) f1 z f' q) := by
  rcases h.waits_inv op hs with ⟨rfl, rfl, rfl⟩ | ⟨answer, f1, rest, hd, rfl, h1⟩
  · exact ⟨[], rfl, .inl ⟨rfl, .waits⟩⟩
  · obtain ⟨variant, message, outcome, same⟩ := hn answer
    rw [same] at h1
    obtain ⟨z, rfl, h2⟩ := Course.log_inv h1
    exact ⟨_, rfl, .inr ⟨outcome, f1, [_, _], z, rfl, .ended outcome hd, h2⟩⟩

/-- The restart of the board. -/
theorem reset_inv {g : Nat} {loader : Loader} {k : ResetOutcome → Program Station β}
    (h : Course (some g) ((reset loader).bind k) f x f' q) :
    ∃ hard y, x = .does (.hasHardReset loader) hard f :: .starts (resetOp loader hard) f :: y ∧
      ((q.value = none ∧ Resets g (resetOp loader hard) f y f' none) ∨
        ∃ outcome f1 y1 z, y = y1 ++ z ∧ Resets g (resetOp loader hard) f y1 f1 (some outcome) ∧
          Course (some g) (k outcome) f1 z f' q) := by
  obtain ⟨hard, rest, rfl, h1⟩ := Course.does_inv (.hasHardReset loader) h rfl
  cases hard with
  | false =>
    obtain ⟨y, rfl, ends⟩ := told_inv (.softReset loader) (k := k) rfl (fun answer => by
      cases answer with
      | ok _ => exact ⟨_, _, .soft, rfl⟩
      | error fault => exact ⟨_, _, .failed fault.message, rfl⟩) h1
    exact ⟨false, y, rfl, ends⟩
  | true =>
    obtain ⟨y, rfl, ends⟩ := told_inv (.hardReset loader) (k := k) rfl (fun answer => by
      cases answer with
      | ok _ => exact ⟨_, _, .hard, rfl⟩
      | error fault => exact ⟨_, _, .failed fault.message, rfl⟩) h1
    exact ⟨true, y, rfl, ends⟩

/-- A look at the generation, and one of two ways to go on. -/
theorem ifCurrent_inv {g : Nat} {A B : Program Station β}
    (h : Course tag ((isCurrent g).bind fun b => if (!b) = true then A else B) f x f' q) :
    ∃ rest, (f.desk.generation ≠ g ∧ x = .does (.current g) false f :: rest ∧
        Course tag A f rest f' q) ∨
      (f.desk.generation = g ∧ x = .does (.current g) true f :: rest ∧
        Course tag B f rest f' q) := by
  obtain ⟨rest, rfl, h1⟩ := Course.current_inv h
  by_cases hg : f.desk.generation = g
  · rw [beq_iff_eq.mpr hg] at h1 ⊢
    exact ⟨rest, .inr ⟨hg, rfl, h1⟩⟩
  · rw [beq_eq_false_iff_ne.mpr hg] at h1 ⊢
    exact ⟨rest, .inl ⟨hg, rfl, h1⟩⟩

/-- While bytes are fetched, the floor only drifts. -/
theorem fetch_drift {p : Program Supply α} {r : Program Station α}
    (h : Course tag (onSupply p) f x f' r) : Drift tag f f' :=
  (h.inert (onSupply_inert p)).2.1

/-- After the writing has begun. -/
theorem lands {g : Nat} {loader : Loader} {payload : Payload} {chip : Option String}
    {q : Program Station (Except FlashFault FlashSummary)}
    (h : Course (some g) ((Station.perform (.writeFlash loader payload true g)).bind
      (wrapUp g loader payload chip)) f x f' q) :
    ∃ y, x = .starts (.writeFlash loader payload true g) f :: y ∧
      Lands g loader payload chip f y f' q.value := by
  rcases Course.waits_inv _ h rfl with ⟨rfl, rfl, rfl⟩ | ⟨answer, f1, rest, hd, rfl, h1⟩
  · exact ⟨[], rfl, .writing⟩
  refine ⟨_, rfl, ?_⟩
  cases answer with
  | error fault =>
    obtain ⟨rfl, rfl, rfl⟩ := Course.done_inv h1
    exact .fails hd
  | ok _ =>
    rcases Course.ifCurrent_inv h1 with ⟨rest, ⟨hg, rfl, h2⟩ | ⟨hg, rfl, h2⟩⟩
    · obtain ⟨rfl, rfl, rfl⟩ := Course.done_inv h2
      exact .overtaken hd hg
    · obtain ⟨_, rfl, h3⟩ := Course.log_inv h2
      obtain ⟨_, rfl, h4⟩ := Course.logSummary_inv h3
      obtain ⟨hard, y, rfl, ends⟩ := Course.reset_inv h4
      rcases ends with ⟨waiting, resets⟩ | ⟨outcome, f2, y1, z, rfl, resets, h5⟩
      · rw [waiting]
        exact .written hd hg resets
      · obtain ⟨rfl, rfl, rfl⟩ := Course.done_inv h5
        rw [List.append_nil]
        exact .written hd hg resets

/-- **A flash that has the session gets its source, writes it and restarts the board.** -/
theorem writes {g : Nat} {loader : Loader} {source : Source} {chip : Option String}
    {q : Program Station (Except FlashFault FlashSummary)}
    (h : Course (some g) (writeSource g loader source chip) f x f' q) :
    Writes g loader source chip f x f' q.value := by
  rw [writeSource_eq] at h
  rcases h.bind_inv with ⟨q', fetching, waiting, left⟩ | ⟨r, y, z, f1, rfl, fetched, h1⟩
  · rw [left]
    exact .fetching fetching waiting
  have carried := fetched.carries ((onSupply_inert _).mono fun _ => Inert.accepts)
  rw [carried] at h1
  cases r with
  | error fault =>
    obtain ⟨rfl, rfl, rfl⟩ := Course.done_inv h1
    rw [List.append_nil]
    exact .unfetched fetched
  | ok payload =>
    rcases Course.ifCurrent_inv h1 with ⟨rest, ⟨hg, rfl, h2⟩ | ⟨hg, rfl, h2⟩⟩
    · obtain ⟨rfl, rfl, rfl⟩ := Course.done_inv h2
      exact .late fetched hg
    · obtain ⟨_, rfl, h3⟩ := Course.log_inv h2
      obtain ⟨y, rfl, landed⟩ := Course.lands h3
      exact .writes fetched hg landed

/-- The phase is changed; if it is another one, the observer is told. -/
theorem setPhase_inv {next : Phase} {k : Unit → Program Station β}
    (h : Course tag ((setPhase next).bind k) f x f' q) :
    ∃ pre rest, x = pre ++ rest ∧ Early f pre ∧ (∀ e ∈ pre, e.free = false) ∧
      Event.tags pre tag = (if f.desk.phase = next then tag else
        Event.tag tag (.does (.changed f.desk.phase next) () f)) ∧
      Course (Event.tags pre tag) (k ()) { f with desk := { f.desk with phase := next } }
        rest f' q := by
  obtain ⟨_, rfl, h1⟩ := Course.read_inv h
  by_cases hp : f.desk.phase = next
  · simp only [Program.done_bind, hp, ne_eq, not_true_eq_false, if_false] at h1
    refine ⟨[_], _, rfl, List.forall_mem_singleton.mpr ⟨rfl, rfl⟩,
      List.forall_mem_singleton.mpr rfl, by rw [if_pos hp]; rfl, ?_⟩
    rw [← hp]
    exact h1
  · simp only [Program.done_bind, hp, ne_eq, not_false_eq_true, if_true] at h1
    obtain ⟨_, rfl, h2⟩ := Course.write_inv h1
    obtain ⟨_, rest, rfl, h3⟩ := Course.does_inv (.changed f.desk.phase next) h2 rfl
    refine ⟨[_, _, _], rest, rfl, ?_, ?_, ?_, h3⟩
    · simp [Early, Event.op, Event.floor, StationOp.aside]
    · simp [Event.free, StationOp.onRecord]
    · rw [if_neg hp]
      cases next <;> rfl

/-- The end of a flash. -/
theorem finishes {config : Config} {g : Nat} {session : Session}
    {outcome : Except FlashFault FlashSummary}
    {q : Program Station (Except FlashFault FlashSummary)}
    (h : Course (some g) (finishFlash config g session outcome) f x f' q) :
    Finishes g session f outcome f' q.value := by
  rcases Course.ifCurrent_inv h with ⟨rest, ⟨hg, rfl, h1⟩ | ⟨hg, rfl, h1⟩⟩
  · obtain ⟨_, rfl, h2⟩ := Course.log_inv h1
    rcases Course.bind_inv (p := release config session.loader "abandoned flash") h2 with
      ⟨q', releasing, _, left⟩ | ⟨_, y, z, f1, rfl, released, h3⟩
    · rw [left]
      exact .givesBack (r := none) hg (releasing.inert (release_inert _ _ _)).2.1
    · obtain ⟨rfl, rfl, rfl⟩ := Course.done_inv h3
      exact .givesBack (r := some ()) hg (released.inert (release_inert _ _ _)).2.1
  · cases outcome with
    | ok summary =>
      obtain ⟨_, rfl, h2⟩ := Course.read_inv h1
      obtain ⟨_, rfl, h3⟩ := Course.write_inv h2
      obtain ⟨_, _, rfl, _, _, _, h4⟩ := Course.setPhase_inv h3
      obtain ⟨_, _, rfl, h5⟩ := Course.does_inv (.progress 100) h4 rfl
      obtain ⟨rfl, rfl, rfl⟩ := Course.done_inv h5
      exact .flashed hg
    | error fault =>
      obtain ⟨_, rfl, h2⟩ := Course.log_inv h1
      obtain ⟨_, rfl, h3⟩ := Course.read_inv h2
      obtain ⟨_, rfl, h4⟩ := Course.write_inv h3
      obtain ⟨_, _, rfl, _, _, _, h5⟩ := Course.setPhase_inv h4
      obtain ⟨rfl, rfl, rfl⟩ := Course.done_inv h5
      exact .failed hg

/-- **A flash that has the session.** -/
theorem flashes {config : Config} {g : Nat} {session : Session} {source : Source}
    {chip : Option String} {q : Program Station (Except FlashFault FlashSummary)}
    (h : Course (some g) (flashWith config g session source chip) f x f' q) :
    Flashes g session source chip f x f' q.value := by
  obtain ⟨_, _, rfl, h1⟩ := Course.does_inv (.progress 0) h rfl
  obtain ⟨_, rfl, h2⟩ := Course.log_inv h1
  rcases Course.bind_inv (p := writeSource g session.loader source chip) h2 with
    ⟨q', writing, waiting, left⟩ | ⟨outcome, y, z, f1, rfl, wrote, h3⟩
  · have writes := writing.writes
    rw [waiting] at writes
    rw [left]
    exact .writing writes
  · rw [wrote.carries (writeSource_accepts _ _ _ _)] at h3
    refine .finishing wrote.writes (fun e he => ?_) h3.finishes
    exact (h3.uses (finishFlash_calm _ _ _ _) e he).1

/-- The value of a program is wrapped up. -/
theorem map_inv {p : Program Station α} {w : α → β}
    (h : Course tag (p.bind fun a => .done (w a)) f x f' q) :
    ∃ q', Course tag p f x f' q' ∧ q.value = q'.value.map w := by
  rcases h.bind_inv with ⟨q', going, waiting, left⟩ | ⟨a, y, z, f1, rfl, ended, h1⟩
  · exact ⟨q', going, by rw [left, waiting]; rfl⟩
  · obtain ⟨rfl, rfl, rfl⟩ := h1.done_inv
    exact ⟨.done a, by rw [List.append_nil]; exact ended, rfl⟩

/-- A fault is told, its text is kept, and the call is over. -/
theorem complains {variant : Variant} {message text : String} {a : β}
    (h : Course tag ((Station.log variant message).bind fun _ =>
      (setLastError text).bind fun _ => .done a) f x f' q) :
    Early f x ∧ Event.tags x tag = tag ∧ q = .done a ∧
      f' = { f with desk := { f.desk with lastError := some text } } := by
  obtain ⟨_, rfl, h1⟩ := Course.log_inv h
  obtain ⟨_, rfl, h2⟩ := Course.read_inv h1
  obtain ⟨_, rfl, h3⟩ := Course.write_inv h2
  obtain ⟨rfl, rfl, rfl⟩ := h3.done_inv
  refine ⟨?_, rfl, rfl, rfl⟩
  simp [Early, Event.op, Event.floor, StationOp.aside]

/-- A flash is refused because of the phase. -/
theorem rejects {phase : Phase} {w : FlashFault → β}
    (h : Course tag ((rejectFlash phase).bind fun fault => .done (w fault)) f x f' q) :
    Early f x ∧ Event.tags x tag = tag ∧ q = .done (w (.notConnected phase)) ∧
      f' = { f with
        desk := { f.desk with lastError := some (FlashFault.notConnected phase).message } } := by
  simp only [rejectFlash, Program.bind_def, Program.pure_def, Program.bind_assoc,
    Program.done_bind] at h
  exact Course.complains h

/-- A flash of a source is refused because of the phase, or it takes the session. -/
theorem source_starts {config : Config} {source : Source}
    (w : Except FlashFault FlashSummary → Result)
    {k : Except FlashFault FlashSummary → Program Station Result} {q : Program Station Result}
    (hk : ∀ r, k r = .done (w r))
    (h : Course none ((Station.flash config source).bind k) f x f' q) :
    ((f.desk.phase ≠ .connected ∨ f.desk.session = none) ∧ Early f x ∧ Event.tags x none = none ∧
      q = .done (w (.error (.notConnected f.desk.phase))) ∧
      f' = { f with desk := { f.desk with
        lastError := some (FlashFault.notConnected f.desk.phase).message } }) ∨
    ∃ session pre y q', f.desk.phase = .connected ∧ f.desk.session = some session ∧ x = pre ++ y ∧
      Early f pre ∧ (∀ e ∈ pre, e.free = false) ∧
      Event.tags (pre ++ y) none = some f.desk.generation ∧
      Course (some f.desk.generation)
        (flashWith config f.desk.generation session source (f.desk.info.bind (·.chip)))
        { f with desk := f.desk.flashing } y f' q' ∧ q.value = q'.value.map w := by
  obtain rfl : k = fun r => .done (w r) := funext hk
  obtain ⟨_, rfl, h1⟩ := Course.read_inv h
  have here (op : StationOp) (answer : op.Answer) (ho : op.aside = true) {x : List Event}
      (early : Early f x) : Early f (.does op answer f :: x) :=
    List.forall_mem_cons.mpr ⟨⟨ho, rfl⟩, early⟩
  by_cases hp : f.desk.phase = .connected
  · cases hs : f.desk.session with
    | none =>
      simp only [Program.done_bind, Program.bind_def, Program.pure_def, Program.bind_assoc, hs,
        ite_self] at h1
      obtain ⟨early, tags, rfl, rfl⟩ := Course.rejects h1
      exact .inl ⟨.inr rfl, here .read _ rfl early, tags, rfl, rfl⟩
    | some session =>
      simp only [Program.done_bind, Program.bind_def, hp, hs, ne_eq, not_true_eq_false,
        if_false] at h1
      obtain ⟨_, rfl, h2⟩ := Course.write_inv h1
      simp only [Program.done_bind, Program.bind_assoc] at h2
      obtain ⟨pre, y, rfl, early, record, tags, h3⟩ := Course.setPhase_inv h2
      rw [if_neg (by simp)] at tags
      replace tags : Event.tags pre none = some f.desk.generation := tags
      rw [tags] at h3
      have carried := h3.carries ((flashWith_accepts _ _ _ _ _).bind fun _ => trivial)
      obtain ⟨q', course, value⟩ := Course.map_inv h3
      refine .inr ⟨session, .does .read f.desk f :: .does (.write _) () f :: pre, y, q', hp,
        rfl, rfl, here .read _ rfl (here (.write _) _ rfl early), ?_, ?_, course, value⟩
      · exact List.forall_mem_cons.mpr ⟨rfl, List.forall_mem_cons.mpr ⟨rfl, record⟩⟩
      · show Event.tags (pre ++ y) none = _
        rw [Event.tags_append, tags, carried]
  · simp only [Program.done_bind, Program.bind_def, Program.pure_def, Program.bind_assoc, hp, ne_eq,
      not_false_eq_true, if_true] at h1
    obtain ⟨early, tags, rfl, rfl⟩ := Course.rejects h1
    exact .inl ⟨.inl hp, here .read _ rfl early, tags, rfl, rfl⟩

/-- **A flash is refused, or it takes the session.** -/
theorem flash_starts {config : Config} {errand : Errand} {q : Program Station Result}
    (he : errand.isFlash = true) (h : Course none (errand.program config) f x f' q) :
    FlashStart config errand f x f' q.value := by
  cases errand with
  | connect | disconnect => cases he
  | flash source =>
    rcases Course.source_starts .flashed (fun _ => rfl) h with
      ⟨away, early, tags, rfl, rfl⟩ |
      ⟨session, pre, y, r, hp, hs, rfl, early, record, tags, course, value⟩
    · exact .refused (e := .flash _) (.notConnected rfl away) rfl early tags
    · rw [value]
      exact .accepted hp hs rfl early record tags course
  | flashChoice choice =>
    obtain ⟨x, rfl, h1⟩ := Course.read_inv h
    have here {x : List Event} (early : Early f x) : Early f (.does .read f.desk f :: x) :=
      List.forall_mem_cons.mpr ⟨⟨rfl, rfl⟩, early⟩
    by_cases hp : f.desk.phase = .connected
    · cases hc : choice.resolve with
      | error fault =>
        simp only [Program.done_bind, Program.bind_def, Program.pure_def, Program.bind_assoc, hp,
          hc, ne_eq, not_true_eq_false, if_false] at h1
        obtain ⟨early, tags, rfl, rfl⟩ := Course.complains h1
        exact .refused (e := .choice fault) (.choice hp hc) rfl (here early) tags
      | ok source =>
        simp only [Program.done_bind, Program.bind_def, Program.pure_def, Program.bind_assoc, hp,
          hc, ne_eq, not_true_eq_false, if_false] at h1
        rcases Course.source_starts (Errand.flashChoice choice).flashed
          (fun r => by cases r <;> rfl) h1 with ⟨away, early, tags, rfl, rfl⟩ |
          ⟨session, pre, y, r, _, hs, rfl, early, record, tags, course, value⟩
        · exact .refused (e := .flash _) (.notConnected rfl away) rfl (here early) tags
        · rw [value]
          have he : (Errand.flashChoice choice).source? = some source := by
            rw [Errand.source?, hc]
            rfl
          exact .accepted hp hs he (here early) (List.forall_mem_cons.mpr ⟨rfl, record⟩) tags course
    · simp only [Program.done_bind, Program.bind_def, Program.pure_def, Program.bind_assoc, hp,
        ne_eq, not_false_eq_true, if_true] at h1
      obtain ⟨early, tags, rfl, rfl⟩ := Course.rejects (w := fun fault =>
        Result.flashedChoice (.error (.flash fault))) h1
      exact .refused (e := .flash _) (.notConnected rfl (.inl hp)) rfl (here early) tags

/-- A flash is refused, or it takes the session and goes on as told. -/
theorem flash_begins {config : Config} {errand : Errand} {q : Program Station Result}
    (he : errand.isFlash = true) (h : Course none (errand.program config) f x f' q) :
    FlashCourse errand f x f' q.value := by
  have starts := h.flash_starts he
  generalize q.value = r at starts ⊢
  cases starts with
  | refused refusal hr early tag => exact .refused refusal hr early tag
  | accepted hp hs he early _ tag body => exact .accepted hp hs he early tag body.flashes

end Course

end

end FlashStation
