/-
# What a call enters in the trail

Whatever a call does, it tells in the trail. What a program tells goes with its calls: both come out
of one talk, so the two are taken apart along the program together, and no entry is counted twice or
left out.

A call that ends with a fault tells of it in one entry, its notice. For most faults that is an
error; a connect that is turned away because the station is busy leaves a trace, and one for which
nobody chose a port leaves an information.

Key definitions: `StationOp.Tacit`, `entries`, `errors`, `Failure.notice`, `Program.Tells`,
`Encounter`, `Attempting`.
Key theorems: `Course.tells`, `Program.Tells.bind_inv`, `Program.Tells.each_inv`, `attempt_parts`.
-/
import FlashStation.Proofs.Dialogue
import FlashStation.Proofs.Stages

namespace FlashStation

open Station Program

/-! ### Entries -/

/-- The entry that an operation adds to the trail. -/
def StationOp.entry? : StationOp → Option (Variant × String)
  | .link (.log variant message) | .supply (.log variant message) => some (variant, message)
  | _ => none

/-- An operation that neither leaves the station nor adds an entry. -/
def StationOp.Tacit (op : StationOp) : Prop := op.outward = false ∧ op.entry? = none

/-- The entries that are added in a dialogue. -/
def entries (talk : List (Exchange Station)) : List (Variant × String) :=
  talk.filterMap (·.op.entry?)

/-- The entries that tell of failures. -/
def errors (told : List (Variant × String)) : List (Variant × String) :=
  told.filter (·.1 == .error)

/-- The entry with which a connect tells that it failed. -/
def ConnectFault.notice : ConnectFault → Variant × String
  | .selectionCancelled => (.info, s!"Connection error: {ConnectFault.selectionCancelled.message}")
  | fault => (.error, s!"Connection error: {fault.message}")

/-- The entry that tells of the fault with which a call ends. -/
def Failure.notice : Failure → Variant × String
  | .connect .unsupported => (.error, ConnectFault.unsupported.message)
  | .connect (.busy phase) => (.trace, s!"Connect ignored while {phase.text}")
  | .connect fault => fault.notice
  | .flash (.notConnected phase) => (.error, (FlashFault.notConnected phase).message)
  | e => (.error, s!"Flash failed: {e.message}")

/-- A program makes these calls, tells this and comes to a value, if all its operations are answered
as they can be. -/
def Program.Tells {α : Type} (p : Program Station α) (calls : List (Exchange Station))
    (told : List (Variant × String)) (a : α) : Prop :=
  ∃ talk, p.Yields talk a ∧ (∀ e ∈ talk, e.Settled) ∧ outward talk = calls ∧ entries talk = told

section
variable {talk talk' : List (Exchange Station)} {e : Exchange Station}
  {told told' : List (Variant × String)}

@[simp] theorem entries_nil : entries [] = [] := rfl

@[simp] theorem entries_append : entries (talk ++ talk') = entries talk ++ entries talk' :=
  List.filterMap_append

theorem entries_cons {entry : Variant × String} (h : e.op.entry? = some entry) :
    entries (e :: talk) = entry :: entries talk :=
  List.filterMap_cons_some h

theorem entries_skip (h : e.op.entry? = none) : entries (e :: talk) = entries talk :=
  List.filterMap_cons_none h

@[simp] theorem errors_nil : errors [] = [] := rfl

@[simp] theorem errors_append : errors (told ++ told') = errors told ++ errors told' :=
  List.filter_append _ _

/-- What is told of a port is told in the station's trail. -/
theorem entries_link (talk : List (Exchange Link)) :
    entries (talk.map .ofLink) = Link.entries talk := by
  rw [entries, List.filterMap_map]
  refine List.filterMap_congr fun e _ => ?_
  obtain ⟨op, answer⟩ := e
  cases op <;> rfl

/-- Work on the record is told nowhere. -/
theorem entries_record {x : List Event} (h : ∀ e ∈ x, e.free = false) :
    entries (dialogue x) = [] := by
  refine List.filterMap_eq_nil_iff.mpr fun exchange he => ?_
  obtain ⟨e, he, same⟩ := List.mem_filterMap.mp he
  have busy := h e he
  cases e with
  | starts => cases same
  | wakes => cases busy
  | does op =>
    cases same
    cases op <;> first | rfl | cases busy

end

/-! ### What programs tell -/

namespace Program.Tells

variable {α β ι : Type} {calls : List (Exchange Station)} {told : List (Variant × String)} {a b : α}

/-- The calls alone. -/
theorem speaks {p : Program Station α} (h : p.Tells calls told a) : p.Speaks calls a := by
  obtain ⟨talk, yields, settled, same, _⟩ := h
  exact ⟨talk, yields, settled, same⟩

theorem done_inv (h : (.done a : Program Station α).Tells calls told b) :
    calls = [] ∧ told = [] ∧ b = a := by
  obtain ⟨talk, yields, _, rfl, rfl⟩ := h
  obtain ⟨rfl, rfl⟩ := Yields.done_inv yields
  exact ⟨rfl, rfl, rfl⟩

/-- One program after another tells what both tell. -/
theorem bind_inv {p : Program Station α} {k : α → Program Station β} {b : β}
    (h : (p.bind k).Tells calls told b) :
    ∃ a calls1 calls2 told1 told2, calls = calls1 ++ calls2 ∧ told = told1 ++ told2 ∧
      p.Tells calls1 told1 a ∧ (k a).Tells calls2 told2 b := by
  obtain ⟨talk, yields, settled, rfl, rfl⟩ := h
  obtain ⟨a, before, after, rfl, first, second⟩ := Yields.bind_inv yields
  obtain ⟨early, late⟩ := List.forall_mem_append.mp settled
  exact ⟨a, _, _, _, _, outward_append, entries_append, ⟨before, first, early, rfl, rfl⟩,
    ⟨after, second, late, rfl, rfl⟩⟩

/-- An operation that leaves the station is the first call. -/
theorem call_inv (op : StationOp) {next : op.Answer → Program Station α}
    (h : (.call op next : Program Station α).Tells calls told b) (ho : op.outward = true)
    (untold : op.entry? = none) :
    ∃ answer rest, calls = ⟨op, answer⟩ :: rest ∧ Exchange.Settled ⟨op, answer⟩ ∧
      (next answer).Tells rest told b := by
  obtain ⟨talk, yields, settled, rfl, rfl⟩ := h
  obtain ⟨answer, rest, rfl, later⟩ := Yields.call_inv (S := Station) op yields
  obtain ⟨first, others⟩ := List.forall_mem_cons.mp settled
  exact ⟨answer, outward rest, outward_cons ho, first, rest, later, others, rfl,
    (entries_skip untold).symm⟩

/-- An operation that does not leave the station is none of the calls. -/
theorem skip_inv (op : StationOp) {next : op.Answer → Program Station α}
    (h : (.call op next : Program Station α).Tells calls told b) (ho : op.outward = false)
    (untold : op.entry? = none) : ∃ answer, (next answer).Tells calls told b := by
  obtain ⟨talk, yields, settled, rfl, rfl⟩ := h
  obtain ⟨answer, rest, rfl, later⟩ := Yields.call_inv (S := Station) op yields
  obtain ⟨_, others⟩ := List.forall_mem_cons.mp settled
  exact ⟨answer, rest, later, others, (outward_skip ho).symm, (entries_skip untold).symm⟩

/-- An entry is the first that is told. -/
theorem log_inv {variant : Variant} {message : String} {k : Unit → Program Station α}
    (h : ((Station.log variant message).bind k).Tells calls told b) :
    ∃ rest, told = (variant, message) :: rest ∧ (k ()).Tells calls rest b := by
  obtain ⟨talk, yields, settled, rfl, rfl⟩ := h
  obtain ⟨_, rest, rfl, later⟩ :=
    Yields.call_inv (S := Station) (.link (.log variant message)) yields
  obtain ⟨_, others⟩ := List.forall_mem_cons.mp settled
  exact ⟨entries rest, entries_cons rfl, rest, later, others, rfl, rfl⟩

/-- A loop tells what it tells for each item, one after the other. -/
theorem each_inv {act : ι → Program Station Unit} {items : List ι}
    (h : (Program.each act items).Tells calls told ()) :
    ∃ parts : List (List (Exchange Station) × List (Variant × String)),
      calls = (parts.map (·.1)).flatten ∧ told = (parts.map (·.2)).flatten ∧
      List.Forall₂ (fun item part => (act item).Tells part.1 part.2 ()) items parts := by
  induction items generalizing calls told with
  | nil =>
    obtain ⟨rfl, rfl, _⟩ := done_inv h
    exact ⟨[], rfl, rfl, .nil⟩
  | cons item items ih =>
    obtain ⟨_, calls1, _, told1, _, rfl, rfl, first, later⟩ := bind_inv h
    obtain ⟨parts, rfl, rfl, all⟩ := ih later
    exact ⟨(calls1, told1) :: parts, rfl, rfl, .cons first all⟩

theorem onLink_inv {p : Program Link α} (h : (onLink p).Tells calls told a) :
    ∃ inner, p.Yields inner a ∧ calls = outward (inner.map .ofLink) ∧
      told = Link.entries inner := by
  obtain ⟨talk, yields, _, rfl, rfl⟩ := h
  obtain ⟨inner, talked, rfl⟩ := Yields.onLink_inv yields
  exact ⟨inner, talked, rfl, entries_link inner⟩

/-- A look at the generation that does not end a call. -/
theorem onward {g : Nat} {A B : Program Station α}
    (h : ((isCurrent g).bind fun b => if (!b) = true then A else B).Tells calls told a)
    (no : ∀ calls, ¬ A.Speaks calls a) : B.Tells calls told a := by
  obtain ⟨current, h1⟩ := skip_inv (.current g) h rfl rfl
  cases current with
  | false => exact absurd h1.speaks (no calls)
  | true => exact h1

/-- A program that neither leaves the station nor adds an entry. -/
theorem tacit {p : Program Station α} (h : p.Tells calls told a) (hp : p.Uses StationOp.Tacit) :
    calls = [] ∧ told = [] := by
  refine ⟨h.speaks.silent (hp.mono fun _ => And.left), ?_⟩
  obtain ⟨talk, yields, _, _, rfl⟩ := h
  exact List.filterMap_eq_nil_iff.mpr fun e he => (yields.uses hp e he).2

end Program.Tells

theorem update_tacit (u : Desk → Desk) : (update u).Uses StationOp.Tacit :=
  ⟨⟨rfl, rfl⟩, fun _ => ⟨⟨rfl, rfl⟩, fun _ => trivial⟩⟩

theorem setPhase_tacit (next : Phase) : (setPhase next).Uses StationOp.Tacit := by
  refine Uses.bind (.perform (S := Station) ⟨rfl, rfl⟩) fun desk => ?_
  split
  · exact ⟨⟨rfl, rfl⟩, fun _ => ⟨⟨rfl, rfl⟩, fun _ => trivial⟩⟩
  · trivial

/-! ### A connect, part by part -/

/-- What a connect does once it has made a loader, or has not. -/
def meet (config : Config) (g : Nat) (baud : UInt32) :
    Except ConnectFault Loader → Program Station (Except ConnectFault DeviceInfo)
  | .error fault => (failConnect g fault).bind fun _ => .done (.error fault)
  | .ok loader => (inventory g loader).bind fun
    | .ok info => (log .success s!"Connected to {info.chipText}").bind fun _ =>
      (update fun d => { d with session := some ⟨loader, g, baud⟩, info := some info }).bind
        fun _ => (setPhase .connected).bind fun _ => .done (.ok info)
    | .error fault => (release config loader "failed attempt").bind fun _ =>
      (failConnect g fault).bind fun _ => .done (.error fault)

theorem attempt_eq (previous : Option Session) : attempt config g baud previous =
    (log .info "==== NEW CONNECTION ATTEMPT ====").bind fun _ => startupCheck.bind fun _ =>
      (log .info "Requesting serial port access…").bind fun _ =>
        (cleanUp config previous).bind fun _ =>
          (acquire config g baud).bind (meet config g baud) := by
  refine congrArg (Program.bind _) (funext fun _ => ?_)
  refine congrArg (Program.bind _) (funext fun _ => ?_)
  refine congrArg (Program.bind _) (funext fun _ => ?_)
  refine congrArg (Program.bind _) (funext fun _ => ?_)
  refine congrArg (Program.bind _) (funext fun made => ?_)
  cases made with
  | error fault => rfl
  | ok loader =>
    refine congrArg (Program.bind _) (funext fun answer => ?_)
    cases answer <;> rfl

/-- What a connect tells once it has made a loader, or has not, part by part: without a loader it
fails. Else it asks the board about itself; then it has the session, or it lets the port go and
fails. -/
inductive Encounter (config : Config) (g : Nat) : Except ConnectFault Loader →
    List (Exchange Station) → List (Variant × String) → Except ConnectFault DeviceInfo → Prop where
  | nobody {fault : ConnectFault} {ending : List (Exchange Station)}
      {told : List (Variant × String)} {r : Except ConnectFault DeviceInfo}
      (ends : ((failConnect g fault).bind fun _ => .done (.error fault)).Tells ending told r) :
      Encounter config g (.error fault) ending told r
  | joins {loader : Loader} {info : DeviceInfo} {asking : List (Exchange Station)}
      {told : List (Variant × String)}
      (asks : (inventory g loader).Tells asking told (.ok info)) :
      Encounter config g (.ok loader) asking
        (told ++ [(.success, s!"Connected to {info.chipText}")]) (.ok info)
  | fails {loader : Loader} {fault : ConnectFault}
      {asking releasing ending : List (Exchange Station)}
      {told1 told2 told3 : List (Variant × String)} {r : Except ConnectFault DeviceInfo}
      (asks : (inventory g loader).Tells asking told1 (.error fault))
      (releases : (release config loader "failed attempt").Tells releasing told2 ())
      (ends : ((failConnect g fault).bind fun _ => .done (.error fault)).Tells ending told3 r) :
      Encounter config g (.ok loader) (asking ++ (releasing ++ ending))
        (told1 ++ (told2 ++ told3)) r

/-- What an attempt tells, part by part: it looks at the ports that there are, lets the former
session go, makes a loader and meets the board. -/
inductive Attempting (config : Config) (g : Nat) (baud : UInt32) (previous : Option Session) :
    List (Exchange Station) → List (Variant × String) → Except ConnectFault DeviceInfo → Prop where
  | parts {made : Except ConnectFault Loader} {r : Except ConnectFault DeviceInfo}
      {census cleaning acquiring meeting : List (Exchange Station)}
      {told1 told2 told3 told4 : List (Variant × String)}
      (checks : startupCheck.Tells census told1 ())
      (cleans : (cleanUp config previous).Tells cleaning told2 ())
      (acquires : (acquire config g baud).Tells acquiring told3 made)
      (meets : Encounter config g made meeting told4 r) :
      Attempting config g baud previous (census ++ (cleaning ++ (acquiring ++ meeting)))
        ((.info, "==== NEW CONNECTION ATTEMPT ====") :: (told1 ++
          (.info, "Requesting serial port access…") :: (told2 ++ (told3 ++ told4)))) r

section
variable {config : Config} {g : Nat} {baud : UInt32} {calls : List (Exchange Station)}
  {told : List (Variant × String)} {r : Except ConnectFault DeviceInfo}

theorem meet_parts {made : Except ConnectFault Loader}
    (h : (meet config g baud made).Tells calls told r) : Encounter config g made calls told r := by
  cases made with
  | error fault => exact .nobody h
  | ok loader =>
    obtain ⟨answer, asking, rest, told1, _, rfl, rfl, asks, h1⟩ := Program.Tells.bind_inv h
    cases answer with
    | ok info =>
      obtain ⟨_, rfl, h2⟩ := Program.Tells.log_inv h1
      obtain ⟨_, _, _, _, _, rfl, rfl, kept, h3⟩ := Program.Tells.bind_inv h2
      obtain ⟨rfl, rfl⟩ := kept.tacit (update_tacit _)
      obtain ⟨_, _, _, _, _, rfl, rfl, moved, h4⟩ := Program.Tells.bind_inv h3
      obtain ⟨rfl, rfl⟩ := moved.tacit (setPhase_tacit _)
      obtain ⟨rfl, rfl, rfl⟩ := h4.done_inv
      simp only [List.append_nil]
      exact .joins asks
    | error fault =>
      obtain ⟨_, releasing, ending, told2, told3, rfl, rfl, releases, ends⟩ :=
        Program.Tells.bind_inv h1
      exact .fails asks releases ends

theorem attempt_parts {previous : Option Session}
    (h : (attempt config g baud previous).Tells calls told r) :
    Attempting config g baud previous calls told r := by
  rw [attempt_eq] at h
  obtain ⟨_, rfl, h1⟩ := Program.Tells.log_inv h
  obtain ⟨_, census, _, told1, _, rfl, rfl, checks, h2⟩ := Program.Tells.bind_inv h1
  obtain ⟨_, rfl, h3⟩ := Program.Tells.log_inv h2
  obtain ⟨_, cleaning, _, told2, _, rfl, rfl, cleans, h4⟩ := Program.Tells.bind_inv h3
  obtain ⟨made, acquiring, meeting, told3, _, rfl, rfl, acquires, h5⟩ := Program.Tells.bind_inv h4
  exact .parts checks cleans acquires (meet_parts h5)

end

/-- **A program that is over made the calls of its dialogue and told its entries.** -/
theorem Course.tells {α : Type} {tag : Option Nat} {p : Program Station α} {f f' : Floor}
    {x : List Event} {a : α} (h : Course tag p f x f' (.done a)) :
    p.Tells (outward (dialogue x)) (entries (dialogue x)) a :=
  ⟨dialogue x, h.yields_dialogue rfl, h.settled, rfl, rfl⟩

end FlashStation
