/-
# What a call owes

What a call may do depends on its past. A loader may be taken apart only by a call that has it in
hand, and a session is put into the record only where there is none; a port is made to let go only
by a call that is entitled to that; a superseded connect asks for a port again only if its request
was refused; and a call complains of a failure only if there was one. All this is told by `Duty`,
one case for each kind of operation. When a call waits, it has released each loader that it has
taken apart, or is about to; when it is over, it has nothing in hand.

Key definitions: `Event.hands`, `Event.aparts`, `Event.told`, `Event.troubles`, `Event.Gained`,
`Entitled`, `Whole`, `Amid`, `Duty`, `Dutiful`, `Tidy`, `Closed`.
Key theorems: `Harmless.not_outcry`, `hands_origin`.
-/
import FlashStation.Proofs.Diary
import Mathlib.Data.List.Induction

namespace FlashStation

open Station Program

/-! ### Messages that tell of no failure -/

/-- Whether two texts differ at a place that both have. -/
def clash (a b : List Char) : Bool :=
  (a.zip b).any fun p => p.1 != p.2

/-- Whether a message is told apart from those with which a connect or a flash complains. -/
def Harmless (message : String) : Prop :=
  clash message.toList "Connection error: ".toList = true ∧
    clash message.toList "Flash failed: ".toList = true

theorem clash_append {a b : List Char} (c : List Char) (h : clash a b = true) :
    clash (a ++ c) b = true := by
  induction a generalizing b with
  | nil => cases b <;> cases h
  | cons x a ih =>
    cases b with
    | nil => cases h
    | cons y b =>
      simp only [clash, List.zip_cons_cons, List.any_cons, Bool.or_eq_true,
        List.cons_append] at h ⊢
      exact h.imp_right (ih ·)

theorem clash_self_append (a c : List Char) : clash (a ++ c) a = false := by
  induction a with
  | nil => cases c <;> rfl
  | cons x a ih => simpa [clash] using ih

/-- The letters of the two beginnings are spelled out here, so that a given text is checked without
decoding it. -/
theorem Harmless.ofList {letters : List Char}
    (h : (clash letters ['C', 'o', 'n', 'n', 'e', 'c', 't', 'i', 'o', 'n', ' ',
        'e', 'r', 'r', 'o', 'r', ':', ' '] &&
      clash letters ['F', 'l', 'a', 's', 'h', ' ',
        'f', 'a', 'i', 'l', 'e', 'd', ':', ' ']) = true) :
    Harmless (String.ofList letters) := by
  rw [Bool.and_eq_true] at h
  rw [Harmless, String.toList_ofList]
  exact h

/-- It is told by the first letters. -/
theorem Harmless.append {message : String} (h : Harmless message) (rest : String) :
    Harmless (message ++ rest) := by
  rw [Harmless, String.toList_append]
  exact h.imp (clash_append _) (clash_append _)

/-- A message with which a connect or a flash complains. -/
inductive Outcry : String → Prop where
  | connect (text : String) : Outcry ("Connection error: " ++ text)
  | flash (text : String) : Outcry ("Flash failed: " ++ text)

theorem Harmless.not_outcry {message : String} (h : Harmless message) : ¬ Outcry message := by
  rintro (⟨text⟩ | ⟨text⟩)
  · have same := h.1
    rw [String.toList_append, clash_self_append] at same
    cases same
  · have same := h.2
    rw [String.toList_append, clash_self_append] at same
    cases same

/-! ### What a diary tells -/

/-- The fault of a connect whose request for a port was refused. -/
def ConnectFault.ofSelect : SelectFault → ConnectFault
  | .cancelled => .selectionCancelled
  | fault => .selection fault

namespace Event

/-- The loaders that a call has in hand after an event: it made them, or took them from the record,
and has neither put them into the record nor taken them apart. -/
def hand (old : List Loader) : Event → List Loader
  | .does (.attach _ _ _) loader _ => loader :: old
  | .does (.intoPort loader) _ _ => old.erase loader
  | .does (.write desk) _ f =>
    match f.desk.session, desk.session with
    | some s, none => s.loader :: old
    | none, some s => old.erase s.loader
    | _, _ => old
  | _ => old

/-- The loader that is taken apart. -/
def apart : Event → Option Loader
  | .does (.intoPort loader) _ _ => some loader
  | _ => none

/-- The phase that the observer knows of after an event; whoever waited finds it in the record. -/
def phase (old : Phase) : Event → Phase
  | .does (.changed _ after) _ _ => after
  | .wakes _ _ f => f.desk.phase
  | _ => old

/-- The fault that a connect of generation `g` ends with if it goes on to fail: a request for a
port was refused, or the handshake failed before the connect was superseded. -/
def trouble (g : Nat) (old : Option ConnectFault) : Event → Option ConnectFault
  | .wakes (.requestPort _) (.error fault) _ => some (.ofSelect fault)
  | .wakes (.requestPort _) (.ok _) _ => none
  | .wakes (.handshake _) (.error fault) f =>
    if f.desk.generation = g then some (.handshake fault) else old
  | _ => old

/-- The last answer. -/
def answer (old : Option Event) : Event → Option Event
  | .wakes op answer f => some (.wakes op answer f)
  | _ => old

/-- The loaders that a call has in hand. -/
def hands (x : List Event) : List Loader := x.foldl hand []

/-- The loaders that a call has taken apart. -/
def aparts (x : List Event) : List Loader := x.filterMap apart

/-- The phase that the observer knows of. -/
def told (before : Phase) (x : List Event) : Phase := x.foldl phase before

/-- The fault that a connect ends with if it goes on to fail. -/
def troubles (g : Nat) (x : List Event) : Option ConnectFault := x.foldl (trouble g) none

/-- The last answer that a call was given. -/
def answered (x : List Event) : Option Event := x.foldl answer none

/-- A connect has told the observer that the station is connected. -/
def Joined (x : List Event) : Prop := ∃ f, .does (.changed .connecting .connected) () f ∈ x

/-- The call has not looked at the generation so far. -/
def Unlooked (x : List Event) : Prop := ∀ e ∈ x, ∀ g, e.performed ≠ some (.current g)

/-- A loader is made at an event. -/
inductive Makes (loader : Loader) : Event → Prop where
  | attach (port : Port) (baud romBaud : UInt32) (f : Floor) :
      Makes loader (.does (.attach port baud romBaud) loader f)

/-- A port is given to the call that asked for one. -/
inductive Grants (port : Port) : Event → Prop where
  | request (filters : List UsbFilter) (f : Floor) :
      Grants port (.wakes (.requestPort filters) (.ok port) f)

/-- The call has made a loader. -/
def Made (x : List Event) (loader : Loader) : Prop := ∃ e ∈ x, e.Makes loader

/-- The call has taken a session from the record. -/
def TookOver (x : List Event) (s : Session) : Prop :=
  ∃ desk f, .does (.write desk) () f ∈ x ∧ f.desk.session = some s ∧ desk.session = none

/-- The call has made a loader, or has taken it from the record with a session. -/
def Gained (x : List Event) (loader : Loader) : Prop :=
  Made x loader ∨ ∃ s, TookOver x s ∧ s.loader = loader

section
variable (x : List Event) (e : Event)

@[simp] theorem tags_snoc (old : Option Nat) : tags (x ++ [e]) old = e.tag (tags x old) :=
  List.foldl_append

@[simp] theorem hands_snoc : hands (x ++ [e]) = e.hand (hands x) := List.foldl_append

@[simp] theorem aparts_snoc : aparts (x ++ [e]) = aparts x ++ e.apart.toList := by
  cases h : e.apart <;> simp [aparts, h]

@[simp] theorem told_snoc (before : Phase) : told before (x ++ [e]) = e.phase (told before x) :=
  List.foldl_append

@[simp] theorem troubles_snoc (g : Nat) : troubles g (x ++ [e]) = e.trouble g (troubles g x) :=
  List.foldl_append

@[simp] theorem answered_snoc : answered (x ++ [e]) = e.answer (answered x) := List.foldl_append

end

variable {x y : List Event} {e : Event}

theorem Unlooked.append (hx : Unlooked x) (hy : Unlooked y) : Unlooked (x ++ y) :=
  List.forall_mem_append.mpr ⟨hx, hy⟩

theorem Made.append {loader : Loader} (h : Made x loader) (y : List Event) :
    Made (x ++ y) loader := by
  obtain ⟨e, he, made⟩ := h
  exact ⟨e, List.mem_append_left _ he, made⟩

theorem TookOver.append {s : Session} (h : TookOver x s) (y : List Event) :
    TookOver (x ++ y) s := by
  obtain ⟨desk, f, he, hs, hd⟩ := h
  exact ⟨desk, f, List.mem_append_left _ he, hs, hd⟩

theorem Gained.append {loader : Loader} (h : Gained x loader) (y : List Event) :
    Gained (x ++ y) loader := by
  rcases h with made | ⟨s, took, hl⟩
  · exact .inl (made.append y)
  · exact .inr ⟨s, took.append y, hl⟩

/-- What a call has in hand it has made, or taken over. -/
theorem hands_origin {loader : Loader} (h : loader ∈ hands x) : Gained x loader := by
  induction x using List.reverseRecOn with
  | nil => cases h
  | append_singleton x e ih =>
    have last : e ∈ x ++ [e] := List.mem_append_right _ (.head _)
    rw [hands_snoc] at h
    unfold hand at h
    split at h
    · rename_i port baud romBaud made f
      rcases List.mem_cons.mp h with rfl | h
      · exact .inl ⟨_, last, .attach port baud romBaud f⟩
      · exact (ih h).append _
    · exact (ih (List.mem_of_mem_erase h)).append _
    · rename_i desk _ f
      split at h
      · rename_i s hs hd
        rcases List.mem_cons.mp h with rfl | h
        · exact .inr ⟨s, ⟨desk, f, last, hs, hd⟩, rfl⟩
        · exact (ih h).append _
      · exact (ih (List.mem_of_mem_erase h)).append _
      · exact (ih h).append _
    · exact (ih h).append _

end Event

open Event

/-! ### Operations -/

/-- The port that is made to let go, or is closed. -/
def LinkOp.touched : LinkOp → Option Port
  | .cancelReader port | .releaseReader port | .closeWriter port | .releaseWriter port
  | .close port => some port
  | .streams _ | .sleep _ | .log _ _ | .note _ => none

namespace StationOp

/-- The port that is made to let go, or is closed. -/
def touched : StationOp → Option Port
  | .link op => op.touched
  | _ => none

/-- What is added to the trail. -/
def said : StationOp → Option String
  | .link (.log _ message) | .supply (.log _ message) => some message
  | _ => none

/-- Whether an operation leaves alone all that a diary tells of but the ports. -/
def plain : StationOp → Bool
  | .read | .current _ | .write _ | .changed _ _ | .attach _ _ _ | .intoPort _ | .requestPort _
  | .handshake _ => false
  | _ => true

end StationOp

/-- What entitles a call to make a port let go: it was told of the port in a list of known ports
and has not looked at the generation since it began, it asked for a port and was given this one, or
it took a loader apart that had the port. -/
inductive Entitled (x : List Event) (port : Port) : Prop where
  | known {ports : List Port} {f : Floor} (h : .wakes .knownPorts (.ok ports) f ∈ x)
      (hp : port ∈ ports) (first : Unlooked x)
  | granted {e : Event} (h : e ∈ x) (grants : e.Grants port)
  | had {loader : Loader} {f : Floor} (h : .does (.intoPort loader) port f ∈ x)

theorem Entitled.append {x y : List Event} {port : Port} (h : Entitled x port) (hy : Unlooked y) :
    Entitled (x ++ y) port := by
  cases h with
  | known h hp first => exact .known (List.mem_append_left _ h) hp (first.append hy)
  | granted h grants => exact .granted (List.mem_append_left _ h) grants
  | had h => exact .had (List.mem_append_left _ h)

/-- The loader was released: it was taken apart, and its port was reclaimed once. -/
def Whole (config : Config) (loader : Loader) (x : List Event) : Prop :=
  ∃ context before z after, x = before ++ z ++ after ∧
    (release config loader context).Performs z (.done ())

/-- The loader is being released, and the next that is done for it is `op`. -/
def Amid (config : Config) (loader : Loader) (x : List Event) (op : StationOp) : Prop :=
  ∃ context before z next, x = before ++ z ∧
    (release config loader context).Performs z (.call op next)

theorem Whole.append {config : Config} {loader : Loader} {x : List Event}
    (h : Whole config loader x) (y : List Event) : Whole config loader (x ++ y) := by
  obtain ⟨context, before, z, after, rfl, whole⟩ := h
  exact ⟨context, before, z, after ++ y, List.append_assoc _ _ _, whole⟩

/-- Whether a call that carries a generation was superseded. -/
def Overdue (x : List Event) (f : Floor) : Prop :=
  ∃ g, Event.tags x none = some g ∧ g ≠ f.desk.generation

/-- Whether the phase may change in this way. -/
def Phase.leads : Phase → Phase → Bool
  | .idle, .connecting | .connected, .connecting | .connecting, .connected | .connecting, .idle
  | .connected, .flashing | .flashing, .connected | .flashing, .idle | .connected, .idle => true
  | _, _ => false

/-! ### What a call may do, and how it ends -/

/-- What a call whose diary is `x` may do on the floor `f`. -/
inductive Duty (config : Config) (errand : Errand) (x : List Event) (f : Floor) :
    StationOp → Prop where
  | plain {op : StationOp} (h : op.plain = true)
      (entitled : ∀ port, op.touched = some port → Entitled x port)
      (harmless : ∀ message, op.said = some message → Harmless message) :
      Duty config errand x f op
  | complains {variant : Variant} {message : String}
      (h : Overdue x f → errand.isConnect = true ∧ ∃ g fault, Event.tags x none = some g ∧
        troubles g x = some fault ∧ message = "Connection error: " ++ fault.message) :
      Duty config errand x f (.link (.log variant message))
  | reads : Duty config errand x f .read
  | looks {g : Nat} : Duty config errand x f (.current g)
  | keeps {desk : Desk} (h : desk.session = f.desk.session) : Duty config errand x f (.write desk)
  | takes {desk : Desk} (h : desk.session = none) : Duty config errand x f (.write desk)
  | stores {desk : Desk} {s : Session} (h : desk.session = some s) (free : f.desk.session = none)
      (hand : s.loader ∈ hands x) (own : Made x s.loader ∨ errand.isFlash = true) :
      Duty config errand x f (.write desk)
  | changes {before after : Phase} (leads : before.leads after = true)
      (now : f.desk.phase = after)
      (joined : before = .connecting → after = .connected →
        Event.tags x none = some f.desk.generation ∧ ∃ s f', f.desk.session = some s ∧
          .wakes (.handshake s.loader) (.ok ()) f' ∈ x) :
      Duty config errand x f (.changed before after)
  | attaches {port : Port} {baud romBaud : UInt32} (h : errand.isConnect = true) :
      Duty config errand x f (.attach port baud romBaud)
  | takesApart {loader : Loader} (h : loader ∈ hands x) : Duty config errand x f (.intoPort loader)
  | asks {filters : List UsbFilter} (h : Overdue x f → filters = [] ∧ config.filters ≠ [] ∧
      ∃ f', answered x = some
        (.wakes (.requestPort config.filters) (.error .noCompatibleDevice) f')) :
      Duty config errand x f (.requestPort filters)
  | shakes {loader : Loader} : Duty config errand x f (.handshake loader)

/-- An operation that is plain, touches no port and says nothing is allowed at any time. -/
theorem Duty.quiet {config : Config} {errand : Errand} {x : List Event} {f : Floor}
    {op : StationOp} (hp : op.plain = true) (ht : op.touched = none) (hs : op.said = none) :
    Duty config errand x f op :=
  .plain hp (fun _ h => by rw [ht] at h; cases h) (fun _ h => by rw [hs] at h; cases h)

/-- What a call may do, with regard to the phase that the observer knows of and to the loaders that
it has taken apart. -/
structure Dutiful (config : Config) (errand : Errand) (start : Floor) (x : List Event) (f : Floor)
    (op : StationOp) : Prop where
  duty : Duty config errand x f op
  free : op.onRecord = false → told start.desk.phase x = f.desk.phase
  changes : ∀ before after, op = .changed before after → told start.desk.phase x = before
  waits : op.suspends = true → ¬ Joined x ∧
    ∀ loader ∈ aparts x, Whole config loader x ∨ Amid config loader x op

/-- The conduct of a call that does its duties. -/
@[reducible] def Duties (config : Config) (errand : Errand) (start : Floor) :
    Conduct (List Event) :=
  .ofDiary (Dutiful config errand start)

/-- A call that is over has nothing in hand, and has told the observer of the phase. -/
structure Tidy (config : Config) (start : Floor) (x : List Event) (f : Floor) : Prop where
  hands : hands x = []
  settled : ∀ loader ∈ aparts x, Whole config loader x
  told : told start.desk.phase x = f.desk.phase

/-- What a superseded call gives back, if it had this trouble before. -/
def Errand.verdict (trouble : Option ConnectFault) : Errand → Result
  | .connect _ => .connected (.error (trouble.getD .superseded))
  | .flash _ => .flashed (.error .superseded)
  | .flashChoice _ => .flashedChoice (.error (.flash .superseded))
  | .disconnect => .disconnected

/-- How a call ends. -/
structure Closed (config : Config) (errand : Errand) (start : Floor) (r : Result) (x : List Event)
    (f : Floor) : Prop where
  tidy : Tidy config start x f
  verdict : ∀ g, Event.tags x none = some g → g ≠ f.desk.generation →
    r = errand.verdict (troubles g x)
  joined : Joined x → errand.isConnect = true ∧ Event.tags x none = some f.desk.generation ∧
    ∃ info, r = .connected (.ok info)

end FlashStation
