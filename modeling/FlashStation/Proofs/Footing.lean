/-
# The footing of a call

A call's footing is what its diary and the floor tell of it while it does its duties: the
generation that it carries, the loaders in hand, the trouble it has seen, and what it knows of the
record. A plain operation is allowed on any footing, if the call is entitled to the port that it
touches, and the footing stays; for each other operation there is a lemma that says what it
changes. While a call releases a loader it is amid the release at each wait, and then the release
is whole.

Key definitions: `Posture`, `Footing`, `StationOp.Within`, `Stance`.
Key theorems: `Footing.runs`, `Stance.runs`, `Stance.releases`.
-/
import FlashStation.Proofs.Duties

namespace FlashStation

open Station Program Event

/-- What a call knows of itself. -/
structure Posture where
  /-- The generation it carries. -/
  tag : Option Nat
  /-- The phase, as long as the call has the station; there is no session in the record then. -/
  phase : Option Phase
  /-- The loaders in hand. -/
  hand : List Loader
  /-- The trouble it has seen. -/
  trouble : Option ConnectFault
  /-- Whether it has looked at the generation. -/
  looked : Bool
  /-- Whether it has the station for sure, since it has not waited after it looked. -/
  now : Bool
  /-- Events that have happened. -/
  seen : List Event

namespace Posture

/-- A call that was just made. -/
def new : Posture := ⟨none, none, [], none, false, false, []⟩

/-- A call that was just accepted. -/
def accepted (g : Nat) (phase : Phase) (hand : List Loader) : Posture :=
  ⟨some g, some phase, hand, none, false, false, []⟩

end Posture

/-- A call that began on the floor `start` is in a posture: its diary `x` and the floor `f` agree
with what it knows of itself. -/
structure Footing (start : Floor) (P : Posture) (x : List Event) (f : Floor) : Prop where
  tag : Event.tags x none = P.tag
  hand : hands x = P.hand
  told : told start.desk.phase x = f.desk.phase
  trouble : ∀ g, P.tag = none ∨ P.tag = some g → troubles g x = P.trouble
  mine : ∀ phase, P.phase = some phase → P.tag = some f.desk.generation →
    f.desk.phase = phase ∧ f.desk.session = none
  unjoined : ¬ Joined x
  looked : P.looked = false → Unlooked x
  now : P.now = true → P.tag = some f.desk.generation
  seen : P.seen ⊆ x

/-- An operation of a part of a call: it is plain, it touches no ports but these, it tells of no
failure, and if the part must not wait it does not. -/
structure StationOp.Within (ports : Port → Prop) (still : Bool) (op : StationOp) : Prop where
  plain : op.plain = true
  still : still = true → op.suspends = false
  ports : ∀ port, op.touched = some port → ports port
  harmless : ∀ message, op.said = some message → Harmless message

/-! ### Events that change nothing -/

namespace Event

/-- An event after which a diary tells the same. -/
structure Idle (e : Event) : Prop where
  tag : ∀ old, e.tag old = old
  hand : ∀ old, e.hand old = old
  apart : e.apart = none
  phase : ∀ old, e.phase old = old
  trouble : ∀ g old, e.trouble g old = old

variable {x : List Event} {e : Event} {op : StationOp} {f : Floor}

theorem idle_plain (h : op.plain = true) (answer : op.Answer) (f : Floor) :
    (does op answer f).Idle := by
  cases op <;> first
    | exact ⟨fun _ => rfl, fun _ => rfl, rfl, fun _ => rfl, fun _ _ => rfl⟩
    | cases h

theorem idle_starts (op : StationOp) (f : Floor) : (starts op f).Idle :=
  ⟨fun _ => rfl, fun _ => rfl, rfl, fun _ => rfl, fun _ _ => rfl⟩

theorem idle_current (g : Nat) (answer : Bool) (f : Floor) : (does (.current g) answer f).Idle :=
  ⟨fun _ => rfl, fun _ => rfl, rfl, fun _ => rfl, fun _ _ => rfl⟩

theorem idle_read (desk : Desk) (f : Floor) : (does .read desk f).Idle :=
  ⟨fun _ => rfl, fun _ => rfl, rfl, fun _ => rfl, fun _ _ => rfl⟩

/-- The observer is told at its own moment. -/
theorem joined_snoc (h : ¬ Joined x) (he : ∀ f, e ≠ .does (.changed .connecting .connected) () f) :
    ¬ Joined (x ++ [e]) := by
  rintro ⟨f, hf⟩
  rcases List.mem_append.mp hf with hf | hf
  · exact h ⟨f, hf⟩
  · exact he f (List.mem_singleton.mp hf).symm

theorem unlooked_snoc (h : Unlooked x) (he : ∀ g, e.performed ≠ some (.current g)) :
    Unlooked (x ++ [e]) :=
  h.append (List.forall_mem_singleton.mpr he)

end Event

theorem StationOp.plain_current {op : StationOp} (h : op.plain = true) (g : Nat) :
    op ≠ .current g := by
  rintro rfl
  cases h

theorem StationOp.plain_settle {op : StationOp} (h : op.plain = true) (suggested : op.Answer)
    (f : Floor) : (op.settle suggested f).2 = f := by
  cases op <;> first | rfl | cases h

namespace Footing

variable {start f f' : Floor} {P : Posture} {x : List Event} {e : Event}

theorem idle (h : Footing start P x f) (he : e.Idle)
    (hl : P.looked = false → ∀ g, e.performed ≠ some (.current g)) :
    Footing start P (x ++ [e]) f where
  tag := by rw [tags_snoc, he.tag, h.tag]
  hand := by rw [hands_snoc, he.hand, h.hand]
  told := by rw [told_snoc, he.phase, h.told]
  trouble g hg := by rw [troubles_snoc, he.trouble, h.trouble g hg]
  mine := h.mine
  unjoined := by
    apply joined_snoc h.unjoined
    rintro f rfl
    cases he.phase .idle
  looked hn := unlooked_snoc (h.looked hn) (hl hn)
  now := h.now
  seen := fun _ hs => List.mem_append_left _ (h.seen hs)

/-- The call does not know any more whether it has the station. -/
theorem waits (h : Footing start P x f) : Footing start { P with now := false } x f :=
  { h with now := nofun }

/-- The call remembers less. -/
theorem forgets (h : Footing start P x f) {seen : List Event} (hs : seen ⊆ P.seen) :
    Footing start { P with seen } x f :=
  { h with seen := fun _ he => h.seen (hs he) }

/-- The call may have looked at the generation. -/
theorem maybe (h : Footing start P x f) : Footing start { P with looked := true } x f :=
  { h with looked := nofun }

/-- Something has happened that the call remembers. -/
theorem remember (h : Footing start P x f) (he : e ∈ x) :
    Footing start { P with seen := e :: P.seen } x f :=
  { h with seen := List.cons_subset.mpr ⟨he, h.seen⟩ }

/-- The call has waited, and others may have changed the floor. -/
theorem wakes (h : Footing start P x f) {op : StationOp} (hs : op.suspends = true)
    (answer : op.Answer) (hd : Drift (Event.tags (x ++ [.starts op f]) none) f f')
    {trouble : Option ConnectFault}
    (ht : ∀ g, P.tag = none ∨ P.tag = some g →
      Event.trouble g P.trouble (.wakes op answer f') = trouble) :
    Footing start { P with trouble, now := false }
      (x ++ [.starts op f] ++ [.wakes op answer f']) f' := by
  have begun : Footing start P (x ++ [.starts op f]) f := by
    apply h.idle (idle_starts op f)
    rintro _ g ⟨⟩
    cases hs
  rw [begun.tag] at hd
  refine ⟨?_, ?_, ?_, fun g hg => ?_, fun p hp ht => ?_, ?_, fun hl => ?_, nofun, ?_⟩
  · rw [tags_snoc, begun.tag]
    rfl
  · rw [hands_snoc, begun.hand]
    rfl
  · rw [told_snoc]
    rfl
  · rw [troubles_snoc, begun.trouble g hg, ht g hg]
  · -- nobody else changes the phase or the session of the call that has the station
    have same := hd.same ht
    have hg : f.desk.generation = f'.desk.generation := by rw [same]
    rw [same]
    exact h.mine p hp (hg ▸ ht)
  · exact joined_snoc begun.unjoined fun _ he => (by cases he)
  · exact unlooked_snoc (begun.looked hl) fun _ he => (by cases he)
  · exact fun _ he => List.mem_append_left _ (begun.seen he)

/-- The call looks whether it has the station. -/
theorem looks (h : Footing start P x f) (g : Nat) {now : Bool}
    (hn : now = true → P.tag = some f.desk.generation) :
    Footing start { P with looked := true, now }
      (x ++ [.does (.current g) (f.desk.generation == g) f]) f := by
  have wiser : Footing start { P with looked := true, now } x f :=
    { h with looked := nofun, now := hn }
  exact wiser.idle (idle_current g _ f) nofun

theorem writes (h : Footing start P x f) {desk : Desk} (hp : desk.phase = f.desk.phase)
    (hg : P.now = true → desk.generation = f.desk.generation) :
    Footing start { P with
        phase := none
        hand := Event.hand P.hand (.does (.write desk) () f) }
      (x ++ [.does (.write desk) () f]) { f with desk } where
  tag := by
    rw [tags_snoc, h.tag]
    rfl
  hand := by rw [hands_snoc, h.hand]
  told := by
    rw [told_snoc]
    exact h.told.trans hp.symm
  trouble g hg := by
    rw [troubles_snoc]
    exact h.trouble g hg
  mine := nofun
  unjoined := joined_snoc h.unjoined fun _ he => (by cases he)
  looked hl := unlooked_snoc (h.looked hl) fun _ he => (by cases he)
  now hn := (h.now hn).trans (congrArg some (hg hn).symm)
  seen := fun _ hs => List.mem_append_left _ (h.seen hs)

theorem attaches (h : Footing start P x f) (port : Port) (baud romBaud : UInt32) (loader : Loader)
    (hf : f'.desk = f.desk) :
    Footing start { P with
        hand := loader :: P.hand
        seen := .does (.attach port baud romBaud) loader f :: P.seen }
      (x ++ [.does (.attach port baud romBaud) loader f]) f' where
  tag := by
    rw [tags_snoc, h.tag]
    rfl
  hand := by
    rw [hands_snoc, h.hand]
    rfl
  told := by
    rw [told_snoc, hf]
    exact h.told
  trouble g hg := by
    rw [troubles_snoc]
    exact h.trouble g hg
  mine := by
    rw [hf]
    exact h.mine
  unjoined := joined_snoc h.unjoined fun _ he => (by cases he)
  looked hl := unlooked_snoc (h.looked hl) fun _ he => (by cases he)
  now := by
    rw [hf]
    exact h.now
  seen := List.cons_subset.mpr
    ⟨List.mem_append_right _ (.head _), fun _ hs => List.mem_append_left _ (h.seen hs)⟩

theorem takesApart (h : Footing start P x f) (loader : Loader) :
    Footing start { P with hand := P.hand.erase loader }
      (x ++ [.does (.intoPort loader) loader.port f]) f where
  tag := by
    rw [tags_snoc, h.tag]
    rfl
  hand := by
    rw [hands_snoc, h.hand]
    rfl
  told := by
    rw [told_snoc]
    exact h.told
  trouble g hg := by
    rw [troubles_snoc]
    exact h.trouble g hg
  mine := h.mine
  unjoined := joined_snoc h.unjoined fun _ he => (by cases he)
  looked hl := unlooked_snoc (h.looked hl) fun _ he => (by cases he)
  now := h.now
  seen := fun _ hs => List.mem_append_left _ (h.seen hs)

end Footing

/-! ### Changing the phase -/

/-- The floor after the phase was changed. -/
def Floor.turned (f : Floor) (next : Phase) : Floor :=
  { f with desk := { f.desk with phase := next } }

/-- What happens when the phase is changed to another one. -/
def turn (f : Floor) (next : Phase) : List Event :=
  [.does .read f.desk f, .does (.write (f.turned next).desk) () f,
    .does (.changed f.desk.phase next) () (f.turned next)]

namespace Event

variable {x : List Event} {f : Floor} {next : Phase}

/-- A session that stays where it is is in nobody's hand. -/
theorem hand_keeps {desk : Desk} (h : desk.session = f.desk.session) (old : List Loader) :
    hand old (.does (.write desk) () f) = old := by
  simp only [hand, h]
  cases f.desk.session <;> rfl

/-- A session that is taken is in hand. -/
theorem hand_takes {desk : Desk} (h : desk.session = none) (old : List Loader) :
    hand old (.does (.write desk) () f) = (f.desk.session.map (·.loader)).toList ++ old := by
  simp only [hand, h]
  cases f.desk.session <;> rfl

/-- A session that is taken is all that is in hand, where nothing was before. -/
theorem hand_takes_nil {desk : Desk} (h : desk.session = none) :
    hand [] (.does (.write desk) () f) = (f.desk.session.map (·.loader)).toList := by
  rw [hand_takes h, List.append_nil]

/-- A session that is stored is in hand no longer. -/
theorem hand_stores {desk : Desk} {s : Session} (h : desk.session = some s)
    (free : f.desk.session = none) (old : List Loader) :
    hand old (.does (.write desk) () f) = old.erase s.loader := by
  simp only [hand, h, free]

theorem hand_stores_alone {desk : Desk} {s : Session} (h : desk.session = some s)
    (free : f.desk.session = none) : hand [s.loader] (.does (.write desk) () f) = [] := by
  rw [hand_stores h free, List.erase_cons_head]

theorem turn_snoc : x ++ turn f next =
    x ++ [.does .read f.desk f] ++ [.does (.write (f.turned next).desk) () f] ++
      [.does (.changed f.desk.phase next) () (f.turned next)] := by
  simp [turn]

theorem tags_turn (old : Option Nat) : tags (x ++ turn f next) old =
    tag (tags x old) (.does (.changed f.desk.phase next) () (f.turned next)) := by
  rw [turn_snoc, tags_snoc, tags_snoc, tags_snoc]
  rfl

theorem hands_turn : hands (x ++ turn f next) = hands x := by
  rw [turn_snoc, hands_snoc, hands_snoc, hands_snoc]
  exact hand_keeps rfl _

theorem aparts_turn : aparts (x ++ turn f next) = aparts x := by
  rw [turn_snoc, aparts_snoc, aparts_snoc, aparts_snoc]
  simp [apart]

theorem told_turn (before : Phase) : told before (x ++ turn f next) = next := by
  rw [turn_snoc, told_snoc]
  rfl

theorem troubles_turn (g : Nat) : troubles g (x ++ turn f next) = troubles g x := by
  rw [turn_snoc, troubles_snoc, troubles_snoc, troubles_snoc]
  rfl

theorem unlooked_turn : Unlooked (turn f next) := by
  intro e he g
  simp only [turn, List.mem_cons, List.not_mem_nil, or_false] at he
  rcases he with rfl | rfl | rfl
  all_goals
    intro looked
    cases looked

theorem joined_turn (h : ¬ Joined x) (hj : f.desk.phase = .connecting → next ≠ .connected) :
    ¬ Joined (x ++ turn f next) := by
  rw [turn_snoc]
  refine joined_snoc (joined_snoc (joined_snoc h fun _ he => ?_) fun _ he => ?_) fun _ he => ?_
  · cases he
  · cases he
  · injection he with op
    injection op with before after
    exact hj before after

end Event

namespace Footing

variable {start f : Floor} {P : Posture} {x : List Event} {next : Phase}

theorem turns (h : Footing start P x f) (hj : f.desk.phase = .connecting → next ≠ .connected)
    {tag : Option Nat}
    (ht : Event.tag P.tag (.does (.changed f.desk.phase next) () (f.turned next)) = tag)
    (hg : P.tag = none ∨ P.tag = tag) {phase : Option Phase}
    (hp : ∀ p, phase = some p → next = p ∧ f.desk.session = none) {now : Bool}
    (hn : now = true → tag = some f.desk.generation) :
    Footing start { P with tag, phase, now } (x ++ turn f next) (f.turned next) where
  tag := by rw [tags_turn, h.tag, ht]
  hand := by rw [hands_turn, h.hand]
  told := by
    rw [told_turn]
    rfl
  trouble g hg' := by
    rw [troubles_turn]
    apply h.trouble
    rcases hg with hg | hg
    · exact .inl hg
    · rw [hg]
      exact hg'
  mine p hp' _ := hp p hp'
  unjoined := joined_turn h.unjoined hj
  looked hl := (h.looked hl).append unlooked_turn
  now := hn
  seen := fun _ he => List.mem_append_left _ (h.seen he)

end Footing

/-! ### Parts of a call that perform plain operations -/

theorem Program.Performs.trans {α : Type} {p q r : Program Station α} {z z' : List Event}
    (h : p.Performs z q) (h' : q.Performs z' r) : p.Performs (z ++ z') r := by
  induction h' with
  | here =>
    rw [List.append_nil]
    exact h
  | does _ hs suggested f ih =>
    rw [← List.append_assoc]
    exact ih.does hs suggested f
  | answered _ hs f answer f' ih =>
    rw [← List.append_assoc, ← List.append_assoc]
    exact ih.answered hs f answer f'

section
variable {config : Config} {errand : Errand} {start f : Floor} {P : Posture} {x : List Event}
  {ports : Port → Prop} {α : Type} {p : Program Station α}

/-- **A part that performs plain operations keeps the footing.** At each wait the loaders that were
taken apart before have to be accounted for. -/
theorem Footing.runs (h : Footing start P x f) (hp : p.Uses (StationOp.Within ports P.now))
    (ent : ∀ port, ports port → Entitled x port)
    (safe : ∀ z op next, p.Performs z (.call op next) → ∀ loader ∈ aparts x,
      Whole config loader (x ++ z) ∨ Amid config loader (x ++ z) op) :
    p.Conforms (Duties config errand start) (fun a x' f' => ∃ z, x' = x ++ z ∧
      p.Performs z (.done a) ∧ Footing start P x' f' ∧ aparts x' = aparts x) x f := by
  -- the invariant tells what was performed so far and what is left
  have run := conforms_along (C := Duties config errand start)
    (I := fun q x' f' => ∃ z, x' = x ++ z ∧ p.Performs z q ∧
      q.Uses (StationOp.Within ports P.now) ∧ Footing start P x' f' ∧ aparts x' = aparts x ∧
      Unlooked z) ?may ?does ?wakes ⟨[], (List.append_nil x).symm, .here, hp, h, rfl,
        List.forall_mem_nil _⟩
  · refine run.mono ?_
    rintro a _ _ ⟨z, rfl, performed, -, footing, same, -⟩
    exact ⟨z, rfl, performed, footing, same⟩
  case may =>
    rintro op next _ f ⟨z, rfl, performed, hq, footing, same, unlooked⟩
    have within := hq.1
    refine ⟨.plain within.plain (fun port ht => ?_) within.harmless, fun _ => footing.told, ?_,
      fun _ => ⟨footing.unjoined, fun loader hl => ?_⟩⟩
    · exact (ent port (within.ports port ht)).append unlooked
    · rintro before after rfl
      cases within.plain
    · exact safe z op next performed loader (same ▸ hl)
  case does =>
    rintro op next _ f ⟨z, rfl, performed, hq, footing, same, unlooked⟩ hs suggested
    have within := hq.1
    have idle := idle_plain within.plain (op.settle suggested f).1 f
    have other (g : Nat) :
        (does op (op.settle suggested f).1 f).performed ≠ some (.current g) :=
      fun he => StationOp.plain_current within.plain g (Option.some.inj he)
    refine ⟨_, List.append_assoc x z _, performed.does hs suggested f, hq.2 _, ?_, ?_, ?_⟩
    · rw [StationOp.plain_settle within.plain]
      exact footing.idle idle fun _ => other
    · show aparts (x ++ z ++ _) = _
      rw [aparts_snoc, idle.apart, same]
      exact List.append_nil _
    · exact unlooked_snoc unlooked other
  case wakes =>
    rintro op next _ f ⟨z, rfl, performed, hq, footing, same, unlooked⟩ hs answer f' hd
    have within := hq.1
    have waits : P.now = false := by
      cases hn : P.now with
      | false => rfl
      | true =>
        rw [within.still hn] at hs
        cases hs
    have quiet (g : Nat) (old : Option ConnectFault) :
        Event.trouble g old (.wakes op answer f') = old := by
      have plain := within.plain
      cases op <;> first | rfl | cases plain
    have awake := footing.wakes hs answer hd fun g _ => quiet g P.trouble
    refine ⟨_, ?_, performed.answered hs f answer f', hq.2 _, ?_, ?_, ?_⟩
    · show x ++ z ++ _ ++ _ = _
      rw [List.append_assoc, List.append_assoc, List.append_assoc]
    · have same : { P with now := false } = P := by rw [← waits]
      rw [← same]
      exact awake
    · show aparts (x ++ z ++ _ ++ _) = _
      rw [aparts_snoc, aparts_snoc, same]
      simp [Event.apart]
    · refine unlooked_snoc (unlooked_snoc unlooked fun g he => ?_) fun _ he => (by cases he)
      cases he
      cases hs

/-- A footing on which every loader that was taken apart has been released. -/
structure Stance (config : Config) (start : Floor) (P : Posture) (x : List Event) (f : Floor) :
    Prop extends Footing start P x f where
  settled : ∀ loader ∈ aparts x, Whole config loader x

namespace Stance

variable {β : Type} {k : α → Program Station β} {Q : β → List Event → Floor → Prop} {g : Nat}

/-- A part that performs plain operations keeps the stance. -/
theorem runs (h : Stance config start P x f) (hp : p.Uses (StationOp.Within ports P.now))
    (ent : ∀ port, ports port → Entitled x port) :
    p.Conforms (Duties config errand start) (fun _ => Stance config start P) x f := by
  have whole (z : List Event) : ∀ loader ∈ aparts x, Whole config loader (x ++ z) :=
    fun loader hl => (h.settled loader hl).append z
  refine (h.toFooting.runs hp ent fun z _ _ _ loader hl => .inl (whole z loader hl)).mono ?_
  rintro _ _ _ ⟨z, rfl, -, footing, same⟩
  exact ⟨footing, fun loader hl => whole z loader (same ▸ hl)⟩

/-- Such a part, and then the rest. -/
theorem bind (h : Stance config start P x f) (hp : p.Uses (StationOp.Within ports P.now))
    (ent : ∀ port, ports port → Entitled x port)
    (hk : ∀ a x f, Stance config start P x f → (k a).Conforms (Duties config errand start) Q x f) :
    (p.bind k).Conforms (Duties config errand start) Q x f :=
  (h.runs hp ent).bind hk

/-- A call that may wait does not know any more whether it has the station. -/
theorem waits (h : Stance config start P x f) : Stance config start { P with now := false } x f :=
  ⟨h.toFooting.waits, h.settled⟩

/-- A call remembers less. -/
theorem forgets (h : Stance config start P x f) {seen : List Event} (hs : seen ⊆ P.seen) :
    Stance config start { P with seen } x f :=
  ⟨h.toFooting.forgets hs, h.settled⟩

/-- A call may have looked at the generation. -/
theorem maybe (h : Stance config start P x f) : Stance config start { P with looked := true } x f :=
  ⟨h.toFooting.maybe, h.settled⟩

theorem recalls (h : Stance config start P x f) {trouble : Option ConnectFault}
    (ht : P.trouble = trouble) : Stance config start { P with trouble } x f := by
  subst ht
  exact h

theorem holding (h : Stance config start P x f) {hand : List Loader} (hh : P.hand = hand) :
    Stance config start { P with hand } x f := by
  subst hh
  exact h

/-- An event at which no loader is taken apart. -/
theorem settled_snoc (h : Stance config start P x f) {e : Event} (he : e.apart = none) :
    ∀ loader ∈ aparts (x ++ [e]), Whole config loader (x ++ [e]) := by
  intro loader hl
  rw [aparts_snoc, he, Option.toList_none, List.append_nil] at hl
  exact (h.settled loader hl).append _

/-- The duties of an operation that only has to be allowed. -/
theorem dutiful (h : Stance config start P x f) {op : StationOp} (duty : Duty config errand x f op)
    (hc : ∀ before after, op ≠ .changed before after) : Dutiful config errand start x f op :=
  ⟨duty, fun _ => h.told, fun before after e => absurd e (hc before after),
    fun _ => ⟨h.unjoined, fun loader hl => .inl (h.settled loader hl)⟩⟩

/-- A call waits for an answer. -/
theorem awaits (h : Stance config start P x f) {op : StationOp} (hs : op.suspends = true)
    (ht : P.tag = some g) (duty : Duty config errand x f op) {k : op.Answer → Program Station β}
    (hk : ∀ answer x f, Stance config start { P with
          trouble := Event.trouble g P.trouble (.wakes op answer f)
          now := false
          seen := .wakes op answer f :: P.seen } x f →
        answered x = some (.wakes op answer f) →
        (k answer).Conforms (Duties config errand start) Q x f) :
    ((perform op).bind k).Conforms (Duties config errand start) Q x f := by
  have still (before after : Phase) : op ≠ .changed before after := by
    rintro rfl
    cases hs
  refine (conforms_bind _ _).mpr ((conforms_waits hs).mpr ⟨h.dutiful duty still, ?_⟩)
  intro answer f' hd
  have same (g' : Nat) (hg : P.tag = none ∨ P.tag = some g') :
      trouble g' P.trouble (.wakes op answer f') = trouble g P.trouble (.wakes op answer f') := by
    rw [ht] at hg
    rcases hg with hg | hg <;> cases hg
    rfl
  have awake := h.toFooting.wakes hs answer hd same
  refine hk answer (x ++ [.starts op f] ++ [.wakes op answer f']) f'
    ⟨awake.remember (List.mem_append_right _ (.head _)), ?_⟩ ?_
  · intro loader hl
    rw [aparts_snoc, aparts_snoc] at hl
    simp only [apart, Option.toList_none, List.append_nil] at hl
    exact ((h.settled loader hl).append _).append _
  · rw [answered_snoc]
    rfl

/-- A call looks whether it was superseded. -/
theorem looks (h : Stance config start P x f) (ht : P.tag = some g) {k : Bool → Program Station β}
    (late : ∀ x, f.desk.generation ≠ g →
      Stance config start { P with looked := true, now := false } x f →
      (k false).Conforms (Duties config errand start) Q x f)
    (now : ∀ x, Stance config start { P with looked := true, now := true } x f →
      (k true).Conforms (Duties config errand start) Q x f) :
    ((isCurrent g).bind k).Conforms (Duties config errand start) Q x f := by
  have allowed : Dutiful config errand start x f (.current g) := h.dutiful .looks nofun
  have wiser (now : Bool) (hn : now = true → P.tag = some f.desk.generation) :
      Stance config start { P with looked := true, now }
        (x ++ [.does (.current g) (f.desk.generation == g) f]) f :=
    ⟨h.toFooting.looks g hn, h.settled_snoc rfl⟩
  refine (conforms_bind _ _).mpr ((conforms_does rfl).mpr ⟨allowed, fun _ => ?_⟩)
  show (k (f.desk.generation == g)).Conforms _ Q
    (x ++ [.does (.current g) (f.desk.generation == g) f]) f
  cases hg : f.desk.generation == g with
  | true =>
    rw [hg] at wiser
    exact now _ (wiser true fun _ => by rw [ht, beq_iff_eq.mp hg])
  | false =>
    rw [hg] at wiser
    exact late _ (beq_eq_false_iff_ne.mp hg) (wiser false nofun)

/-- A call looks whether it was superseded, and goes one of two ways. -/
theorem ifCurrent (h : Stance config start P x f) (ht : P.tag = some g)
    {A B : Program Station β}
    (hA : ∀ x, f.desk.generation ≠ g →
      Stance config start { P with looked := true, now := false } x f →
      A.Conforms (Duties config errand start) Q x f)
    (hB : ∀ x, Stance config start { P with looked := true, now := true } x f →
      B.Conforms (Duties config errand start) Q x f) :
    ((isCurrent g).bind fun b => if (!b) = true then A else B).Conforms
      (Duties config errand start) Q x f :=
  h.looks ht hA hB

theorem not_overdue (h : Stance config start P x f) (hn : P.now = true) : ¬ Overdue x f := by
  rintro ⟨g, ht, hg⟩
  rw [h.tag, h.now hn] at ht
  exact hg (Option.some.inj ht).symm

/-- A call adds an entry to the trail. -/
theorem tells (h : Stance config start P x f) {variant : Variant} {message : String}
    (duty : Duty config errand x f (.link (.log variant message)))
    {k : Unit → Program Station β}
    (hk : ∀ x', Stance config start P x' f → answered x' = answered x →
      (k ()).Conforms (Duties config errand start) Q x' f) :
    ((log variant message).bind k).Conforms (Duties config errand start) Q x f := by
  have idle := @idle_plain (.link (.log variant message)) rfl () f
  refine (conforms_bind _ _).mpr ((conforms_does rfl).mpr ⟨h.dutiful duty nofun, fun _ => ?_⟩)
  refine hk _ ⟨h.toFooting.idle idle nofun, h.settled_snoc rfl⟩ ?_
  exact answered_snoc _ _

/-- A call reads the record. -/
theorem reads (h : Stance config start P x f) {k : Desk → Program Station β}
    (hk : ∀ x, Stance config start P x f →
      (k f.desk).Conforms (Duties config errand start) Q x f) :
    (Station.read.bind k).Conforms (Duties config errand start) Q x f := by
  have allowed : Dutiful config errand start x f .read := h.dutiful .reads nofun
  refine (conforms_bind _ _).mpr ((conforms_does rfl).mpr ⟨allowed, fun _ => ?_⟩)
  exact hk _ ⟨h.toFooting.idle (idle_read f.desk f) nofun, h.settled_snoc rfl⟩

/-- A call writes the record, and the phase stays. -/
theorem writes (h : Stance config start P x f) {desk : Desk}
    (duty : Duty config errand x f (.write desk)) (hp : desk.phase = f.desk.phase)
    (hg : P.now = true → desk.generation = f.desk.generation) {k : Unit → Program Station β}
    (hk : ∀ x, Stance config start { P with
          phase := none
          hand := Event.hand P.hand (.does (.write desk) () f) } x { f with desk } →
        (k ()).Conforms (Duties config errand start) Q x { f with desk }) :
    ((Station.write desk).bind k).Conforms (Duties config errand start) Q x f := by
  refine (conforms_bind _ _).mpr ((conforms_does rfl).mpr ⟨h.dutiful duty nofun, fun _ => ?_⟩)
  exact hk _ ⟨h.toFooting.writes hp hg, h.settled_snoc rfl⟩

/-- A call changes the record, and the phase stays. -/
theorem updates (h : Stance config start P x f) {u : Desk → Desk}
    (duty : ∀ x, Stance config start P x f → Duty config errand x f (.write (u f.desk)))
    (hp : (u f.desk).phase = f.desk.phase)
    (hg : P.now = true → (u f.desk).generation = f.desk.generation) {k : Unit → Program Station β}
    (hk : ∀ x, Stance config start { P with
          phase := none
          hand := Event.hand P.hand (.does (.write (u f.desk)) () f) } x
            { f with desk := u f.desk } →
        (k ()).Conforms (Duties config errand start) Q x { f with desk := u f.desk }) :
    ((update u).bind k).Conforms (Duties config errand start) Q x f := by
  unfold update
  rw [bind_def, bind_assoc]
  exact h.reads fun x h => h.writes (duty x h) hp hg hk

/-- A call changes the phase, and tells the observer. -/
theorem turns (h : Stance config start P x f) {next : Phase} (hne : f.desk.phase ≠ next)
    (leads : f.desk.phase.leads next = true)
    (joined : f.desk.phase = .connecting → next = .connected →
      Event.tags x none = some f.desk.generation ∧ ∃ s f', f.desk.session = some s ∧
        .wakes (.handshake s.loader) (.ok ()) f' ∈ x) {Q : Unit → List Event → Floor → Prop}
    (hQ : Q () (x ++ turn f next) (f.turned next)) :
    (setPhase next).Conforms (Duties config errand start) Q x f := by
  have written : Dutiful config errand start (x ++ [.does .read f.desk f]) f
      (.write (f.turned next).desk) :=
    Stance.dutiful ⟨h.toFooting.idle (idle_read f.desk f) nofun, h.settled_snoc rfl⟩
      (.keeps rfl) nofun
  have told : Dutiful config errand start
      (x ++ [.does .read f.desk f] ++ [.does (.write (f.turned next).desk) () f]) (f.turned next)
      (.changed f.desk.phase next) := by
    refine ⟨.changes leads rfl fun hb ha => ?_, nofun, ?_, nofun⟩
    · obtain ⟨ht, s, f', hs, shaken⟩ := joined hb ha
      rw [tags_snoc, tags_snoc]
      exact ⟨ht, s, f', hs, List.mem_append_left _ (List.mem_append_left _ shaken)⟩
    · rintro _ _ ⟨⟩
      rw [told_snoc, told_snoc]
      exact h.told
  refine (conforms_bind _ _).mpr ((conforms_does rfl).mpr ⟨h.dutiful .reads nofun, fun _ => ?_⟩)
  show (if f.desk.phase ≠ next then _ else _ : Program Station Unit).Conforms _ _ _ f
  rw [if_pos hne]
  refine (conforms_bind _ _).mpr ((conforms_does rfl).mpr ⟨written, fun _ => ?_⟩)
  refine (conforms_does rfl).mpr ⟨told, fun _ => ?_⟩
  rw [turn_snoc] at hQ
  exact hQ

theorem settled_turn (h : Stance config start P x f) {next : Phase} :
    ∀ loader ∈ aparts (x ++ turn f next), Whole config loader (x ++ turn f next) := by
  intro loader hl
  rw [aparts_turn] at hl
  exact (h.settled loader hl).append _

/-- After the phase was changed to one that accepts a call, which has the station then. -/
theorem accepted (h : Stance config start P x f) {next : Phase} (hb : next.busy = true)
    (ht : P.tag = none) (free : f.desk.session = none) :
    Stance config start
      { P with tag := some f.desk.generation, phase := some next, now := false }
      (x ++ turn f next) (f.turned next) := by
  have tag : Event.tag P.tag (.does (.changed f.desk.phase next) () (f.turned next)) =
      some f.desk.generation := by
    cases next <;> first | rfl | cases hb
  have busy : next ≠ .connected := by
    rintro rfl
    cases hb
  refine ⟨h.toFooting.turns (fun _ => busy) tag (.inl ht) ?_ nofun, h.settled_turn⟩
  rintro _ ⟨⟩
  exact ⟨rfl, free⟩

/-- After the phase was changed to one that accepts no call, unless a connect has joined. -/
theorem rested (h : Stance config start P x f) {next : Phase} (hb : next.busy = false)
    (hj : f.desk.phase = .connecting → next ≠ .connected) :
    Stance config start { P with phase := none } (x ++ turn f next) (f.turned next) := by
  have tag : Event.tag P.tag (.does (.changed f.desk.phase next) () (f.turned next)) = P.tag := by
    cases next <;> first | rfl | cases hb
  exact ⟨h.toFooting.turns hj tag (.inr rfl) (fun _ hp => by cases hp) h.now, h.settled_turn⟩

/-- The phase is what it shall be. -/
theorem stays (h : Stance config start P x f) {next : Phase} (hp : f.desk.phase = next)
    {Q : Unit → List Event → Floor → Prop} (hQ : ∀ x, Stance config start P x f → Q () x f) :
    (setPhase next).Conforms (Duties config errand start) Q x f := by
  refine h.reads fun x h => ?_
  show (if f.desk.phase ≠ next then _ else _ : Program Station Unit).Conforms _ _ _ f
  rw [if_neg (not_not_intro hp)]
  exact hQ x h

/-- A call makes a loader. -/
theorem attaches (h : Stance config start P x f) (he : errand.isConnect = true) (port : Port)
    (baud romBaud : UInt32) {k : Loader → Program Station β}
    (hk : ∀ loader made x f, made ∈ x → made.Makes loader → Stance config start { P with
          hand := loader :: P.hand
          seen := made :: P.seen } x f →
        (k loader).Conforms (Duties config errand start) Q x f) :
    ((perform (.attach port baud romBaud)).bind k).Conforms (Duties config errand start) Q x f := by
  have allowed : Dutiful config errand start x f (.attach port baud romBaud) :=
    h.dutiful (.attaches he) nofun
  refine (conforms_bind _ _).mpr ((conforms_does rfl).mpr ⟨allowed, fun _ => ?_⟩)
  refine hk _ _ _ _ (List.mem_append_right _ (.head _)) (.attach port baud romBaud f) ?_
  exact ⟨h.toFooting.attaches port baud romBaud _ rfl, h.settled_snoc rfl⟩

end Stance

end

end FlashStation
