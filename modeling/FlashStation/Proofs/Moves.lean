/-
# What one step does

A step is one of four: a call is made and refused; a call is made, accepted and goes on with its
body; a call that waited is answered and goes on with its body; or a loader reports progress. The
body of a call conforms to `Manners`, so a stretch of it that ends in a wait leaves the record as
it was, and so does one of a call that was superseded; what a last stretch leaves behind is told
by `Call.Ends`.

Key definitions: `Errand.closing`, `Errand.Ends`, `Call.conduct`, `Call.Waits`, `Accepted`,
`Ran`, `Traffic.Move`.
Key theorems: `Stretch.ran`, `Traffic.Step.move`.
-/
import FlashStation.Proofs.Errands
import FlashStation.Proofs.Opening

namespace FlashStation

open Station Program

/-- The last word of a call: a flash that succeeded has put back the session that was there when
the call was made. -/
def Errand.closing (errand : Errand) (found : Option Session) (d d' : Desk) : Prop :=
  errand.isFlash = true ∧ ∃ s, found = some s ∧ d' = d.flashed s

/-- What a call that carries `tag` leaves behind in its last stretch; `found` is the session that
was there when the call was made. -/
inductive Errand.Ends (config : Config) (found : Option Session) (tag : Option Nat)
    (since f : Floor) : Errand → Prop where
  | connect {preferred : Option UInt32} {g : Nat} {r : Except ConnectFault DeviceInfo}
      (ht : tag = some g) (h : Attempted g (preferred.getD config.defaultBaud) since f r) :
      Ends config found tag since f (.connect preferred)
  | flash {errand : Errand} {g : Nat} {s : Session} (he : errand.isFlash = true)
      (ht : tag = some g) (hs : found = some s) (h : Finished g s since f) :
      Ends config found tag since f errand
  | disconnect (ht : tag = none) (h : f.desk = since.desk) :
      Ends config found tag since f .disconnect

namespace Call

/-- How the body of a call behaves. -/
def conduct (c : Call) : Conduct Floor :=
  Manners c.tag (c.errand.closing c.start.desk.session)

/-- What a call leaves behind in its last stretch. -/
def Ends (config : Config) (c : Call) (since f : Floor) : Prop :=
  c.errand.Ends config c.start.desk.session c.tag since f

/-- A call that waits goes on to conform, and waits on its own behalf. -/
structure Waits (config : Config) (f : Floor) (c : Call) : Prop where
  rests : c.conduct.Rests (fun _ => c.Ends config) f f c.rest
  speaks : ∀ {op next}, c.rest = .call op next → ∀ g, op.speaksFor = some g → c.tag = some g

end Call

/-- A call that was accepted: what it is, the floor then, and the generation it carries. -/
inductive Accepted (f : Floor) : Errand → Floor → Option Nat → Prop where
  | connect {preferred : Option UInt32} (h : f.desk.phase = .idle ∨ f.desk.phase = .connected) :
      Accepted f (.connect preferred) { f with desk := f.desk.connecting }
        (some (f.desk.generation + 1))
  | flash {errand : Errand} {s : Session} (h : errand.isFlash = true)
      (hp : f.desk.phase = .connected) (hs : f.desk.session = some s) :
      Accepted f errand { f with desk := f.desk.flashing } (some f.desk.generation)
  | disconnect : Accepted f .disconnect { f with desk := f.desk.tornDown } none

/-- A stretch of a call's body, from `f` to `f'`. The call is as it is afterwards. -/
structure Ran (config : Config) (c : Call) (f : Floor) (es : List Event) (f' : Floor) : Prop where
  performed : ∀ e ∈ es, ∃ op, e.performed = some op
  proper : ∀ e ∈ es, ∀ op, e.performed = some op → c.conduct.may f e.floor op
  loaders : f.loaders ⊆ f'.loaders
  stays : c.pending = true → f'.desk = f.desk ∧ c.Waits config f'
  ends : c.pending = false → c.Ends config f f'
  idle : Late c.tag f.desk → f' = f ∧ ∀ e ∈ es, e.floor = f

/-- One step: the caller, what happens, and how things are then. -/
inductive Traffic.Move (config : Config) (t : Traffic) : Nat → List Event → Traffic → Prop where
  | refused {errand : Errand} {es : List Event} {r : Result} (text : Option String)
      (h : errand ≠ .disconnect) (pre : Prelude t.floor es) :
      Move config t t.calls.length es
        ⟨{ t.floor with desk := { t.floor.desk with lastError := text } },
          t.calls ++ [⟨errand, t.floor, none, .done r⟩]⟩
  | accepted {errand : Errand} {f f' : Floor} {tag : Option Nat} {pre es : List Event}
      {q : Program Station Result} (h : Accepted t.floor errand f tag) (hpre : Prelude t.floor pre)
      (ran : Ran config ⟨errand, t.floor, tag, q⟩ f es f') :
      Move config t t.calls.length (pre ++ es) ⟨f', t.calls ++ [⟨errand, t.floor, tag, q⟩]⟩
  | resumed {i : Nat} {c : Call} {op : StationOp} {answer : op.Answer} {es : List Event}
      {f' : Floor} {q : Program Station Result} (hc : t.calls[i]? = some c) (hp : c.pending = true)
      (ran : Ran config { c with rest := q } t.floor es f') :
      Move config t i (.wakes op answer t.floor :: es) ⟨f', t.calls.set i { c with rest := q }⟩
  | reported {i : Nat} {c : Call} {g : Nat} {written total : UInt64} {es : List Event} {f' : Floor}
      (hc : t.calls[i]? = some c) (hp : c.pending = true) (ht : c.tag = some g)
      (h : Reports t.floor g written total es f') :
      Move config t i es ⟨f', t.calls⟩

section
variable {config : Config} {c : Call} {f f' : Floor} {es : List Event}
  {p q : Program Station Result}

/-- The call waits on, after others ran. -/
theorem Call.Waits.drift (h : c.Waits config f) (hp : c.pending = true) (hd : Drift c.tag f f') :
    c.Waits config f' := by
  obtain ⟨errand, start, tag, rest⟩ := c
  cases rest with
  | done r => cases hp
  | call op next =>
    exact ⟨fun answer f'' hd' => h.rests answer f'' (hd.trans hd'), h.speaks⟩

/-- A stretch of a body that conforms. -/
theorem Stretch.ran (h : Stretch p f es f' q)
    (hp : p.Conforms c.conduct (fun _ => c.Ends config) f f) :
    Event.tags es c.tag = c.tag ∧ Ran config { c with rest := q } f es f' := by
  obtain ⟨proper, rests⟩ := h.manners hp
  refine ⟨Event.tags_eq _ fun e he op ho => (proper e he op ho).accepts, h.performed, proper,
    h.loaders.1, fun hq => ?_, fun hq => ?_, fun late => ?_⟩
  · cases q with
    | done r => cases hq
    | call op next =>
      obtain ⟨hs, he⟩ := h.starts rfl
      -- the beginning of a wait is an event with the record free, and no last word
      have last := proper _ he op rfl
      have free : op.onRecord = false := by cases op <;> first | rfl | cases hs
      refine ⟨?_, fun answer f'' hd => rests answer f'' hd, ?_⟩
      · rcases last.free free with same | ⟨hn, _⟩
        · exact same
        · rw [hs] at hn
          cases hn
      · rintro op next ⟨⟩ g hg
        exact last.speaksFor g hg
  · cases q with
    | done r => exact rests
    | call op next => cases hq
  · exact h.idle fun e he op ho => (proper e he op ho).inert late

/-! ### The body of each call conforms -/

theorem connect_body {preferred : Option UInt32} {g : Nat} (previous : Option Session)
    (hc : c.errand = .connect preferred) (ht : c.tag = some g) (hg : f.desk.generation = g) :
    ((attempt config g (preferred.getD config.defaultBaud) previous).bind
      fun r => .done (Result.connected r)).Conforms c.conduct (fun _ => c.Ends config) f f := by
  unfold Call.conduct Call.Ends
  rw [hc, ht]
  exact (attempt_conforms config _ previous hg).bind fun r _ _ h => Errand.Ends.connect rfl h.1

theorem flash_body {s : Session} {source : Source} {chip : Option String} {g : Nat}
    {wrap : Except FlashFault FlashSummary → Result} (hc : c.errand.isFlash = true)
    (hs : c.start.desk.session = some s) (ht : c.tag = some g) (hg : f.desk.generation = g) :
    ((flashWith config g s source chip).bind fun r => .done (wrap r)).Conforms
      c.conduct (fun _ => c.Ends config) f f := by
  unfold Call.conduct Call.Ends
  rw [ht]
  have closes (d : Desk) : c.errand.closing c.start.desk.session d (d.flashed s) := ⟨hc, s, hs, rfl⟩
  refine (flashWith_conforms config s source chip closes hg).bind fun _ _ _ h => ?_
  exact Errand.Ends.flash hc rfl hs h

theorem disconnect_body (session : Option Session) (phase : Phase) (hc : c.errand = .disconnect)
    (ht : c.tag = none) :
    ((letGo config session phase).bind fun _ => .done Result.disconnected).Conforms
      c.conduct (fun _ => c.Ends config) f f := by
  unfold Call.conduct Call.Ends
  rw [hc, ht]
  exact (letGo_conforms config session phase).bind fun _ _ _ h => Errand.Ends.disconnect rfl h

end

namespace Traffic

variable {config : Config} {t t' : Traffic} {i : Nat} {es : List Event}

/-- A call that was accepted goes on with its body. -/
theorem Move.accept {errand : Errand} {f f' : Floor} {tag : Option Nat} {pre es : List Event}
    {p q : Program Station Result} (h : Accepted t.floor errand f tag)
    (hpre : Prelude t.floor pre) (ht : Event.tags pre none = tag) (hs : Stretch p f es f' q)
    (hp : p.Conforms (Call.conduct ⟨errand, t.floor, tag, p⟩)
      (fun _ => Call.Ends config ⟨errand, t.floor, tag, p⟩) f f) :
    Move config t t.calls.length (pre ++ es)
      ⟨f', t.calls ++ [⟨errand, t.floor, Event.tags (pre ++ es) none, q⟩]⟩ := by
  obtain ⟨tags, ran⟩ := hs.ran (c := ⟨errand, t.floor, tag, p⟩) hp
  have same : Event.tags (pre ++ es) none = tag := by
    rw [Event.tags_append, ht]
    exact tags
  rw [same]
  exact .accepted h hpre ran

/-- **A step is a refusal, an acceptance, a resumption or a report.** -/
theorem Step.move (hw : ∀ c ∈ t.calls, c.pending = true → c.Waits config t.floor)
    (h : Step config t i es t') : Move config t i es t' := by
  cases h with
  | begins errand h =>
    cases h.opens with
    | refused text he pre tag =>
      rw [tag]
      exact .refused text he pre
    | connects free pre tag body =>
      exact .accept (.connect free) pre tag body (connect_body _ rfl rfl rfl)
    | flashes he hp hs pre tag body =>
      exact .accept (.flash he hp hs) pre tag body (flash_body he hs rfl rfl)
    | disconnects pre tag body =>
      exact .accept .disconnect pre tag body (disconnect_body _ _ rfl rfl)
  | @resumes i c op next hc hr answer es f q h =>
    have hp : c.pending = true := by rw [Call.pending, hr]
    have rests := (hw c (List.mem_of_getElem? hc) hp).rests
    rw [hr] at rests
    obtain ⟨tags, ran⟩ := h.ran (rests answer t.floor (.refl _ _))
    rw [tags]
    exact .resumed hc hp ran
  | @reports i c loader payload compress g next hc hr written total es f h =>
    have hp : c.pending = true := by rw [Call.pending, hr]
    exact .reported hc hp ((hw c (List.mem_of_getElem? hc) hp).speaks hr g rfl) h.reports

end Traffic

end FlashStation
