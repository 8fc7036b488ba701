/-
# All calls do their duties

Connects, flashes and disconnects are followed from their beginning to their end. At the end a call
has nothing in hand, has released whatever it took apart, and gives back what it should: a
superseded one that it was superseded, or the trouble that it had seen before.

Key definitions: `ConnectEnds`, `FlashEnds`.
Key theorems: `Stance.attempts`, `Stance.flashes`, `promised`, `Traffic.Run.duty`,
`Traffic.Run.admits`, `Traffic.Run.closed`.
-/
import FlashStation.Proofs.Services

namespace FlashStation

open Station Program Event

/-- What a fault of a connect says of the trouble that it has seen. -/
def ConnectFault.trouble (fault : ConnectFault) : Option ConnectFault :=
  if fault = .superseded then none else some fault

/-- How a connect of generation `g` ends. -/
structure ConnectEnds (config : Config) (start : Floor) (g : Nat)
    (r : Except ConnectFault DeviceInfo) (x : List Event) (f : Floor) : Prop where
  tidy : Tidy config start x f
  tag : Event.tags x none = some g
  verdict : g ≠ f.desk.generation → r = .error ((troubles g x).getD .superseded)
  joined : Joined x → g = f.desk.generation ∧ ∃ info, r = .ok info

/-- How a flash of generation `g` ends. -/
structure FlashEnds (config : Config) (start : Floor) (g : Nat)
    (r : Except FlashFault FlashSummary) (x : List Event) (f : Floor) : Prop where
  tidy : Tidy config start x f
  tag : Event.tags x none = some g
  verdict : g ≠ f.desk.generation → r = .error .superseded
  unjoined : ¬ Joined x

namespace ConnectFault

theorem trouble_other {fault : ConnectFault} (h : fault ≠ .superseded) :
    fault.trouble = some fault := if_neg h

theorem trouble_getD (fault : ConnectFault) : fault.trouble.getD .superseded = fault := by
  by_cases h : fault = .superseded
  · subst h
    rfl
  · rw [trouble_other h]
    rfl

end ConnectFault

namespace Stance

section
variable {config : Config} {errand : Errand} {start f : Floor} {P : Posture} {x : List Event}
  {g : Nat} {loader : Loader}

theorem tidy (h : Stance config start P x f) (hh : P.hand = []) : Tidy config start x f :=
  ⟨h.hand.trans hh, h.settled, h.told⟩

/-! ### A connect -/

theorem cleansUp {previous : Option Session}
    (h : Stance config start
      (.accepted g .connecting (previous.map (·.loader)).toList) x f) :
    (cleanUp config previous).Conforms (Duties config errand start)
      (fun _ => Stance config start (.accepted g .connecting [])) x f := by
  cases previous with
  | none => exact h
  | some s =>
    refine h.logs (.ofList (by decide)) fun _ _ h => ?_
    refine (h.releases rfl rfl (.ofList (by decide))).bind fun _ _ _ h => ?_
    exact h.alone (within_quiet rfl nofun rfl rfl)

/-- A connect brings the ports that it was told of back to the closed state. -/
theorem reclaimsKnown (h : Stance config start (.accepted g .connecting []) x f) :
    (reclaimKnown config).Conforms (Duties config errand start)
      (fun _ => Stance config start (.accepted g .connecting [])) x f := by
  refine h.logs (.ofList (by decide)) fun _ _ h => ?_
  refine h.awaits rfl rfl (.quiet rfl rfl rfl) fun r x f h _ => ?_
  have entitled (ports : List Port) (hr : r = .ok ports) (port : Port) (hp : port ∈ ports) :
      Entitled x port := by
    subst hr
    exact .known (h.seen (.head _)) hp (h.looked rfl)
  replace h : Stance config start (.accepted g .connecting []) x f :=
    h.forgets (List.nil_subset _)
  cases r with
  | error fault => exact h.alone (within_trace (.append (.ofList (by decide)) _))
  | ok ports =>
    -- from here on the connect does not look at the generation, so it stays entitled to each port
    refine h.runs ?_ (entitled ports rfl)
    refine (within_trace (.append (.append (.ofList (by decide)) _) _)).bind fun _ => ?_
    refine .each fun port hp => ?_
    refine (within_trace (.append (.append (.ofList (by decide)) _) _)).bind fun _ => ?_
    refine (restorePort_within config (.ofList (by decide)) .error fun _ => ?_).mono
      fun op within => ?_
    · exact .append (.append (.append (.append (.ofList (by decide)) _) _) _) _
    · exact ⟨within.plain, within.still, fun _ ht => within.ports _ ht ▸ hp, within.harmless⟩

/-- What a connect knows after it has asked for a port. -/
def Requested (config : Config) (start : Floor) (g : Nat) (r : Except SelectFault Port)
    (x : List Event) (f : Floor) : Prop :=
  ∃ filters f', Stance config start { Posture.accepted g .connecting [] with
    trouble := match r with
      | .ok _ => none
      | .error fault => some (.ofSelect fault)
    looked := true
    seen := [.wakes (.requestPort filters) r f'] } x f

/-- A request for a port is answered. -/
theorem requests {trouble : Option ConnectFault} {now : Bool} {seen : List Event}
    {filters : List UsbFilter}
    (h : Stance config start { Posture.accepted g .connecting [] with
      trouble, looked := true, now, seen } x f)
    (duty : Duty config errand x f (.requestPort filters)) {α : Type}
    {Q : α → List Event → Floor → Prop} {k : Except SelectFault Port → Program Station α}
    (hk : ∀ r x f, Requested config start g r x f →
      answered x = some (.wakes (.requestPort filters) r f) →
      (k r).Conforms (Duties config errand start) Q x f) :
    ((perform (.requestPort filters)).bind k).Conforms (Duties config errand start) Q x f := by
  refine h.awaits rfl rfl duty fun r x f h last => hk r x f ⟨filters, f, ?_⟩ last
  have last : [.wakes (.requestPort filters) r f] ⊆ .wakes (.requestPort filters) r f :: seen :=
    List.cons_subset.mpr ⟨.head _, List.nil_subset _⟩
  cases r with
  | ok port => exact h.forgets last
  | error fault => exact h.forgets last

/-- A connect that has the station asks for a port. If it is told that no device passes the filters
it asks again, even if it was superseded meanwhile. -/
theorem asksForPort (h : Stance config start { Posture.accepted g .connecting [] with
      looked := true, now := true } x f) :
    (askForPort config).Conforms (Duties config errand start) (Requested config start g) x f := by
  have first : Duty config errand x f (.requestPort config.filters) :=
    .asks fun late => absurd late (h.not_overdue rfl)
  refine h.requests first fun r x f asked last => ?_
  split
  · split
    · exact asked
    · rename_i some
      obtain ⟨_, _, stance⟩ := asked
      have fallback : Duty config errand x f (.link (.log .trace
          "No devices matched the known USB IDs. Showing all serial ports as a fallback…")) := by
        refine .plain rfl nofun ?_
        rintro _ ⟨⟩
        exact .ofList (by decide)
      refine stance.tells fallback fun x' stance same => ?_
      -- what the connect was answered is still the last answer
      have again : Duty config errand x' f (.requestPort []) :=
        .asks fun _ => ⟨rfl, fun none => some (by rw [none]; rfl), f, same.trans last⟩
      exact requests (k := .done) stance again fun _ _ _ asked _ => asked
  · exact asked

/-- What a connect knows when it has no port, or has the loader that it made. -/
def Acquired (config : Config) (start : Floor) (g : Nat) (x : List Event) (f : Floor) :
    Except ConnectFault Loader → Prop
  | .error fault => Stance config start { Posture.accepted g .connecting [] with
      trouble := fault.trouble
      looked := true } x f
  | .ok loader => ∃ made : Event, made.Makes loader ∧
      Stance config start { Posture.accepted g .connecting [loader] with
        looked := true
        now := true
        seen := [made] } x f

theorem selectsPort (h : Stance config start { Posture.accepted g .connecting [] with
      looked := true, now := true } x f) :
    (Station.selectPort config).Conforms (Duties config errand start) (fun r x f =>
      match r with
      | .error fault => fault ≠ .superseded ∧
          Stance config start { Posture.accepted g .connecting [] with
            trouble := some fault
            looked := true } x f
      | .ok port => ∃ granted : Event, granted.Grants port ∧
          Stance config start { Posture.accepted g .connecting [] with
            looked := true
            seen := [granted] } x f) x f := by
  refine h.logs (.append (.append (.ofList (by decide)) _) _) fun _ _ h => ?_
  refine h.asksForPort.bind fun r _ _ asked => ?_
  obtain ⟨filters, f', stance⟩ := asked
  cases r with
  | ok port => exact ⟨_, .request filters f', stance⟩
  | error fault =>
    replace stance := stance.forgets (List.nil_subset _)
    cases fault with
    | cancelled => exact stance.logs (.ofList (by decide)) fun _ _ h => ⟨nofun, h⟩
    | noCompatibleDevice => exact ⟨nofun, stance⟩
    | port fault => exact ⟨nofun, stance⟩

/-- A connect brings the port that it was given back to the closed state. -/
theorem reclaims {port : Port} {granted : Event} {now : Bool} (hg : granted.Grants port)
    (h : Stance config start { Posture.accepted g .connecting [] with
      looked := true, now, seen := [granted] } x f) (hn : now = false)
    {context : String} (hc : Harmless context) (variant : Variant)
    {complaint : String → String} (hm : ∀ text, Harmless (complaint text)) :
    (restorePort config port context variant complaint).Conforms (Duties config errand start)
      (fun _ => Stance config start { Posture.accepted g .connecting [] with
        looked := true, seen := [granted] }) x f := by
  subst hn
  refine h.runs (restorePort_within config hc variant hm) ?_
  rintro _ rfl
  exact .granted (h.seen (.head _)) hg

theorem acquires (baud : UInt32) (he : errand.isConnect = true)
    (h : Stance config start (.accepted g .connecting []) x f) :
    (acquire config g baud).Conforms (Duties config errand start)
      (fun r x f => Acquired config start g x f r) x f := by
  refine h.reclaimsKnown.bind fun _ _ _ h => h.ifCurrent rfl (fun _ _ h => h) fun _ h => ?_
  refine h.selectsPort.bind fun r _ _ h => ?_
  cases r with
  | error fault =>
    show Stance config start { Posture.accepted g .connecting [] with
      trouble := fault.trouble, looked := true } _ _
    rw [ConnectFault.trouble_other h.1]
    exact h.2
  | ok port =>
    obtain ⟨granted, hg, h⟩ := h
    refine h.logs (.append (.ofList (by decide)) _) fun _ _ h => ?_
    refine h.performs (within_quiet rfl nofun rfl rfl) fun streams _ _ h => ?_
    refine h.logs (.append (.ofList (by decide)) _) fun _ _ h => ?_
    refine (reclaims hg h rfl (.ofList (by decide)) .error fun _ => ?_).bind fun _ _ _ h => ?_
    · exact .append (.ofList (by decide)) _
    refine h.ifCurrent rfl (fun _ _ h => ?_) fun _ h => ?_
    · refine (reclaims hg h rfl (.ofList (by decide)) .trace fun _ => ?_).bind fun _ _ _ h => ?_
      · exact .append (.ofList (by decide)) _
      · exact h.forgets (List.nil_subset _)
    · refine h.logs ?_ fun _ _ h => ?_
      · exact .append (.append (.append (.append (.ofList (by decide)) _) _) _) _
      · refine h.attaches he port baud config.romBaud fun loader made _ _ _ hm h => ⟨made, hm, ?_⟩
        exact h.forgets (List.cons_subset.mpr ⟨.head _, List.nil_subset _⟩)

/-- What a connect knows when it has asked the board about itself. -/
def Told (config : Config) (start : Floor) (g : Nat) (loader : Loader) (made : Event)
    (x : List Event) (f : Floor) : Except ConnectFault DeviceInfo → Prop
  | .error fault => Stance config start { Posture.accepted g .connecting [loader] with
      trouble := fault.trouble
      looked := true } x f
  | .ok _ => ∃ f', Stance config start { Posture.accepted g .connecting [loader] with
      looked := true
      now := true
      seen := [.wakes (.handshake loader) (.ok ()) f', made] } x f

theorem inventories {made : Event}
    (h : Stance config start { Posture.accepted g .connecting [loader] with
      looked := true, now := true, seen := [made] } x f) :
    (inventory g loader).Conforms (Duties config errand start)
      (fun r x f => Told config start g loader made x f r) x f := by
  refine h.awaits rfl rfl .shakes fun r x f h _ => ?_
  cases r with
  | error fault =>
    refine h.ifCurrent rfl (fun _ late h => ?_) fun _ h => ?_
    · -- the handshake failed when the connect was superseded already
      have h := h.recalls (if_neg late)
      exact h.forgets (List.nil_subset _)
    · have now : g = f.desk.generation := Option.some.inj (h.now rfl)
      have h := h.recalls (if_pos now.symm)
      exact h.waits.forgets (List.nil_subset _)
  | ok _ =>
    -- whatever comes now, the connect has seen no trouble
    refine h.ifCurrent rfl (fun _ _ h => h.forgets (List.nil_subset _)) fun _ h => ?_
    refine h.logs (.ofList (by decide)) fun _ _ h => ?_
    refine (h.waits.performs (loadStub_within loader)) fun _ _ _ h => ?_
    refine h.ifCurrent rfl (fun _ _ h => h.forgets (List.nil_subset _)) fun _ h => ?_
    refine h.waits.performs (within_quiet rfl nofun rfl rfl) fun chip _ _ h => ?_
    refine h.performs (askFlashId_within loader) fun flashId _ _ h => ?_
    refine h.ifCurrent rfl (fun _ _ h => h.forgets (List.nil_subset _)) fun _ h => ?_
    refine h.waits.performs (askFlashSize_within loader) fun flashSize _ _ h => ?_
    refine h.ifCurrent rfl (fun _ _ h => h.forgets (List.nil_subset _)) fun _ h => ?_
    exact ⟨f, h⟩

/-- How a connect ends that has not joined and has nothing in hand. -/
theorem connectEnds {fault : ConnectFault} (h : Stance config start P x f) (ht : P.tag = some g)
    (hh : P.hand = []) (hf : P.trouble = fault.trouble) :
    ConnectEnds config start g (.error fault) x f := by
  refine ⟨h.tidy hh, h.tag.trans ht, fun _ => ?_, fun joined => absurd joined h.unjoined⟩
  rw [h.trouble g (.inr ht), hf, fault.trouble_getD]

/-- A connect complains, and if it has the station it makes it idle. -/
theorem fails {fault : ConnectFault} (he : errand.isConnect = true)
    (h : Stance config start { Posture.accepted g .connecting [] with
      trouble := fault.trouble, looked := true } x f) :
    (failConnect g fault).Conforms (Duties config errand start)
      (fun _ => ConnectEnds config start g (.error fault)) x f := by
  unfold failConnect
  by_cases hs : fault = .superseded
  · rw [if_pos hs]
    refine (h.alone (within_trace ?_)).mono fun _ _ _ h => h.connectEnds rfl rfl rfl
    exact .append (.append (.ofList (by decide)) _) _
  · rw [if_neg hs]
    have complains : Duty config errand x f (.link (.log
        (if fault = .selectionCancelled then .info else .error)
        ("Connection error: " ++ fault.message))) := by
      refine .complains fun _ => ⟨he, g, fault, h.tag, ?_, rfl⟩
      rw [h.trouble g (.inr rfl)]
      exact ConnectFault.trouble_other hs
    refine h.tells complains fun _ h _ => h.looks rfl (fun _ _ h => h.connectEnds rfl rfl rfl) ?_
    intro x h
    obtain ⟨phase, free⟩ := h.mine .connecting rfl (h.now rfl)
    refine h.updates (fun _ _ => .takes rfl) rfl (fun _ => rfl) fun x h => ?_
    have busy : f.desk.phase ≠ .idle := by
      rw [phase]
      nofun
    refine h.turns busy (by rw [phase]; rfl) nofun ?_
    refine (h.rested rfl fun _ => by decide).connectEnds rfl ((hand_takes_nil rfl).trans ?_) rfl
    rw [free]
    rfl

/-- **A connect that was accepted does its duties.** -/
theorem attempts (baud : UInt32) (previous : Option Session) (he : errand.isConnect = true)
    (h : Stance config start (.accepted g .connecting (previous.map (·.loader)).toList) x f) :
    (attempt config g baud previous).Conforms (Duties config errand start)
      (ConnectEnds config start g) x f := by
  refine h.logs (.ofList (by decide)) fun _ _ h => ?_
  refine h.performs startupCheck_within fun _ _ _ h => ?_
  refine h.logs (.ofList (by decide)) fun _ _ h => ?_
  refine h.cleansUp.bind fun _ _ _ h => (h.acquires baud he).bind fun r _ _ h => ?_
  cases r with
  | error fault => exact (conforms_bind _ _).mpr (fails he h)
  | ok loader =>
    obtain ⟨made, hm, h⟩ := h
    refine h.inventories.bind fun r _ _ h => ?_
    cases r with
    | error fault =>
      refine (releases h rfl rfl (.ofList (by decide))).bind fun _ _ _ h => ?_
      exact (conforms_bind _ _).mpr (fails he h)
    | ok info =>
      obtain ⟨f', h⟩ := h
      refine h.logs (.append (.ofList (by decide)) _) fun x f h => ?_
      have now := h.now rfl
      obtain ⟨phase, free⟩ := h.mine .connecting rfl now
      refine h.updates (fun _ h => ?_) rfl (fun _ => rfl) fun x h => ?_
      · refine .stores rfl free (by rw [h.hand]; exact .head _) (.inl ⟨made, ?_, hm⟩)
        exact h.seen (.tail _ (.head _))
      have busy : f.desk.phase ≠ .connected := by
        rw [phase]
        nofun
      refine (conforms_bind _ _).mpr (h.turns busy (by rw [phase]; rfl) (fun _ _ => ?_) ?_)
      · exact ⟨h.tag.trans now, _, f', rfl, h.seen (.head _)⟩
      · let s : Session := ⟨loader, g, baud⟩
        have none : hands x = [] := h.hand.trans (hand_stores_alone (s := s) rfl free)
        refine ⟨⟨hands_turn.trans none, h.settled_turn, told_turn _⟩, ?_, ?_, ?_⟩
        · rw [tags_turn, h.tag]
          rfl
        · exact fun late => absurd (Option.some.inj now) late
        · exact fun _ => ⟨Option.some.inj now, info, rfl⟩

/-! ### A flash -/

theorem writesSource (source : Source) (chip : Option String)
    (h : Stance config start (.accepted g .flashing [loader]) x f) :
    (writeSource g loader source chip).Conforms (Duties config errand start)
      (fun _ => Stance config start { Posture.accepted g .flashing [loader] with
        looked := true }) x f := by
  refine h.performs (materialize_within source) fun r _ _ h => ?_
  cases r with
  | error fault => exact h.maybe
  | ok payload =>
    refine h.ifCurrent rfl (fun _ _ h => h) fun _ h => ?_
    refine h.logs (.ofList (by decide)) fun _ _ h => ?_
    refine h.waits.performs (within_quiet rfl nofun rfl rfl) fun r _ _ h => ?_
    cases r with
    | error fault => exact h
    | ok _ =>
      refine h.ifCurrent rfl (fun _ _ h => h) fun _ h => ?_
      refine h.logs (.ofList (by decide)) fun _ _ h => ?_
      refine h.waits.performs (logSummary_within chip payload) fun _ _ _ h => ?_
      exact h.performs (reset_within loader) fun _ _ _ h => h

theorem discardedText_harmless (outcome : Except FlashFault FlashSummary) :
    Harmless (discardedText outcome) := by
  cases outcome with
  | ok _ => exact (.ofList (by decide) : Harmless
      "Flash finished after the session was torn down; discarding result")
  | error fault => exact .append (.ofList (by decide)) _

/-- How a flash ends that has nothing in hand. -/
theorem flashEnds {r : Except FlashFault FlashSummary} (h : Stance config start P x f)
    (ht : P.tag = some g) (hh : P.hand = [])
    (hr : P.now = false → r = .error .superseded) : FlashEnds config start g r x f := by
  refine ⟨h.tidy hh, h.tag.trans ht, fun late => hr ?_, h.unjoined⟩
  cases hn : P.now with
  | false => rfl
  | true => exact absurd (Option.some.inj (ht.symm.trans (h.now hn))) late

/-- A flash that has the station puts the session back. -/
theorem putsBack {session : Session} (he : errand.isFlash = true)
    (h : Stance config start { Posture.accepted g .flashing [session.loader] with
      looked := true, now := true } x f) {u : Desk → Desk}
    (hs : (u f.desk).session = some session) (hp : (u f.desk).phase = f.desk.phase)
    (hg : (u f.desk).generation = f.desk.generation) {α : Type}
    {Q : α → List Event → Floor → Prop} {k : Unit → Program Station α}
    (hk : ∀ x f, Stance config start { Posture.accepted g .flashing [] with
        phase := none, looked := true, now := true } x f →
      (k ()).Conforms (Duties config errand start) Q x f) :
    ((update u).bind fun _ => (setPhase .connected).bind k).Conforms
      (Duties config errand start) Q x f := by
  obtain ⟨phase, free⟩ := h.mine .flashing rfl (h.now rfl)
  have flashing : (u f.desk).phase = .flashing := hp.trans phase
  refine h.updates (fun _ h => ?_) hp (fun _ => hg) fun x h => ?_
  · exact .stores hs free (by rw [h.hand]; exact .head _) (.inr he)
  have busy : (u f.desk).phase ≠ .connected := by
    rw [flashing]
    nofun
  have mine : (u f.desk).phase = .connecting → Phase.connected ≠ .connected := by
    rw [flashing]
    nofun
  refine (conforms_bind _ _).mpr (h.turns busy (by rw [flashing]; rfl) ?_ (hk _ _ ?_))
  · exact fun connecting _ => absurd rfl (mine connecting)
  · exact (h.rested rfl mine).holding (hand_stores_alone hs free)

theorem finishes (session : Session) (outcome : Except FlashFault FlashSummary)
    (he : errand.isFlash = true)
    (h : Stance config start { Posture.accepted g .flashing [session.loader] with
      looked := true } x f) :
    (finishFlash config g session outcome).Conforms (Duties config errand start)
      (FlashEnds config start g) x f := by
  refine h.ifCurrent rfl (fun _ _ h => ?_) fun x h => ?_
  · refine h.logs (discardedText_harmless outcome) fun _ _ h => ?_
    refine (releases h rfl rfl (.ofList (by decide))).bind fun _ _ _ h => ?_
    exact h.flashEnds rfl rfl fun _ => rfl
  · cases outcome with
    | ok summary =>
      refine h.putsBack he rfl rfl rfl fun _ _ h => ?_
      refine h.performs (within_quiet rfl (fun _ => rfl) rfl rfl) fun _ _ _ h => ?_
      exact h.flashEnds rfl rfl fun hn => (by cases hn)
    | error fault =>
      have complains : Duty config errand x f
          (.link (.log .error s!"Flash failed: {fault.message}")) :=
        .complains fun late => absurd late (h.not_overdue rfl)
      refine h.tells complains fun _ h _ => ?_
      exact h.putsBack he rfl rfl rfl fun _ _ h => h.flashEnds rfl rfl fun hn => (by cases hn)

/-- **A flash that was accepted does its duties.** -/
theorem flashes (session : Session) (source : Source) (chip : Option String)
    (he : errand.isFlash = true)
    (h : Stance config start (.accepted g .flashing [session.loader]) x f) :
    (flashWith config g session source chip).Conforms (Duties config errand start)
      (FlashEnds config start g) x f := by
  refine h.performs (within_quiet rfl nofun rfl rfl) fun _ _ _ h => ?_
  refine h.logs (.ofList (by decide)) fun _ _ h => ?_
  exact (h.writesSource source chip).bind fun outcome _ _ h => finishes session outcome he h

/-! ### Refusals and disconnects -/

/-- How a call ends that was never accepted, or is a disconnect. -/
theorem closes {r : Result} (h : Stance config start P x f) (ht : P.tag = none)
    (hh : P.hand = []) : Closed config errand start r x f := by
  refine ⟨h.tidy hh, fun g hg => ?_, fun joined => absurd joined h.unjoined⟩
  rw [h.tag, ht] at hg
  cases hg

/-- A refusal leaves its text in the record. -/
theorem refuses (h : Stance config start .new x f) {text : String} {α : Type} {a : α}
    {Q : α → List Event → Floor → Prop} (hQ : ∀ x f, Stance config start .new x f → Q a x f) :
    ((setLastError text).bind fun _ => .done a).Conforms (Duties config errand start) Q x f :=
  h.updates (fun _ _ => .keeps rfl) rfl nofun fun _ h => hQ _ _ (h.holding (hand_keeps rfl []))

theorem rejects (phase : Phase) (h : Stance config start .new x f) {α : Type}
    {Q : α → List Event → Floor → Prop} {k : FlashFault → Program Station α}
    (hk : ∀ fault x f, Stance config start .new x f →
      (k fault).Conforms (Duties config errand start) Q x f) :
    ((rejectFlash phase).bind k).Conforms (Duties config errand start) Q x f := by
  refine (conforms_bind _ _).mpr (h.logs ?_ fun _ _ h => ?_)
  · exact .append (.append (.ofList (by decide)) _) _
  · exact h.refuses fun _ _ h => hk _ _ _ h

theorem connects (preferred : Option UInt32) (he : errand.isConnect = true)
    (h : Stance config start .new x f) :
    (Station.connect config preferred).Conforms (Duties config errand start)
      (fun r x f => (∀ r', Closed config errand start r' x f) ∨
        ∃ g, ConnectEnds config start g r x f) x f := by
  have refused (x : List Event) (f : Floor) (h : Stance config start .new x f) (r : Result) :
      Closed config errand start r x f := h.closes rfl rfl
  refine h.performs (within_quiet rfl nofun rfl rfl) fun supported x f h => ?_
  cases supported with
  | false =>
    refine h.logs (.ofList (by decide)) fun _ _ h => ?_
    exact h.refuses fun _ _ h => .inl (refused _ _ h)
  | true =>
    refine h.reads fun x h => ?_
    by_cases hb : f.desk.phase = .connecting ∨ f.desk.phase = .flashing
    · simp only [if_pos hb]
      refine h.logs (.append (.ofList (by decide)) _) fun _ _ h => .inl (refused _ _ h)
    · simp only [if_neg hb]
      have takes : Duty config errand x f (.write { f.desk with
          generation := f.desk.generation + 1
          lastError := none
          progress := 0
          info := none
          session := none }) := .takes rfl
      refine h.writes takes rfl nofun fun x h => ?_
      have free : f.desk.phase = .idle ∨ f.desk.phase = .connected := by
        cases hp : f.desk.phase <;> simp [hp] at hb ⊢
      have idle : f.desk.phase ≠ .connecting := fun e => hb (.inl e)
      have leads : f.desk.phase.leads .connecting = true := by
        rcases free with hp | hp <;> rw [hp] <;> rfl
      refine (conforms_bind _ _).mpr (h.turns idle leads (fun e => absurd e idle) ?_)
      refine (attempts _ f.desk.session he ?_).mono fun _ _ _ h => .inr ⟨_, h⟩
      exact (h.accepted rfl rfl rfl).holding (hand_takes_nil rfl)

/-- How the flash of a source ends: it was refused, or as a flash ends that was accepted. -/
def FlashOver (config : Config) (errand : Errand) (start : Floor)
    (r : Except FlashFault FlashSummary) (x : List Event) (f : Floor) : Prop :=
  (∀ r', Closed config errand start r' x f) ∨ ∃ g, FlashEnds config start g r x f

theorem flashesSource (source : Source) (he : errand.isFlash = true)
    (h : Stance config start .new x f) :
    (Station.flash config source).Conforms (Duties config errand start)
      (FlashOver config errand start) x f := by
  have refused (phase : Phase) (x : List Event) (h : Stance config start .new x f) :
      ((rejectFlash phase).bind fun fault => .done (.error fault)).Conforms
        (Duties config errand start) (FlashOver config errand start) x f :=
    h.rejects phase fun _ _ _ h => .inl fun _ => h.closes rfl rfl
  refine h.reads fun x h => ?_
  by_cases hp : f.desk.phase = .connected
  · cases hs : f.desk.session with
    | none =>
      simp only [if_neg (not_not_intro hp)]
      exact refused _ x h
    | some session =>
      simp only [if_neg (not_not_intro hp)]
      have takes : Duty config errand x f (.write { f.desk with
          session := none, lastError := none, progress := 0 }) := .takes rfl
      refine h.writes takes rfl nofun fun x h => ?_
      have idle : f.desk.phase ≠ .flashing := by
        rw [hp]
        nofun
      have mine : f.desk.phase ≠ .connecting := by
        rw [hp]
        nofun
      refine (conforms_bind _ _).mpr (h.turns idle (by rw [hp]; rfl) (fun e => absurd e mine) ?_)
      refine (flashes session source _ he ?_).mono fun _ _ _ h => .inr ⟨_, h⟩
      refine (h.accepted rfl rfl rfl).holding ((hand_takes_nil rfl).trans ?_)
      rw [hs]
      rfl
  · simp only [if_pos hp]
    exact refused _ x h

end

end Stance

/-! ### The calls -/

section
variable {config : Config} {start f : Floor} {x : List Event} {g : Nat}

theorem ConnectEnds.closed {r : Except ConnectFault DeviceInfo} (preferred : Option UInt32)
    (h : ConnectEnds config start g r x f) :
    Closed config (.connect preferred) start (.connected r) x f := by
  refine ⟨h.tidy, fun g' hg late => ?_, fun joined => ?_⟩
  · rw [h.tag] at hg
    cases hg
    exact congrArg _ (h.verdict late)
  · obtain ⟨now, info, hr⟩ := h.joined joined
    exact ⟨rfl, h.tag.trans (congrArg _ now), info, congrArg _ hr⟩

theorem Stance.FlashOver.closed {errand : Errand} {r : Except FlashFault FlashSummary}
    (wrap : Except FlashFault FlashSummary → Result)
    (hw : ∀ trouble, errand.verdict trouble = wrap (.error .superseded))
    (h : Stance.FlashOver config errand start r x f) :
    Closed config errand start (wrap r) x f := by
  rcases h with refused | ⟨g, h⟩
  · exact refused _
  · refine ⟨h.tidy, fun g' hg late => ?_, fun joined => absurd joined h.unjoined⟩
    rw [h.tag] at hg
    cases hg
    rw [hw, h.verdict late]

/-- A call that was just made. -/
theorem Stance.new (config : Config) (start : Floor) : Stance config start .new [] start where
  tag := rfl
  hand := rfl
  told := rfl
  trouble _ _ := rfl
  mine := nofun
  unjoined := by
    rintro ⟨_, h⟩
    cases h
  looked _ := List.forall_mem_nil _
  now := nofun
  seen := List.nil_subset _
  settled := List.forall_mem_nil _

theorem Stance.flashesChoice (choice : Choice) (h : Stance config start .new x f) :
    (Station.flashChoice config choice).Conforms (Duties config (.flashChoice choice) start)
      (fun r => Closed config (.flashChoice choice) start (.flashedChoice r)) x f := by
  refine h.reads fun x h => ?_
  by_cases hp : f.desk.phase = .connected
  · simp only [if_neg (not_not_intro hp)]
    split
    · rename_i fault _
      -- nobody was accepted, so there is no failure to account for
      have complains : Duty config (.flashChoice choice) x f
          (.link (.log .error s!"Flash failed: {fault.message}")) := by
        refine .complains fun ⟨g, ht, _⟩ => ?_
        rw [h.tag] at ht
        cases ht
      exact h.tells complains fun _ h _ => h.refuses fun _ _ h => h.closes rfl rfl
    · rename_i source _
      refine (h.flashesSource source rfl).bind fun r x f ended => ?_
      have closed := ended.closed (fun r => .flashedChoice (r.mapError .flash)) fun _ => rfl
      cases r with
      | ok summary => exact closed
      | error fault => exact closed
  · simp only [if_pos hp]
    exact h.rejects _ fun _ _ _ h => h.closes rfl rfl

/-- A disconnect releases the session that it took from the record. -/
theorem Stance.letsGo {errand : Errand} (session : Option Session) (phase : Phase)
    (h : Stance config start { Posture.new with
      hand := (session.map (·.loader)).toList } x f) :
    (letGo config session phase).Conforms (Duties config errand start)
      (fun _ => Stance config start .new) x f := by
  cases session with
  | none => cases phase <;> exact h.alone (within_trace (.ofList (by decide)))
  | some s =>
    refine (releases h rfl rfl (.ofList (by decide))).bind fun _ _ _ h => ?_
    exact h.alone (within_log (.ofList (by decide)))

theorem Stance.disconnects (h : Stance config start .new x f) :
    (Station.disconnect config).Conforms (Duties config .disconnect start)
      (fun _ => Closed config .disconnect start .disconnected) x f := by
  refine h.logs (.ofList (by decide)) fun x f h => h.reads fun x h => ?_
  have takes : Duty config .disconnect x f (.write { f.desk with
      generation := f.desk.generation + 1, info := none, session := none }) := .takes rfl
  refine h.writes takes rfl nofun fun x h => ?_
  have letsGo (x : List Event) (f' : Floor)
      (h : Stance config start { Posture.new with
        hand := (f.desk.session.map (·.loader)).toList } x f') :
      (letGo config f.desk.session f.desk.phase).Conforms (Duties config .disconnect start)
        (fun _ => Closed config .disconnect start .disconnected) x f' :=
    (h.letsGo _ _).mono fun _ _ _ h => h.closes rfl rfl
  by_cases hp : f.desk.phase = .idle
  · refine (conforms_bind _ _).mpr (h.stays hp fun x h => letsGo _ _ ?_)
    exact h.holding (hand_takes_nil rfl)
  · have leads : f.desk.phase.leads .idle = true := by
      cases hp' : f.desk.phase <;> first | rfl | exact absurd hp' hp
    refine (conforms_bind _ _).mpr (h.turns hp leads nofun (letsGo _ _ ?_))
    exact (h.rested rfl fun _ => by decide).holding (hand_takes_nil rfl)

/-- **The programs of all calls conform to their duties.** -/
theorem promised (config : Config) :
    Traffic.Promised config (Dutiful config) (Closed config) := by
  intro errand start
  have h := Stance.new config start
  cases errand with
  | connect preferred =>
    refine (h.connects preferred rfl).bind fun r x f ended => ?_
    rcases ended with refused | ⟨g, h⟩
    · exact refused _
    · exact h.closed preferred
  | flash source =>
    refine (h.flashesSource source rfl).bind fun r x f ended => ?_
    exact ended.closed .flashed fun _ => rfl
  | flashChoice choice => exact (h.flashesChoice choice).bind fun _ _ _ closed => closed
  | disconnect => exact h.disconnects.bind fun _ _ _ closed => closed

end

/-! ### What each step of a run does -/

/-- A loader that reports does no more than any call may do. -/
theorem Reports.duty {config : Config} {errand : Errand} {f f' : Floor} {g : Nat}
    {written total : UInt64} {es x : List Event} (h : Reports f g written total es f') {e : Event}
    (he : e ∈ es) {op : StationOp} (ho : e.performed = some op) :
    Duty config errand x e.floor op := by
  cases h with
  | late =>
    rw [List.mem_singleton] at he
    subst he
    cases ho
    exact .looks
  | counts _ f' hf =>
    simp only [List.mem_cons, List.not_mem_nil, or_false] at he
    rcases he with rfl | rfl | rfl | rfl <;> cases ho
    · exact .looks
    · exact .reads
    · exact .keeps (by rw [hf]; rfl)
    · exact .quiet rfl rfl rfl

namespace Traffic

variable {config : Config} {t t' : Traffic} {log : List Deed} {i : Nat} {c : Call}
  {es : List Event}

/-- **Whatever is done in a call is done by duty**, in its last step and before. -/
theorem Run.duty (run : Run config .new log t) (hs : Step config t i es t')
    (hc : t'.calls[i]? = some c) {pre post : List Event} {e : Event}
    (he : diary log i ++ es = pre ++ e :: post) {op : StationOp} (ho : e.performed = some op) :
    Duty config c.errand pre e.floor op := by
  have kept := run.kept (promised config)
  cases hr : Deed.report ⟨i, es, t.floor, t'.floor⟩ with
  | true =>
    obtain ⟨same, _, _, _, reports⟩ := hs.reported hr
    rcases List.append_eq_append_iff.mp he with ⟨mid, _, rfl⟩ | ⟨mid, hd, hm⟩
    · exact reports.duty (by simp) ho
    · cases mid with
      | nil => exact reports.duty (List.nil_append es ▸ hm ▸ .head _) ho
      | cons e' mid =>
        cases hm
        have admits := (kept.calls (same ▸ hc)).admits
        rw [hd] at admits
        exact (Conduct.admits_at admits ho).duty
  | false =>
    obtain ⟨_, admits, _⟩ := kept.own (promised config) hs hc hr
    rw [he] at admits
    exact (Conduct.admits_at admits ho).duty

/-- Whatever is done in a step is done by duty. -/
theorem Run.duty_now (run : Run config .new log t) (hs : Step config t i es t')
    (hc : t'.calls[i]? = some c) {pre post : List Event} {e : Event} (he : es = pre ++ e :: post)
    {op : StationOp} (ho : e.performed = some op) :
    Duty config c.errand (diary log i ++ pre) e.floor op := by
  have split : diary log i ++ es = diary log i ++ pre ++ e :: post := by
    rw [he, List.append_assoc]
  exact run.duty hs hc split ho

/-- A call does its duties in a step that is no report. -/
theorem Run.admits (run : Run config .new log t) (hs : Step config t i es t')
    (hc : t'.calls[i]? = some c) (hr : Deed.report ⟨i, es, t.floor, t'.floor⟩ = false) :
    (Duties config c.errand c.start).Admits (diary log i) es := by
  obtain ⟨_, admits, _⟩ := (run.kept (promised config)).own (promised config) hs hc hr
  exact (Conduct.ofDiary_append.mp admits).2

/-- A call that is over at the end of a step has ended as it should. -/
theorem Run.closed (run : Run config .new log t) (hs : Step config t i es t')
    (hc : t'.calls[i]? = some c) {r : Result} (ended : c.rest = .done r) :
    Event.tags (diary log i ++ es) none = c.tag ∧
      Closed config c.errand c.start r (diary log i ++ es) t'.floor := by
  cases hr : Deed.report ⟨i, es, t.floor, t'.floor⟩ with
  | true =>
    obtain ⟨same, _⟩ := hs.reported hr
    have waits := hs.pending (same ▸ hc)
    rw [Call.pending, ended] at waits
    cases waits
  | false =>
    obtain ⟨tag, _, stands⟩ := (run.kept (promised config)).own (promised config) hs hc hr
    rw [ended] at stands
    exact ⟨tag, stands⟩

end Traffic

end FlashStation
