/-
# Who has the station

A call owns the station while it is under way and carries the record's generation. The traffic is
in order if the record fits together, each call that is under way fits what the record says, at
most one of them owns the station, and one does whenever the station is connecting or flashing. A
step keeps the order, whoever takes it; so all that a new station can come to is in order.

A call that takes a step has its turn: first it takes its place among the calls, on the floor on
which its body goes on, and then the body runs.

Key definitions: `Desk.Coherent`, `Floor.Sound`, `Call.Owns`, `Call.Fits`, `Traffic.Orderly`,
`Traffic.Turn`.
Key theorems: `Ran.outcome`, `Traffic.Orderly.step`, `Traffic.Reach.orderly`, `Traffic.Reach.move`.
-/
import FlashStation.Proofs.Moves

namespace FlashStation

/-- Whether a connect or a flash has the station. -/
def Phase.busy : Phase → Bool
  | .connecting | .flashing => true
  | .idle | .connected => false

/-- The record fits together: there is a session exactly when the station is connected, the board
is known exactly when it is connected or flashing, and a session has the record's generation. -/
structure Desk.Coherent (d : Desk) : Prop where
  session : d.session.isSome = true ↔ d.phase = .connected
  info : d.info.isSome = true ↔ d.phase = .connected ∨ d.phase = .flashing
  generation : ∀ s, d.session = some s → s.generation = d.generation

/-- The record fits together, and the session's loader was made, at the session's baud rate. -/
structure Floor.Sound (f : Floor) : Prop where
  coherent : f.desk.Coherent
  attached : ∀ s, f.desk.session = some s → s.loader ∈ f.loaders ∧ s.loader.baud = s.baud

namespace Call

/-- Whether a call has the station: it is under way and carries the record's generation. -/
def Owns (c : Call) (d : Desk) : Prop := c.pending = true ∧ c.tag = some d.generation

/-- What the record and a call under way say of each other. -/
inductive Fits (f : Floor) (c : Call) : Prop where
  | connect {g : Nat} (he : c.errand.isConnect = true) (ht : c.tag = some g)
      (hg : g ≤ f.desk.generation) (hp : g = f.desk.generation → f.desk.phase = .connecting)
  | flash {g : Nat} {s : Session} (he : c.errand.isFlash = true) (ht : c.tag = some g)
      (hg : g ≤ f.desk.generation) (hp : g = f.desk.generation → f.desk.phase = .flashing)
      (hs : c.start.desk.session = some s) (hsg : s.generation = g)
      (hl : s.loader ∈ f.loaders) (hb : s.loader.baud = s.baud)
  | disconnect (he : c.errand = .disconnect) (ht : c.tag = none)

/-- Whether a call counted the record's generation up: a disconnect, and a connect that was
accepted. -/
def turnover (c : Call) : Bool :=
  match c.errand with
  | .connect _ => c.tag.isSome
  | .flash _ | .flashChoice _ => false
  | .disconnect => true

end Call

namespace Traffic

/-- How often a call counted the record's generation up. -/
def turnovers (t : Traffic) : Nat := t.calls.countP Call.turnover

/-- The calls under way fit the record and each other. -/
structure Orderly (config : Config) (t : Traffic) : Prop where
  sound : t.floor.Sound
  fits : ∀ c ∈ t.calls, c.pending = true → c.Fits t.floor
  waits : ∀ c ∈ t.calls, c.pending = true → c.Waits config t.floor
  alone : ∀ {i j : Nat} {c d : Call}, t.calls[i]? = some c → t.calls[j]? = some d →
    c.Owns t.floor.desk → d.Owns t.floor.desk → i = j
  owned : t.floor.desk.phase.busy = true →
    ∃ (i : Nat) (c : Call), t.calls[i]? = some c ∧ c.Owns t.floor.desk
  counted : t.floor.desk.generation = t.turnovers

/-- The call `c` has the place `i` now, and the floor is `f`; its body is about to run. -/
structure Turn (t : Traffic) (i : Nat) (c : Call) (f : Floor) : Prop where
  sound : f.Sound
  fits : c.Fits f
  later : t.floor.desk.generation ≤ f.desk.generation
  drift : ∀ j d, j ≠ i → t.calls[j]? = some d → d.pending = true → Drift d.tag t.floor f
  alone : c.tag = some f.desk.generation → ∀ j d, j ≠ i → t.calls[j]? = some d → ¬ d.Owns f.desk
  owned : f.desk.phase.busy = true → c.tag = some f.desk.generation ∨
    ∃ j d, j ≠ i ∧ t.calls[j]? = some d ∧ d.Owns f.desk

/-- The call `c` has the place `i` now, and the floor is `f`; all calls wait or are over. -/
structure Rest (config : Config) (t : Traffic) (i : Nat) (c : Call) (f : Floor) : Prop where
  sound : f.Sound
  fits : c.pending = true → c.Fits f
  waits : c.pending = true → c.Waits config f
  later : t.floor.desk.generation ≤ f.desk.generation
  drift : ∀ j d, j ≠ i → t.calls[j]? = some d → d.pending = true → Drift d.tag t.floor f
  alone : c.Owns f.desk → ∀ j d, j ≠ i → t.calls[j]? = some d → ¬ d.Owns f.desk
  owned : f.desk.phase.busy = true → c.Owns f.desk ∨
    ∃ j d, j ≠ i ∧ t.calls[j]? = some d ∧ d.Owns f.desk

end Traffic

section
variable {config : Config} {c : Call} {f f' : Floor} {es : List Event} {d : Desk}

/-! ### The record -/

theorem Desk.Coherent.talk (h : d.Coherent) (progress : Nat) (lastError : Option String) :
    { d with progress, lastError }.Coherent := ⟨h.session, h.info, h.generation⟩

theorem Desk.Coherent.connecting : d.connecting.Coherent := by
  constructor <;> simp [Desk.connecting]

theorem Desk.Coherent.tornDown : d.tornDown.Coherent := by
  constructor <;> simp [Desk.tornDown]

theorem Desk.Coherent.flashing (h : d.Coherent) (hp : d.phase = .connected) :
    d.flashing.Coherent := by
  refine ⟨by simp [Desk.flashing], ?_, by simp [Desk.flashing]⟩
  simpa [Desk.flashing] using h.info.mpr (.inl hp)

theorem Desk.Coherent.failed {message : String} : (d.failed message).Coherent := by
  constructor <;> simp [Desk.failed]

theorem Desk.Coherent.joined {s : Session} {info : DeviceInfo} (hs : s.generation = d.generation) :
    (d.joined s info).Coherent := by
  constructor <;> simp [Desk.joined, hs]

/-- A flash puts back a session of the record's generation. -/
theorem Desk.Coherent.reconnected {s : Session} {progress : Nat} {lastError : Option String}
    (h : d.Coherent) (hp : d.phase = .flashing) (hs : s.generation = d.generation) :
    { d with phase := .connected, session := some s, progress, lastError }.Coherent := by
  refine ⟨by simp, ?_, by simp [hs]⟩
  simpa using h.info.mpr (.inr hp)

theorem Floor.Sound.grow (h : f.Sound) (hd : f'.desk = f.desk) (hl : f.loaders ⊆ f'.loaders) :
    f'.Sound := by
  constructor
  · rw [hd]
    exact h.coherent
  · rw [hd]
    exact fun s hs => (h.attached s hs).imp_left fun h => hl h

theorem Floor.Sound.empty (h : f.desk.Coherent) (hs : f.desk.session = none) : f.Sound :=
  ⟨h, fun s h => by rw [hs] at h; cases h⟩

/-! ### A call and the record -/

theorem Drift.grow (tag : Option Nat) (hd : f'.desk = f.desk) (hl : f.loaders ⊆ f'.loaders) :
    Drift tag f f' :=
  ⟨Nat.le_of_eq (by rw [hd]), hl, fun _ => by rw [hd]⟩

theorem Call.Fits.bound (h : c.Fits f) {g : Nat} (ht : c.tag = some g) : g ≤ f.desk.generation := by
  cases h with
  | connect _ ht' hg | flash _ ht' hg =>
    rw [ht'] at ht
    cases ht
    exact hg
  | disconnect _ ht' =>
    rw [ht'] at ht
    cases ht

/-- A report changes the progress only. -/
theorem Reports.drift {g : Nat} {written total : UInt64} (tag : Option Nat)
    (h : Reports f g written total es f') : Drift tag f f' := by
  cases h with
  | late => exact .refl _ _
  | counts _ _ hf =>
    subst hf
    exact ⟨Nat.le_refl _, fun _ h => h, fun _ => rfl⟩

/-- A call that has the station is what the phase says. -/
theorem Call.Fits.busy (h : c.Fits f) (ht : c.tag = some f.desk.generation) :
    (c.errand.isConnect = true ∧ f.desk.phase = .connecting) ∨
      (c.errand.isFlash = true ∧ f.desk.phase = .flashing) := by
  cases h with
  | connect he ht' _ hp =>
    rw [ht'] at ht
    exact .inl ⟨he, hp (Option.some.inj ht)⟩
  | flash he ht' _ hp =>
    rw [ht'] at ht
    exact .inr ⟨he, hp (Option.some.inj ht)⟩
  | disconnect _ ht' =>
    rw [ht'] at ht
    cases ht

/-- A flash that has the station is flashing. -/
theorem Call.Fits.flashing (h : c.Fits f) (he : c.errand.isFlash = true)
    (ht : c.tag = some f.desk.generation) : f.desk.phase = .flashing := by
  rcases h.busy ht with ⟨he', _⟩ | ⟨_, hp⟩
  · rw [Errand.isFlash_not_connect he] at he'
    cases he'
  · exact hp

theorem Call.Fits.drift (h : c.Fits f) (hd : Drift c.tag f f') : c.Fits f' := by
  have same {g : Nat} {phase : Phase} (ht : c.tag = some g)
      (hp : g = f.desk.generation → f.desk.phase = phase) (hg : g = f'.desk.generation) :
      f'.desk.phase = phase := by
    have h := hd.same (hg ▸ ht)
    rw [h] at hg ⊢
    exact hp hg
  cases h with
  | connect he ht hg hp => exact .connect he ht (Nat.le_trans hg hd.generation) (same ht hp)
  | flash he ht hg hp hs hsg hl hb =>
    exact .flash he ht (Nat.le_trans hg hd.generation) (same ht hp) hs hsg (hd.loaders hl) hb
  | disconnect he ht => exact .disconnect he ht

/-- A flash under way knows the session it took. -/
theorem Call.Fits.taken (h : c.Fits f) (he : c.errand.isFlash = true) {s : Session}
    (hs : c.start.desk.session = some s) {g : Nat} (ht : c.tag = some g) :
    s.generation = g ∧ s.loader ∈ f.loaders ∧ s.loader.baud = s.baud := by
  cases h with
  | connect he' =>
    rw [Errand.isFlash_not_connect he] at he'
    cases he'
  | flash _ ht' _ _ hs' hsg hl hb =>
    rw [hs'] at hs
    rw [ht'] at ht
    cases hs
    cases ht
    exact ⟨hsg, hl, hb⟩
  | disconnect he' => rw [he'] at he; cases he

/-- A flash that has the station puts back the session it took. -/
theorem Floor.Sound.reconnected {s : Session} {progress : Nat} {lastError : Option String}
    (h : f.Sound) (hp : f.desk.phase = .flashing) (hs : s.generation = f.desk.generation)
    (hl : s.loader ∈ f'.loaders) (hb : s.loader.baud = s.baud)
    (hf : f'.desk = { f.desk with phase := .connected, session := some s, progress, lastError }) :
    f'.Sound := by
  refine ⟨hf ▸ h.coherent.reconnected hp hs, fun s' hs' => ?_⟩
  rw [hf] at hs'
  cases hs'
  exact ⟨hl, hb⟩

/-- **What a stretch of a body leaves.** Either the record is as it was, and a call that has the
station has it still; or the call is over, and the station is idle or connected. -/
theorem Ran.outcome (ran : Ran config c f es f') (hs : f.Sound) (hc : c.Fits f) :
    (f'.desk = f.desk ∧ (c.pending = false → c.tag ≠ some f.desk.generation)) ∨
      (c.pending = false ∧ c.tag = some f.desk.generation ∧
        f'.desk.generation = f.desk.generation ∧ f'.desk.phase.busy = false ∧ f'.Sound) := by
  cases hp : c.pending with
  | true => exact .inl ⟨(ran.stays hp).1, nofun⟩
  | false =>
    have ends := ran.ends hp
    unfold Call.Ends at ends
    generalize hce : c.errand = errand at ends
    cases ends with
    | connect ht h =>
      cases h with
      | superseded hg hf =>
        exact .inl ⟨hf, fun _ e => Nat.ne_of_lt hg (Option.some.inj (ht.symm.trans e))⟩
      | failed hg hf =>
        refine .inr ⟨rfl, by rw [ht, hg], by rw [hf]; rfl, by rw [hf]; rfl, ?_⟩
        exact .empty (hf ▸ .failed) (by rw [hf]; rfl)
      | @joined loader info hg hl hb hf =>
        refine .inr ⟨rfl, by rw [ht, hg], by rw [hf]; rfl, by rw [hf]; rfl, ?_⟩
        refine ⟨hf ▸ .joined hg.symm, fun s hs => ?_⟩
        rw [hf] at hs
        cases hs
        exact ⟨hl, hb⟩
    | @flash _ g s he ht hst h =>
      obtain ⟨hsg, hl, hb⟩ := hc.taken (hce ▸ he) hst ht
      have flashing (hg : f.desk.generation = g) : f.desk.phase = .flashing :=
        hc.flashing (hce ▸ he) (hg ▸ ht)
      cases h with
      | superseded hg hf =>
        exact .inl ⟨hf, fun _ e => Nat.ne_of_lt hg (Option.some.inj (ht.symm.trans e))⟩
      | flashed hg hf =>
        refine .inr ⟨rfl, by rw [ht, hg], by rw [hf]; rfl, by rw [hf]; rfl, ?_⟩
        exact hs.reconnected (flashing hg) (hsg.trans hg.symm) (ran.loaders hl) hb hf
      | failed hg message hf =>
        refine .inr ⟨rfl, by rw [ht, hg], by rw [hf]; rfl, by rw [hf]; rfl, ?_⟩
        exact hs.reconnected (flashing hg) (hsg.trans hg.symm) (ran.loaders hl) hb hf
    | disconnect ht h => exact .inl ⟨h, fun _ e => by rw [ht] at e; cases e⟩

/-- A stretch of a body does not count the generation up. -/
theorem Ran.generation (ran : Ran config c f es f') (hs : f.Sound) (hc : c.Fits f) :
    f'.desk.generation = f.desk.generation := by
  rcases ran.outcome hs hc with ⟨hd, _⟩ | ⟨_, _, hg, _⟩
  · rw [hd]
  · exact hg

/-- While a body runs and the record is free, the record is sound, and the session's loader was
made before. -/
theorem Ran.free (ran : Ran config c f es f') (hs : f.Sound) (hc : c.Fits f) :
    ∀ e ∈ es, e.free = true → (Floor.mk e.floor.desk f.loaders).Sound ∧
      e.floor.desk.generation = f.desk.generation := by
  intro e he hfree
  obtain ⟨op, ho⟩ := ran.performed e he
  have off : op.onRecord = false := by
    rw [Event.free_performed ho] at hfree
    simpa using hfree
  rcases (ran.proper e he op ho).free off with same | ⟨_, isFlash, s, found, closes⟩
  · rw [same]
    exact ⟨hs, rfl⟩
  · by_cases late : Late c.tag f.desk
    · rw [(ran.idle late).2 e he]
      exact ⟨hs, rfl⟩
    · obtain ⟨g, ht, hg⟩ : ∃ g, c.tag = some g ∧ ¬ g < f.desk.generation := by
        simpa [Late] using late
      obtain rfl := Nat.le_antisymm (hc.bound ht) (Nat.le_of_not_lt hg)
      obtain ⟨hsg, hl, hb⟩ := hc.taken isFlash found ht
      rw [closes]
      exact ⟨hs.reconnected (hc.flashing isFlash ht) hsg hl hb rfl, rfl⟩

theorem Call.Fits.after (h : c.Fits f) (q : Program Station Result) :
    { c with rest := q }.Fits f := by
  cases h with
  | connect he ht hg hp => exact .connect he ht hg hp
  | flash he ht hg hp hs hsg hl hb => exact .flash he ht hg hp hs hsg hl hb
  | disconnect he ht => exact .disconnect he ht

end

namespace Traffic

variable {config : Config} {t t' : Traffic} {i : Nat} {c : Call} {f f' : Floor} {es : List Event}

/-! ### A turn -/

/-- After its turn a call waits or is over. -/
theorem Turn.rest (h : Turn t i c f) (ran : Ran config c f es f') : Rest config t i c f' := by
  rcases ran.outcome h.sound h.fits with ⟨hd, kept⟩ | ⟨hp, ht, hg, hb, hs⟩
  -- the record is as it was
  · have grow (tag) : Drift tag f f' := .grow tag hd ran.loaders
    refine ⟨h.sound.grow hd ran.loaders, fun _ => h.fits.drift (grow _), fun hp => (ran.stays hp).2,
      hd ▸ h.later, fun j d hj hc hp => (h.drift j d hj hc hp).trans (grow _), ?_, ?_⟩
    · rw [hd]
      exact fun ho => h.alone ho.2
    · rw [hd]
      refine fun hb => (h.owned hb).imp_left fun ht => ⟨?_, ht⟩
      cases hp : c.pending with
      | true => rfl
      | false => exact absurd ht (kept hp)
  -- the call had the station and is over, and no other call carries its generation
  · have done : c.pending ≠ true := by simp [hp]
    refine ⟨hs, fun h => absurd h done, fun h => absurd h done, hg ▸ h.later, ?_,
      fun ho => absurd ho.1 done, fun h => by rw [hb] at h; cases h⟩
    intro j d hj hc hdp
    have drift := h.drift j d hj hc hdp
    have other : d.tag ≠ some f.desk.generation := fun e => h.alone ht j d hj hc ⟨hdp, e⟩
    refine ⟨hg ▸ drift.generation, fun l hl => ran.loaders (drift.loaders hl), fun e => ?_⟩
    exact absurd (hg ▸ e) other

/-- The calls are in order again after one of them had its turn. -/
theorem Rest.orderly (hr : Rest config t i c f) (h : Orderly config t) {calls : List Call}
    (same : ∀ j, j ≠ i → calls[j]? = t.calls[j]?) (here : calls[i]? = some c)
    (counted : f.desk.generation = calls.countP Call.turnover) : Orderly config ⟨f, calls⟩ := by
  have split {j : Nat} {d : Call} (hd : calls[j]? = some d) :
      (j = i ∧ d = c) ∨ (j ≠ i ∧ t.calls[j]? = some d) := by
    by_cases hj : j = i
    · subst hj
      rw [here] at hd
      exact .inl ⟨rfl, (Option.some.inj hd).symm⟩
    · exact .inr ⟨hj, same j hj ▸ hd⟩
  -- nobody else gets the station in a turn: a call never carries a generation to come
  have before {j : Nat} {d : Call} (hj : j ≠ i) (hd : t.calls[j]? = some d)
      (ho : d.Owns f.desk) : d.Owns t.floor.desk := by
    refine ⟨ho.1, ?_⟩
    have bound := (h.fits d (List.mem_of_getElem? hd) ho.1).bound ho.2
    rw [ho.2, Nat.le_antisymm bound hr.later]
  refine ⟨hr.sound, ?_, ?_, ?_, ?_, counted⟩
  · intro d hd hp
    obtain ⟨j, hj⟩ := List.getElem?_of_mem hd
    rcases split hj with ⟨_, rfl⟩ | ⟨hne, hj⟩
    · exact hr.fits hp
    · exact (h.fits d (List.mem_of_getElem? hj) hp).drift (hr.drift j d hne hj hp)
  · intro d hd hp
    obtain ⟨j, hj⟩ := List.getElem?_of_mem hd
    rcases split hj with ⟨_, rfl⟩ | ⟨hne, hj⟩
    · exact hr.waits hp
    · exact (h.waits d (List.mem_of_getElem? hj) hp).drift hp (hr.drift j d hne hj hp)
  · intro j k d e hd he hod hoe
    rcases split hd with ⟨rfl, rfl⟩ | ⟨hj, hd⟩ <;> rcases split he with ⟨rfl, rfl⟩ | ⟨hk, he⟩
    · rfl
    · exact absurd hoe (hr.alone hod k e hk he)
    · exact absurd hod (hr.alone hoe j d hj hd)
    · exact h.alone hd he (before hj hd hod) (before hk he hoe)
  · intro hb
    rcases hr.owned hb with ho | ⟨j, d, hj, hd, ho⟩
    · exact ⟨i, c, here, ho⟩
    · exact ⟨j, d, (same j hj).trans hd, ho⟩

/-! ### Each kind of step -/

/-- The record is as it was, but for the progress and the last fault. -/
theorem Orderly.talk (h : Orderly config t) {i : Nat} {c : Call} (progress : Nat)
    (lastError : Option String)
    (hf : f = { t.floor with desk := { t.floor.desk with progress, lastError } })
    (fits : c.pending = true → c.Fits t.floor) (waits : c.pending = true → c.Waits config t.floor)
    (here : ∀ d, t.calls[i]? = some d → d = c) (other : c.pending = true → t.calls[i]? = some c) :
    Rest config t i c f := by
  have drift (tag) : Drift tag t.floor f := by
    subst hf
    exact ⟨Nat.le_refl _, fun _ h => h, fun _ => rfl⟩
  subst hf
  refine ⟨⟨h.sound.coherent.talk _ _, h.sound.attached⟩, fun hp => (fits hp).drift (drift _),
    fun hp => (waits hp).drift hp (drift _), Nat.le_refl _, fun _ _ _ _ _ => drift _, ?_, ?_⟩
  · exact fun ho j d hj hd hod => hj (h.alone hd (other ho.1) hod ho)
  · intro hb
    obtain ⟨j, d, hd, ho⟩ := h.owned hb
    by_cases hj : j = i
    · subst hj
      exact .inl (here d hd ▸ ho)
    · exact .inr ⟨j, d, hj, hd, ho⟩

/-- A call that was accepted has its turn. -/
theorem Orderly.accepted (h : Orderly config t) {errand : Errand} {tag : Option Nat}
    {q : Program Station Result} (ha : Accepted t.floor errand f tag) :
    Turn t t.calls.length ⟨errand, t.floor, tag, q⟩ f := by
  have before {j : Nat} {d : Call} (hd : t.calls[j]? = some d) (hp : d.pending = true) {g : Nat}
      (ht : d.tag = some g) : g ≤ t.floor.desk.generation :=
    (h.fits d (List.mem_of_getElem? hd) hp).bound ht
  -- a new generation binds no call that was made before
  have next (desk : Desk) (hg : desk.generation = t.floor.desk.generation + 1) {j : Nat} {d : Call}
      (hd : t.calls[j]? = some d) (hp : d.pending = true) :
      Drift d.tag t.floor { t.floor with desk } := by
    refine ⟨hg ▸ Nat.le_succ _, fun l hl => hl, fun e => ?_⟩
    exact absurd (before hd hp e) (hg ▸ Nat.not_succ_le_self _)
  cases ha with
  | connect free =>
    refine ⟨.empty .connecting rfl, .connect rfl rfl (Nat.le_refl _) fun _ => rfl, Nat.le_succ _,
      fun j d _ hd hp => next t.floor.desk.connecting rfl hd hp, fun _ j d _ hd ho => ?_,
      fun _ => .inl rfl⟩
    exact absurd (before hd ho.1 ho.2) (Nat.not_succ_le_self _)
  | @flash _ s he hp hs =>
    have none {j : Nat} {d : Call} (hd : t.calls[j]? = some d) : ¬ d.Owns t.floor.desk := by
      intro ho
      rcases (h.fits d (List.mem_of_getElem? hd) ho.1).busy ho.2 with ⟨_, e⟩ | ⟨_, e⟩ <;>
        rw [hp] at e <;> cases e
    obtain ⟨hl, hb⟩ := h.sound.attached s hs
    refine ⟨.empty (h.sound.coherent.flashing hp) rfl, ?_, Nat.le_refl _, fun j d _ hd hdp => ?_,
      fun _ j d _ hd => none hd, fun _ => .inl rfl⟩
    · exact .flash he rfl (Nat.le_refl _) (fun _ => rfl) hs (h.sound.coherent.generation s hs) hl hb
    · exact ⟨Nat.le_refl _, fun l h => h, fun e => absurd ⟨hdp, e⟩ (none hd)⟩
  | disconnect =>
    refine ⟨.empty .tornDown rfl, .disconnect rfl rfl, Nat.le_succ _,
      fun j d _ hd hp => next t.floor.desk.tornDown rfl hd hp, nofun, nofun⟩

/-- A call that was answered has its turn. -/
theorem Orderly.resumed (h : Orderly config t) (hc : t.calls[i]? = some c)
    (hp : c.pending = true) (q : Program Station Result) :
    Turn t i { c with rest := q } t.floor := by
  refine ⟨h.sound, (h.fits c (List.mem_of_getElem? hc) hp).after q, Nat.le_refl _,
    fun _ _ _ _ _ => .refl _ _, fun ht j d hj hd ho => hj (h.alone hd hc ho ⟨hp, ht⟩), fun hb => ?_⟩
  obtain ⟨j, d, hd, ho⟩ := h.owned hb
  by_cases hj : j = i
  · subst hj
    rw [hc] at hd
    cases hd
    exact .inl ho.2
  · exact .inr ⟨j, d, hj, hd, ho⟩

theorem getElem?_snoc (calls : List Call) (c : Call) :
    (∀ j, j ≠ calls.length → (calls ++ [c])[j]? = calls[j]?) ∧
      (calls ++ [c])[calls.length]? = some c := by
  refine ⟨fun j hj => ?_, List.getElem?_concat_length⟩
  rcases Nat.lt_or_gt_of_ne hj with h | h
  · exact List.getElem?_append_left h
  · have past : (calls ++ [c]).length ≤ j := by
      rw [List.length_append]
      exact h
    rw [List.getElem?_eq_none past, List.getElem?_eq_none (Nat.le_of_lt h)]

theorem turnovers_set {i : Nat} {c d : Call} {calls : List Call} (hc : calls[i]? = some c)
    (hd : d.turnover = c.turnover) :
    (calls.set i d).countP Call.turnover = calls.countP Call.turnover := by
  induction calls generalizing i with
  | nil => rfl
  | cons a calls ih =>
    cases i with
    | zero =>
      rw [List.getElem?_cons_zero, Option.some.injEq] at hc
      rw [List.set_cons_zero, List.countP_cons, List.countP_cons, hd, hc]
    | succ i =>
      rw [List.getElem?_cons_succ] at hc
      rw [List.set_cons_succ, List.countP_cons, List.countP_cons, ih hc]

theorem Orderly.move (h : Orderly config t) (hm : Move config t i es t') : Orderly config t' := by
  cases hm with
  | @refused errand es r text he pre =>
    obtain ⟨same, here⟩ := getElem?_snoc t.calls ⟨errand, t.floor, none, .done r⟩
    have past : t.calls[t.calls.length]? = none := List.getElem?_eq_none (Nat.le_refl _)
    have ended {P : Prop} (hp : Call.pending ⟨errand, t.floor, none, .done r⟩ = true) : P := by
      cases hp
    refine (h.talk t.floor.desk.progress text rfl ended ended ?_ ended).orderly h same here ?_
    · intro d hd
      rw [past] at hd
      cases hd
    · have same : Call.turnover ⟨errand, t.floor, none, .done r⟩ = false := by
        cases errand <;> first | rfl | exact absurd rfl he
      rw [List.countP_append, List.countP_singleton, same]
      exact h.counted
  | @accepted errand f f' tag pre es q ha hpre ran =>
    have turn := h.accepted (q := q) ha
    obtain ⟨same, here⟩ := getElem?_snoc t.calls ⟨errand, t.floor, tag, q⟩
    refine (turn.rest ran).orderly h same here ?_
    rw [ran.generation turn.sound turn.fits, List.countP_append, ← Traffic.turnovers, ← h.counted]
    cases ha with
    | connect | disconnect => rfl
    | @flash _ _ he => cases errand <;> first | rfl | cases he
  | @resumed i c op answer es f' q hc hp ran =>
    have turn := h.resumed hc hp q
    refine (turn.rest ran).orderly h (fun j hj => List.getElem?_set_ne (Ne.symm hj)) ?_ ?_
    · exact List.getElem?_set_self (List.getElem?_eq_some_iff.mp hc).1
    · rw [ran.generation turn.sound turn.fits, h.counted, Traffic.turnovers,
        turnovers_set (d := { c with rest := q }) hc rfl]
  | @reported i c g written total es f' hc hp ht hr =>
    have fits := h.fits c (List.mem_of_getElem? hc) hp
    have waits := h.waits c (List.mem_of_getElem? hc) hp
    have here (d) (hd : t.calls[i]? = some d) : d = c := Option.some.inj (hd.symm.trans hc)
    cases hr with
    | late hg => exact h
    | counts hg _ hf =>
      refine (h.talk _ t.floor.desk.lastError hf (fun _ => fits) (fun _ => waits) here
        fun _ => hc).orderly h (fun _ _ => rfl) hc ?_
      rw [hf]
      exact h.counted

/-- What a step does to the floor is no more than a call may take for granted of others. -/
theorem Orderly.drift (h : Orderly config t) (hm : Move config t i es t') {j : Nat} {d : Call}
    (hd : t.calls[j]? = some d) (hp : d.pending = true) (hj : j ≠ i) :
    Drift d.tag t.floor t'.floor := by
  cases hm with
  | refused => exact ⟨Nat.le_refl _, fun _ h => h, fun _ => rfl⟩
  | accepted ha hpre ran => exact ((h.accepted ha).rest ran).drift j d hj hd hp
  | resumed hc hp' ran => exact ((h.resumed hc hp' _).rest ran).drift j d hj hd hp
  | reported _ _ _ hr => exact hr.drift _

/-- **A step keeps the order.** -/
theorem Orderly.step (h : Orderly config t) (hs : Step config t i es t') : Orderly config t' :=
  h.move (hs.move h.waits)

/-- A new station is in order. -/
theorem Orderly.new : Orderly config .new where
  sound := .empty (by constructor <;> simp [Traffic.new, Floor.new, Desk.new]) rfl
  fits c hc := absurd hc List.not_mem_nil
  waits c hc := absurd hc List.not_mem_nil
  alone h := by cases h
  owned h := by cases h
  counted := rfl

/-- **All that a new station can come to is in order.** -/
theorem Reach.orderly (h : Reach config t) : Orderly config t :=
  h.induction .new fun _ _ _ _ _ ho hs => ho.step hs

theorem Reach.move (h : Reach config t) (hs : Step config t i es t') : Move config t i es t' :=
  hs.move h.orderly.waits

end Traffic

end FlashStation
