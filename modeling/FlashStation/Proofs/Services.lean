/-
# The parts of the station's calls do their duties

Reclaiming a port touches that port alone and tells of no failure of the call, and so it is with
everything that a call does with ports, with the fetcher and with what the board can do without.
The parts of a connect are followed with their stances: what it has in hand at each moment, which
trouble it has seen, and what it ends with.

Key theorems: `reclaim_tame`, `Stance.releases`, `Stance.acquires`, `Stance.inventories`,
`Stance.attempts`.
-/
import FlashStation.Proofs.Footing

namespace FlashStation

open Station Program Event

/-! ### Programs that touch certain ports only -/

/-- An operation touches no ports but these, and tells of no failure. -/
structure LinkOp.Tame (ports : Port → Prop) (op : LinkOp) : Prop where
  ports : ∀ port, op.touched = some port → ports port
  harmless : ∀ variant message, op = .log variant message → Harmless message

/-- An operation that gets bytes tells of no failure. -/
def SupplyOp.Tame (op : SupplyOp) : Prop :=
  ∀ variant message, op = .log variant message → Harmless message

section
variable {ports : Port → Prop} {still : Bool} {port : Port} {α : Type}

theorem tame_quiet {op : LinkOp} (ht : op.touched = none)
    (hl : ∀ variant message, op ≠ .log variant message) :
    (Program.perform (S := Link) op).Uses (LinkOp.Tame ports) :=
  .perform (S := Link) ⟨fun _ h => (by rw [ht] at h; cases h),
    fun variant message h => absurd h (hl variant message)⟩

theorem tame_touch {op : LinkOp} (ht : op.touched = some port)
    (hl : ∀ variant message, op ≠ .log variant message) :
    (Program.perform (S := Link) op).Uses (LinkOp.Tame (· = port)) :=
  .perform (S := Link) ⟨fun _ h => (Option.some.inj (ht.symm.trans h)).symm,
    fun variant message h => absurd h (hl variant message)⟩

theorem tame_log {variant : Variant} {message : String} (h : Harmless message) :
    (Link.log variant message).Uses (LinkOp.Tame ports) :=
  .perform (S := Link) ⟨nofun, by rintro _ _ ⟨⟩; exact h⟩

theorem tame_trace {message : String} (h : Harmless message) :
    (Link.trace message).Uses (LinkOp.Tame ports) :=
  tame_log h

theorem freeReader_tame (port : Port) : (Link.freeReader port).Uses (LinkOp.Tame (· = port)) := by
  refine Uses.bind (tame_touch rfl nofun) fun r => ?_
  cases r with
  | error fault => trivial
  | ok _ => exact tame_touch rfl nofun

theorem freeWriter_tame (port : Port) : (Link.freeWriter port).Uses (LinkOp.Tame (· = port)) := by
  refine Uses.bind (tame_touch rfl nofun) fun r => ?_
  split
  · exact tame_touch rfl nofun
  · exact tame_touch rfl nofun
  · trivial

variable (delays : Delays) {context : String}

theorem freeStream_tame (hc : Harmless context) (stream : StreamKind)
    {free : Program Link (Except PortFault Unit)} (hf : free.Uses (LinkOp.Tame (· = port))) :
    (freeStream delays port context stream free).Uses (LinkOp.Tame (· = port)) := by
  refine Uses.bind (tame_quiet rfl nofun) fun streams => ?_
  split
  · refine (tame_trace (.append (.append (.append hc _) _) _)).bind fun _ => hf.bind fun r => ?_
    cases r with
    | ok _ =>
      refine (tame_trace (.append (.append (.append hc _) _) _)).bind fun _ => ?_
      exact Uses.bind (tame_quiet rfl nofun) fun _ => trivial
    | error fault =>
      exact (tame_log (.append (.append (.append (.append hc _) _) _) _)).bind fun _ => trivial
  · trivial

theorem closePort_tame (hc : Harmless context) :
    (closePort delays port context).Uses (LinkOp.Tame (· = port)) := by
  refine Uses.bind (tame_quiet rfl nofun) fun streams => ?_
  split
  · refine Uses.bind (tame_touch rfl nofun) fun r => ?_
    cases r with
    | ok _ =>
      refine (tame_trace (.append hc _)).bind fun _ => ?_
      exact Uses.bind (tame_quiet rfl nofun) fun _ => trivial
    | error fault =>
      exact (tame_log (.append (.append hc _) _)).bind fun _ => trivial
  · trivial

/-- **Reclaiming a port touches no other.** -/
theorem reclaim_tame (hc : Harmless context) :
    (reclaim delays port context).Uses (LinkOp.Tame (· = port)) := by
  refine Uses.bind (tame_quiet rfl nofun) fun streams => ?_
  split
  · exact (tame_trace (.append hc _)).bind fun _ => trivial
  · refine (tame_trace (.append (.append (.append hc _) _) _)).bind fun _ => ?_
    refine Uses.bind (tame_quiet rfl nofun) fun before => ?_
    refine (tame_trace (.append (.append hc _) _)).bind fun _ => ?_
    refine (freeStream_tame delays hc .readable (freeReader_tame port)).bind fun reader => ?_
    refine (freeStream_tame delays hc .writable (freeWriter_tame port)).bind fun writer => ?_
    refine Uses.bind (tame_quiet rfl nofun) fun after => ?_
    refine (tame_trace (.append (.append hc _) _)).bind fun _ => ?_
    refine (closePort_tame delays hc).bind fun closing => ?_
    refine Uses.bind (tame_quiet rfl nofun) fun last => Uses.bind (tame_quiet rfl nofun) fun _ => ?_
    split <;> trivial

end

/-! ### Plain parts of the station's calls -/

section
variable {ports : Port → Prop} {still : Bool} {port : Port} {α : Type}

theorem within_quiet {op : StationOp} (hp : op.plain = true)
    (hs : still = true → op.suspends = false) (ht : op.touched = none) (hl : op.said = none) :
    (perform op).Uses (StationOp.Within ports still) :=
  .perform (S := Station) ⟨hp, hs, fun _ h => (by rw [ht] at h; cases h),
    fun _ h => (by rw [hl] at h; cases h)⟩

theorem within_log {variant : Variant} {message : String} (h : Harmless message) :
    (log variant message).Uses (StationOp.Within ports still) :=
  .perform (S := Station) ⟨rfl, fun _ => rfl, nofun, by rintro _ ⟨⟩; exact h⟩

theorem within_trace {message : String} (h : Harmless message) :
    (trace message).Uses (StationOp.Within ports still) :=
  within_log h

theorem within_onLink {p : Program Link α} (hp : p.Uses (LinkOp.Tame ports)) :
    (onLink p).Uses (StationOp.Within ports false) := by
  refine hp.embed fun op tame => .perform (S := Station) ⟨rfl, nofun, tame.ports, ?_⟩
  intro message hm
  cases op with
  | log variant text =>
    cases hm
    exact tame.harmless _ _ rfl
  | _ => cases hm

theorem fetchImages_tame (images : List PlacedImage) :
    (fetchImages images).Uses SupplyOp.Tame := by
  induction images with
  | nil => trivial
  | cons image rest ih =>
    refine Uses.bind (.perform (S := Supply) nofun) fun location => ?_
    refine Uses.bind (.perform (S := Supply) ?_) fun _ => ?_
    · rintro _ _ ⟨⟩
      exact .append (.append (.ofList (by decide)) _) _
    refine Uses.bind (.perform (S := Supply) nofun) fun r => ?_
    cases r with
    | error fault => trivial
    | ok data =>
      refine ih.bind fun r => ?_
      cases r <;> trivial

theorem materialize_tame (source : Source) : (materialize source).Uses SupplyOp.Tame := by
  cases source with
  | catalog _ images params =>
    refine (fetchImages_tame images).bind fun r => ?_
    cases r <;> trivial
  | custom file address params =>
    refine Uses.bind (.perform (S := Supply) ?_) fun _ => ?_
    · rintro _ _ ⟨⟩
      exact .append (.append (.ofList (by decide)) _) _
    refine Uses.bind (.perform (S := Supply) nofun) fun r => ?_
    cases r <;> trivial

theorem materialize_within (source : Source) :
    (onSupply (materialize source)).Uses (StationOp.Within ports false) := by
  refine (materialize_tame source).embed fun op tame => ?_
  refine .perform (S := Station) ⟨rfl, nofun, nofun, ?_⟩
  intro message hm
  cases op with
  | log variant text =>
    cases hm
    exact tame _ _ rfl
  | _ => cases hm

variable (config : Config)

theorem restorePort_within {context : String} (hc : Harmless context) (variant : Variant)
    {complaint : String → String} (hm : ∀ text, Harmless (complaint text)) :
    (restorePort config port context variant complaint).Uses
      (StationOp.Within (· = port) false) := by
  refine (within_onLink (reclaim_tame _ hc)).bind fun r => ?_
  cases r with
  | ok _ => trivial
  | error fault => exact within_log (hm _)

theorem startupCheck_within : startupCheck.Uses (StationOp.Within ports false) := by
  refine Uses.bind (within_quiet rfl nofun rfl rfl) fun r => ?_
  cases r with
  | error fault => exact within_trace (.append (.ofList (by decide)) _)
  | ok known =>
    refine (within_log (.append (.append (.ofList (by decide)) _) _)).bind fun _ => ?_
    refine .each fun p _ => ?_
    refine Uses.bind (within_quiet rfl nofun rfl rfl) fun streams => within_log ?_
    exact .append (.append (.append (.append (.append (.ofList (by decide)) _) _) _) _) _

theorem loadStub_within (loader : Loader) :
    (loadStub loader).Uses (StationOp.Within ports false) := by
  refine Uses.bind (within_quiet rfl nofun rfl rfl) fun r => ?_
  cases r with
  | ok _ => exact within_log (.ofList (by decide))
  | error fault => exact within_trace (.append (.ofList (by decide)) _)

theorem askFlashId_within (loader : Loader) :
    (askFlashId loader).Uses (StationOp.Within ports false) := by
  refine Uses.bind (within_quiet rfl nofun rfl rfl) fun r => ?_
  cases r with
  | ok id => trivial
  | error fault => exact (within_log (.append (.ofList (by decide)) _)).bind fun _ => trivial

theorem askFlashSize_within (loader : Loader) :
    (askFlashSize loader).Uses (StationOp.Within ports false) := by
  refine Uses.bind (within_quiet rfl nofun rfl rfl) fun r => ?_
  cases r with
  | ok size => trivial
  | error fault => exact (within_trace (.append (.ofList (by decide)) _)).bind fun _ => trivial

theorem logSummary_within (chip : Option String) (payload : Payload) :
    (logSummary chip payload).Uses (StationOp.Within ports still) := by
  refine (within_log (.ofList (by decide))).bind fun _ => ?_
  refine (within_log (.append (.ofList (by decide)) _)).bind fun _ => ?_
  refine (within_log (.append (.ofList (by decide)) _)).bind fun _ => ?_
  refine (Uses.each fun file _ => within_log ?_).bind fun _ => within_log (.ofList (by decide))
  exact .append (.append (.append (.append (.append (.append (.ofList (by decide)) _) _) _) _) _) _

theorem reset_within (loader : Loader) : (reset loader).Uses (StationOp.Within ports false) := by
  refine Uses.bind (within_quiet rfl nofun rfl rfl) fun hard => ?_
  have restart : (restart loader hard).Uses (StationOp.Within ports false) := by
    cases hard with
    | true => exact within_quiet rfl nofun rfl rfl
    | false => exact within_quiet rfl nofun rfl rfl
  refine restart.bind fun r => ?_
  cases r with
  | ok _ => exact (within_log (.append (.append (.ofList (by decide)) _) _)).bind fun _ => trivial
  | error fault =>
    exact (within_trace (.append (.append (.ofList (by decide)) _) _)).bind fun _ => trivial

end

/-! ### Releasing a loader -/

namespace Stance

section
variable {config : Config} {errand : Errand} {start f : Floor} {P : Posture} {x : List Event}
  {α : Type} {Q : α → List Event → Floor → Prop} {g : Nat}

/-- A call performs something that touches no port. -/
theorem alone (h : Stance config start P x f) {p : Program Station α}
    (hp : p.Uses (StationOp.Within (fun _ => False) P.now)) :
    p.Conforms (Duties config errand start) (fun _ => Stance config start P) x f :=
  h.runs hp nofun

/-- A call performs something that touches no port, and goes on. -/
theorem performs (h : Stance config start P x f) {β : Type} {p : Program Station β}
    (hp : p.Uses (StationOp.Within (fun _ => False) P.now)) {k : β → Program Station α}
    (hk : ∀ a x f, Stance config start P x f →
      (k a).Conforms (Duties config errand start) Q x f) :
    (p.bind k).Conforms (Duties config errand start) Q x f :=
  h.bind hp nofun hk

/-- A call adds an entry to the trail. -/
theorem logs (h : Stance config start P x f) {variant : Variant} {message : String}
    (hm : Harmless message) {k : Unit → Program Station α}
    (hk : ∀ x f, Stance config start P x f →
      (k ()).Conforms (Duties config errand start) Q x f) :
    ((log variant message).bind k).Conforms (Duties config errand start) Q x f :=
  h.performs (within_log hm) fun _ => hk

/-- **A call releases the loader that it has in hand.** It is amid the release at each wait of it,
and at the end the loader is released. -/
theorem releases (h : Stance config start P x f) {loader : Loader} (hl : P.hand = [loader])
    (hn : P.now = false) {context : String} (hc : Harmless context) :
    (release config loader context).Conforms (Duties config errand start)
      (fun _ => Stance config start { P with hand := [] }) x f := by
  let taken : Event := .does (.intoPort loader) loader.port f
  let restore : Program Station Unit := restorePort config loader.port context .trace
    fun message => s!"Warning: failed to release {context} transport: {message}"
  have within : restore.Uses (StationOp.Within (· = loader.port) P.now) := by
    rw [hn]
    refine restorePort_within config hc .trace fun _ => ?_
    exact .append (.append (.append (.ofList (by decide)) _) _) _
  have begun : (release config loader context).Performs [taken] restore :=
    Performs.does .here rfl loader.port f
  have allowed : Dutiful config errand start x f (.intoPort loader) :=
    h.dutiful (.takesApart (by rw [h.hand, hl]; exact .head _)) nofun
  have footing := h.toFooting.takesApart loader
  rw [hl, List.erase_cons_head] at footing
  have entitled (port : Port) (hp : port = loader.port) : Entitled (x ++ [taken]) port := by
    subst hp
    exact .had (List.mem_append_right _ (.head _))
  -- others were released before; the one that was just taken apart is released by what follows
  have parts (l : Loader) (hl : l ∈ aparts (x ++ [taken])) : Whole config l x ∨ l = loader := by
    rw [aparts_snoc] at hl
    rcases List.mem_append.mp hl with hl | hl
    · exact .inl (h.settled l hl)
    · exact .inr (List.mem_singleton.mp hl)
  refine (conforms_bind _ _).mpr ((conforms_does rfl).mpr ⟨allowed, fun _ => ?_⟩)
  refine (footing.runs within entitled fun z op next hz l hl => ?_).mono ?_
  · rcases parts l hl with whole | rfl
    · exact .inl ((whole.append _).append _)
    · refine .inr ⟨context, x, [taken] ++ z, next, List.append_assoc x _ z, begun.trans hz⟩
  · rintro _ _ _ ⟨z, rfl, hz, footing, same⟩
    refine ⟨footing, fun l hl => ?_⟩
    rcases parts l (same ▸ hl) with whole | rfl
    · exact (whole.append _).append _
    · refine ⟨context, x, [taken] ++ z, [], ?_, begun.trans hz⟩
      rw [List.append_nil, ← List.append_assoc]

end

end Stance

end FlashStation
