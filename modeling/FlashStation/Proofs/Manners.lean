/-
# What the station's calls do to the record

A call that was accepted leaves the record alone at every wait. It writes it once more at its
end, and only if it was not superseded before. From the moment it is superseded, each operation
that it performs is inert: no write, no word to the observer or to the caller, and nothing that a
loader has to do.

Key definitions: `StationOp.inert`, `Drift`, `Late`, `Proper`, `Manners`, `Held`.
Key theorems: `manners_keeps`, `manners_keeps_now`, `Stretch.idle`, `Stretch.manners`.
-/
import FlashStation.Proofs.Conduct

namespace FlashStation

open Station Program

/-! ### Kinds of operations -/

namespace StationOp

/-- Whether an operation leaves the record, the observer and the caller alone, makes no loader and
asks none to do anything, and learns no more of the record than whether a generation is its own. -/
def inert : StationOp → Bool
  | .read | .write _ | .changed _ _ | .progress _ | .attach _ _ _ | .handshake _ | .runStub _
  | .flashId _ | .flashSize _ | .writeFlash _ _ _ _ | .hardReset _ | .softReset _ => false
  | .link _ | .supply _ | .current _ | .supported | .knownPorts | .requestPort _ | .intoPort _
  | .chipName _ | .hasHardReset _ => true

/-- The generation on whose behalf progress is reported while an operation is under way. -/
def speaksFor : StationOp → Option Nat
  | .writeFlash _ _ _ generation => some generation
  | _ => none

/-- An operation that leaves all alone, as a property. -/
def Inert (op : StationOp) : Prop := op.inert = true

/-- An operation that leaves all alone and does not wait. -/
def Still (op : StationOp) : Prop := op.inert = true ∧ op.suspends = false

variable {op : StationOp}

theorem Inert.accepts (h : op.Inert) : op.accepts = false := by
  cases op <;> first | rfl | cases h

theorem Inert.speaksFor (h : op.Inert) : op.speaksFor = none := by
  cases op <;> first | rfl | cases h

theorem Inert.settle (h : op.Inert) (suggested : op.Answer) (f : Floor) :
    (op.settle suggested f).2 = f := by
  cases op <;> first | rfl | cases h

theorem Still.inert (h : op.Still) : op.Inert := h.1

end StationOp

open StationOp

/-! ### Programs that only work on ports -/

section
variable {H : StationOp → Prop} {config : Config}

theorem log_uses (link : ∀ op, H (.link op)) (variant : Variant) (message : String) :
    (log variant message).Uses H :=
  .perform (S := Station) (link _)

theorem onLink_uses {α : Type} (link : ∀ op, H (.link op)) (p : Program Link α) :
    (onLink p).Uses H :=
  (uses_true p).embed fun _ _ => .perform (S := Station) (link _)

/-- Bringing a port back is work on ports. -/
theorem restorePort_uses {port : Port} {context : String} {variant : Variant}
    {complaint : String → String} (link : ∀ op, H (.link op)) :
    (restorePort config port context variant complaint).Uses H := by
  refine (onLink_uses link _).bind fun r => ?_
  cases r with
  | ok _ => trivial
  | error fault => exact log_uses link _ _

theorem release_uses {loader : Loader} {context : String} (link : ∀ op, H (.link op))
    (apart : ∀ loader, H (.intoPort loader)) : (release config loader context).Uses H :=
  Uses.bind (.perform (S := Station) (apart loader)) fun _ => restorePort_uses link

theorem startupCheck_uses (link : ∀ op, H (.link op)) (known : H .knownPorts) :
    startupCheck.Uses H := by
  refine Uses.bind (.perform (S := Station) known) fun r => ?_
  cases r with
  | error fault => exact log_uses link _ _
  | ok ports =>
    refine (log_uses link _ _).bind fun _ => .each fun p _ => ?_
    exact Uses.bind (.perform (S := Station) (link _)) fun _ => log_uses link _ _

theorem reclaimKnown_uses (link : ∀ op, H (.link op)) (known : H .knownPorts) :
    (reclaimKnown config).Uses H := by
  refine (log_uses link _ _).bind fun _ => Uses.bind (.perform (S := Station) known) fun r => ?_
  cases r with
  | error fault => exact log_uses link _ _
  | ok ports =>
    refine (log_uses link _ _).bind fun _ => .each fun port _ => ?_
    exact (log_uses link _ _).bind fun _ => restorePort_uses link

theorem cleanUp_uses (link : ∀ op, H (.link op)) (apart : ∀ loader, H (.intoPort loader)) :
    ∀ previous : Option Session, (cleanUp config previous).Uses H
  | none => trivial
  | some _ => (log_uses link _ _).bind fun _ => (release_uses link apart).bind fun _ =>
      .perform (S := Station) (link _)

/-- A look at the generation, and one of two ways to go on. -/
theorem ifCurrent_uses {α : Type} {g : Nat} {A B : Program Station α} (current : H (.current g))
    (hA : A.Uses H) (hB : B.Uses H) :
    ((isCurrent g).bind fun b => if (!b) = true then A else B).Uses H := by
  refine Uses.bind (.perform (S := Station) current) fun b => ?_
  cases b with
  | false => exact hA
  | true => exact hB

end

/-! ### Programs of inert operations -/

theorem perform_inert {op : StationOp} (h : op.inert = true) :
    (Station.perform op).Uses Inert :=
  .perform (S := Station) h

theorem log_still (variant : Variant) (message : String) : (log variant message).Uses Still :=
  .perform (S := Station) ⟨rfl, rfl⟩

theorem trace_still (message : String) : (trace message).Uses Still := log_still _ _

theorem log_inert (variant : Variant) (message : String) : (log variant message).Uses Inert :=
  (log_still _ _).mono fun _ => Still.inert

theorem trace_inert (message : String) : (trace message).Uses Inert := log_inert _ _

theorem onSupply_inert {α : Type} (p : Program Supply α) : (onSupply p).Uses Inert :=
  (uses_true p).embed fun _ _ => perform_inert rfl

section
variable (config : Config)

theorem restorePort_inert (port : Port) (context : String) (variant : Variant)
    (complaint : String → String) :
    (restorePort config port context variant complaint).Uses Inert :=
  restorePort_uses fun _ => rfl

theorem release_inert (loader : Loader) (context : String) :
    (release config loader context).Uses Inert :=
  release_uses (fun _ => rfl) fun _ => rfl

theorem startupCheck_inert : startupCheck.Uses Inert :=
  startupCheck_uses (fun _ => rfl) rfl

theorem reclaimKnown_inert : (reclaimKnown config).Uses Inert :=
  reclaimKnown_uses (fun _ => rfl) rfl

theorem askForPort_inert : (askForPort config).Uses Inert := by
  refine Uses.bind (perform_inert rfl) fun r => ?_
  split
  · split
    · trivial
    · exact (trace_inert _).bind fun _ => perform_inert rfl
  · trivial

theorem cleanUp_inert (previous : Option Session) : (cleanUp config previous).Uses Inert :=
  cleanUp_uses (fun _ => rfl) (fun _ => rfl) previous

theorem letGo_inert (session : Option Session) (phase : Phase) :
    (letGo config session phase).Uses Inert := by
  cases session with
  | some session => exact (release_inert _ _ _).bind fun _ => log_inert _ _
  | none => cases phase <;> exact trace_inert _

end

theorem logSummary_still (chip : Option String) (payload : Payload) :
    (logSummary chip payload).Uses Still := by
  refine (log_still _ _).bind fun _ => (log_still _ _).bind fun _ => ?_
  refine (log_still _ _).bind fun _ => ?_
  exact (Uses.each fun _ _ => log_still _ _).bind fun _ => log_still _ _

/-! ### The conduct -/

/-- What others may do to the floor while a call waits that carries `tag`. As long as its
generation is the record's, only the progress and the last fault change. -/
structure Drift (tag : Option Nat) (f f' : Floor) : Prop where
  generation : f.desk.generation ≤ f'.desk.generation
  loaders : f.loaders ⊆ f'.loaders
  same : tag = some f'.desk.generation →
    f'.desk = { f.desk with progress := f'.desk.progress, lastError := f'.desk.lastError }

/-- Whether a call that carries `tag` does not have the station: it has been superseded, or it
never carried a generation. -/
def Late (tag : Option Nat) (d : Desk) : Prop := ∀ g, tag = some g → g < d.generation

/-- What a call that carries `tag` may do, on a floor, in a stretch that began on the floor
`since`. While the record is free it is as it was, but for `closing` in a last stretch. -/
structure Proper (tag : Option Nat) (closing : Desk → Desk → Prop) (since f : Floor)
    (op : StationOp) : Prop where
  inert : Late tag since.desk → op.Inert
  accepts : op.accepts = false
  free : op.onRecord = false →
    f.desk = since.desk ∨ (op.suspends = false ∧ closing since.desk f.desk)
  speaksFor : ∀ g, op.speaksFor = some g → tag = some g

/-- What the station's calls promise once they were accepted. They note the floor on which their
stretch began. -/
def Manners (tag : Option Nat) (closing : Desk → Desk → Prop) : Conduct Floor where
  note since e :=
    match e with
    | .wakes _ _ f => f
    | _ => since
  may := Proper tag closing
  rely _ := Drift tag

/-- The record is as it was when the stretch began, its generation is `n` or more, and there are
the loaders that are `known`. -/
structure Held (n : Nat) (known : List Loader) (since f : Floor) : Prop where
  same : f.desk = since.desk
  bound : n ≤ f.desk.generation
  known : known ⊆ f.loaders

section
variable {tag : Option Nat} {closing : Desk → Desk → Prop} {n g : Nat} {known : List Loader}
  {since f f' : Floor} {op : StationOp}

theorem Drift.refl (tag : Option Nat) (f : Floor) : Drift tag f f :=
  ⟨Nat.le_refl _, fun _ h => h, fun _ => rfl⟩

theorem Drift.trans {f'' : Floor} (h : Drift tag f f') (h' : Drift tag f' f'') :
    Drift tag f f'' := by
  refine ⟨Nat.le_trans h.generation h'.generation, fun _ hl => h'.loaders (h.loaders hl),
    fun ht => ?_⟩
  -- the later drift keeps the generation, so the earlier one is bound as well
  have h2 := h'.same ht
  have hg : f''.desk.generation = f'.desk.generation := by rw [h2]
  have h1 := h.same (hg ▸ ht)
  rw [h2, h1]

theorem Held.wakes (h : Held n known since f) (hd : Drift tag f f') : Held n known f' f' :=
  ⟨rfl, Nat.le_trans h.bound hd.generation, fun _ hl => hd.loaders (h.known hl)⟩

theorem Held.mono {m : Nat} {known' : List Loader} (h : Held n known since f) (hm : m ≤ n)
    (hk : known' ⊆ known) : Held m known' since f :=
  ⟨h.same, Nat.le_trans hm h.bound, fun _ hl => h.known (hk hl)⟩

theorem Held.proper (h : Held n known since f) (ho : op.Inert) : Proper tag closing since f op :=
  ⟨fun _ => ho, ho.accepts, fun _ => .inl h.same, fun _ e => by rw [ho.speaksFor] at e; cases e⟩

/-- A call that is not superseded may do more than inert operations. -/
theorem Held.proper_now (h : Held n known since f) (hg : f.desk.generation = g)
    (ha : op.accepts = false) (hw : ∀ g', op.speaksFor = some g' → g' = g) :
    Proper (some g) closing since f op := by
  refine ⟨fun late => ?_, ha, fun _ => .inl h.same, fun g' e => by rw [hw g' e]⟩
  exact absurd (late g rfl) (by rw [← h.same, hg]; exact Nat.lt_irrefl g)

theorem proper_onRecord (hg : since.desk.generation = g) (ho : op.onRecord = true)
    (ha : op.accepts = false) : Proper (some g) closing since f op := by
  have hs : op.speaksFor = none := by cases op <;> first | rfl | cases ho
  refine ⟨fun late => ?_, ha, fun h => ?_, fun g' e => ?_⟩
  · exact absurd (late g rfl) (hg ▸ Nat.lt_irrefl _)
  · rw [ho] at h
    cases h
  · rw [hs] at e
    cases e

variable (tag closing n known)

theorem manners_keeps : (Manners tag closing).Keeps Inert (Held n known) where
  may ho h := h.proper ho
  does ho h _ suggested := by rw [ho.settle]; exact h
  wakes _ h _ _ _ hd := h.wakes hd

/-- As long as a call does not wait, what it reads stays. -/
theorem manners_keeps_now (P : Desk → Prop) :
    (Manners tag closing).Keeps Still fun since f => Held n known since f ∧ P f.desk where
  may ho h := h.1.proper ho.inert
  does ho h _ suggested := by rw [ho.inert.settle]; exact h
  wakes ho _ hs := by rw [ho.2] at hs; cases hs

/-! ### Stretches of calls with manners -/

variable {tag closing} {α : Type} {p q : Program Station α} {es : List Event}

/-- If all that happens is inert, the floor is the same all the time. -/
theorem Stretch.idle (h : Stretch p f es f' q)
    (hi : ∀ e ∈ es, ∀ op, e.performed = some op → op.Inert) :
    f' = f ∧ ∀ e ∈ es, e.floor = f := by
  induction h with
  | ends a f => exact ⟨rfl, List.forall_mem_nil _⟩
  | waits hs => exact ⟨rfl, List.forall_mem_singleton.mpr rfl⟩
  | @does op next f f' es q hs suggested _ ih =>
    rw [List.forall_mem_cons] at hi ⊢
    have still : (op.settle suggested f).2 = f := (hi.1 op rfl).settle suggested f
    obtain ⟨hf, he⟩ := ih hi.2
    exact ⟨hf.trans still, rfl, fun e h => (he e h).trans still⟩

theorem manners_admits : ∀ {es : List Event}, (Manners tag closing).Admits since es →
    (∀ e ∈ es, ∃ op, e.performed = some op) →
    es.foldl (Manners tag closing).note since = since ∧
      ∀ e ∈ es, ∀ op, e.performed = some op → Proper tag closing since e.floor op
  | [], _, _ => ⟨rfl, List.forall_mem_nil _⟩
  | e :: es, ⟨he, hes⟩, hp => by
    rw [List.forall_mem_cons] at hp ⊢
    have same : (Manners tag closing).note since e = since := by
      cases e with
      | wakes => obtain ⟨⟨_, ⟨⟩⟩, _⟩ := hp
      | _ => rfl
    rw [same] at hes
    obtain ⟨fold, proper⟩ := manners_admits hes hp.2
    refine ⟨?_, he, proper⟩
    rw [List.foldl_cons, same, fold]

/-- A stretch of a program that conforms performs what is proper, with regard to the floor on
which it began. -/
theorem Stretch.manners {Q : α → Floor → Floor → Prop} (h : Stretch p f es f' q)
    (hp : p.Conforms (Manners tag closing) Q f f) :
    (∀ e ∈ es, ∀ op, e.performed = some op → Proper tag closing f e.floor op) ∧
      (Manners tag closing).Rests Q f f' q := by
  obtain ⟨admits, rests⟩ := h.conforms hp
  obtain ⟨fold, proper⟩ := manners_admits admits h.performed
  rw [fold] at rests
  exact ⟨proper, rests⟩

end

end FlashStation
