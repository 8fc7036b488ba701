/-
# What a call promises whatever others do

A conduct says which operations a call may perform, on what floor, and what it takes for granted
of others while it waits. A program conforms if it performs only what it may, on every path and
whatever the answers and the others are, and ends as it should. What a call remembers of its past
is kept as notes; what is promised can depend on them.

Conforming is told for a program from its parts (`conforms_bind`), and a part that only performs
harmless operations conforms because of an invariant that these keep
(`Conduct.Keeps.conforms`). Then each stretch of a call that conforms does what the conduct
promises (`Stretch.conforms`).

Key definitions: `Conduct`, `Program.Conforms`, `Conduct.Keeps`, `Conduct.Admits`,
`Conduct.Rests`.
Key theorems: `Program.conforms_bind`, `Conduct.Keeps.conforms`, `Stretch.conforms`.
-/
import FlashStation.Proofs.Traffic

namespace FlashStation

variable {α β γ : Type}

/-- What a call promises, and what it takes for granted. `γ` is what it notes of its past. -/
structure Conduct (γ : Type) where
  /-- The notes after an event. -/
  note : γ → Event → γ
  /-- The operations that the call may perform, on a floor. -/
  may : γ → Floor → StationOp → Prop
  /-- How others may change the floor while the call waits. -/
  rely : γ → Floor → Floor → Prop

/-- The program keeps to a conduct, from these notes and this floor, and ends in `Q`. -/
def Program.Conforms (C : Conduct γ) :
    Program Station α → (α → γ → Floor → Prop) → γ → Floor → Prop
  | .done a, Q, x, f => Q a x f
  | .call op next, Q, x, f =>
    C.may x f op ∧
      if op.suspends then ∀ answer f', C.rely (C.note x (.starts op f)) f f' →
        (next answer).Conforms C Q (C.note (C.note x (.starts op f)) (.wakes op answer f')) f'
      else ∀ suggested, (next (op.settle suggested f).1).Conforms C Q
        (C.note x (.does op (op.settle suggested f).1 f)) (op.settle suggested f).2

namespace Program

variable {C : Conduct γ} {Q : β → γ → Floor → Prop} {x : γ} {f : Floor}

theorem conforms_bind (p : Program Station α) (k : α → Program Station β) :
    (p.bind k).Conforms C Q x f ↔ p.Conforms C (fun a => (k a).Conforms C Q) x f := by
  induction p generalizing x f with
  | done a => exact Iff.rfl
  | call op next ih => simp only [call_bind, Conforms, ih]

theorem Conforms.mono {Q' : β → γ → Floor → Prop} {p : Program Station β}
    (h : p.Conforms C Q x f) (hQ : ∀ b x f, Q b x f → Q' b x f) : p.Conforms C Q' x f := by
  -- over the program; notes and floor change with each operation
  induction p generalizing x f with
  | done b => exact hQ _ _ _ h
  | call op next ih =>
    refine ⟨h.1, ?_⟩
    cases hs : op.suspends with
    | true =>
      have h2 := h.2
      simp only [hs, ↓reduceIte] at h2 ⊢
      exact fun answer f' hr => ih answer (h2 answer f' hr)
    | false =>
      have h2 := h.2
      simp only [hs, Bool.false_eq_true, ↓reduceIte] at h2 ⊢
      exact fun suggested => ih _ (h2 suggested)

/-- A part that conforms, and then the rest. -/
theorem Conforms.bind {R : α → γ → Floor → Prop} {p : Program Station α} {k : α → Program Station β}
    (h : p.Conforms C R x f) (hk : ∀ a x f, R a x f → (k a).Conforms C Q x f) :
    (p.bind k).Conforms C Q x f :=
  (conforms_bind p k).mpr (h.mono hk)

/-- An operation that does not wait. -/
theorem conforms_does {op : StationOp} (hs : op.suspends = false)
    {Q : op.Answer → γ → Floor → Prop} :
    (Station.perform op).Conforms C Q x f ↔ C.may x f op ∧ ∀ suggested,
      Q (op.settle suggested f).1 (C.note x (.does op (op.settle suggested f).1 f))
        (op.settle suggested f).2 := by
  simp only [Station.perform, Program.perform, Conforms, hs, Bool.false_eq_true, ↓reduceIte]

/-- An operation that waits. -/
theorem conforms_waits {op : StationOp} (hs : op.suspends = true)
    {Q : op.Answer → γ → Floor → Prop} :
    (Station.perform op).Conforms C Q x f ↔ C.may x f op ∧ ∀ answer f',
      C.rely (C.note x (.starts op f)) f f' →
        Q answer (C.note (C.note x (.starts op f)) (.wakes op answer f')) f' := by
  simp only [Station.perform, Program.perform, Conforms, hs, ↓reduceIte]

end Program

namespace Conduct

variable (C : Conduct γ)

/-- An invariant that allows some operations and that they keep, across waits too. -/
structure Keeps (H : StationOp → Prop) (J : γ → Floor → Prop) : Prop where
  may : ∀ {op x f}, H op → J x f → C.may x f op
  does : ∀ {op x f}, H op → J x f → op.suspends = false → ∀ suggested,
    J (C.note x (.does op (op.settle suggested f).1 f)) (op.settle suggested f).2
  wakes : ∀ {op x f}, H op → J x f → op.suspends = true → ∀ answer f',
    C.rely (C.note x (.starts op f)) f f' →
      J (C.note (C.note x (.starts op f)) (.wakes op answer f')) f'

variable {C}

/-- A program that performs only operations that keep an invariant conforms, and ends with the
invariant. -/
theorem Keeps.conforms {H : StationOp → Prop} {J : γ → Floor → Prop} (hK : C.Keeps H J)
    {p : Program Station α} {x : γ} {f : Floor} (hp : p.Uses H) (hJ : J x f) :
    p.Conforms C (fun _ => J) x f := by
  induction p generalizing x f with
  | done a => exact hJ
  | call op next ih =>
    refine ⟨hK.may hp.1 hJ, ?_⟩
    cases hs : op.suspends with
    | true =>
      simp only [↓reduceIte]
      exact fun answer f' hr => ih answer (hp.2 answer) (hK.wakes hp.1 hJ hs answer f' hr)
    | false =>
      simp only [Bool.false_eq_true, ↓reduceIte]
      exact fun suggested => ih _ (hp.2 _) (hK.does hp.1 hJ hs suggested)

/-- A part that keeps an invariant, and then the rest. -/
theorem Keeps.bind {H : StationOp → Prop} {J : γ → Floor → Prop} (hK : C.Keeps H J)
    {p : Program Station α} {k : α → Program Station β} {Q : β → γ → Floor → Prop} {x : γ}
    {f : Floor} (hp : p.Uses H) (hJ : J x f)
    (hk : ∀ a x f, J x f → (k a).Conforms C Q x f) : (p.bind k).Conforms C Q x f :=
  (hK.conforms hp hJ).bind hk

variable (C)

/-- What happens is what the conduct allows. -/
def Admits : γ → List Event → Prop
  | _, [] => True
  | x, e :: es => (∀ op, e.performed = some op → C.may x e.floor op) ∧ Admits (C.note x e) es

theorem admits_append {x : γ} {es es' : List Event} :
    C.Admits x (es ++ es') ↔ C.Admits x es ∧ C.Admits (es.foldl C.note x) es' := by
  induction es generalizing x with
  | nil => exact ⟨fun h => ⟨trivial, h⟩, fun h => h.2⟩
  | cons e es ih => simp only [List.cons_append, Admits, List.foldl_cons, ih, and_assoc]

/-- The program that is left at the end of a stretch is over and ended in `Q`, or it waits and
goes on to conform whatever it is answered and the others did. -/
def Rests (Q : α → γ → Floor → Prop) (x : γ) (f : Floor) : Program Station α → Prop
  | .done a => Q a x f
  | .call op next => ∀ answer f', C.rely x f f' →
      (next answer).Conforms C Q (C.note x (.wakes op answer f')) f'

end Conduct

/-- **A stretch of a program that conforms does what the conduct promises**, and leaves a program
that goes on to do so. -/
theorem Stretch.conforms {C : Conduct γ} {Q : α → γ → Floor → Prop} {p q : Program Station α}
    {f f' : Floor} {es : List Event} (h : Stretch p f es f' q) {x : γ} (hp : p.Conforms C Q x f) :
    C.Admits x es ∧ C.Rests Q (es.foldl C.note x) f' q := by
  induction h generalizing x with
  | ends a f => exact ⟨trivial, hp⟩
  | @waits op next f hs =>
    obtain ⟨hm, hn⟩ := hp
    simp only [hs, ↓reduceIte] at hn
    refine ⟨⟨fun o ho => ?_, trivial⟩, fun answer f' hr => hn answer f' hr⟩
    cases ho
    exact hm
  | @does op next f f' es q hs suggested _ ih =>
    obtain ⟨hm, hn⟩ := hp
    simp only [hs, Bool.false_eq_true, ↓reduceIte] at hn
    obtain ⟨ha, hr⟩ := ih (hn suggested)
    refine ⟨⟨fun o ho => ?_, ha⟩, hr⟩
    cases ho
    exact hm

end FlashStation
