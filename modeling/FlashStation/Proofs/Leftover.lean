/-
# What a late call has still to do

A late call performs inert operations only, and of the record it learns no more than whether a
generation is its own. So the floor stays as it is while it runs, and what it can come to do
depends on the floor only through the generation.

Key definitions: `Program.Quiet`, `Program.CanIn`, `Call.Can`.
Key theorems: `Program.Conforms.quiet`, `Program.Quiet.canIn`, `Stretch.spared`,
`Program.Quiet.stretch`, `Call.Can.move`.
-/
import FlashStation.Proofs.Moves

namespace FlashStation

open Station

variable {α : Type} {H : StationOp → Prop} {f f' : Floor} {p q : Program Station α} {n : Nat}

namespace StationOp

variable {op : StationOp}

/-- An inert operation learns no more of the floor than the generation. -/
theorem Inert.answer (h : op.Inert) (answer : op.Answer)
    (hg : f'.desk.generation = f.desk.generation) :
    (op.settle answer f').1 = (op.settle answer f).1 := by
  cases op with
  | current generation =>
    show (f'.desk.generation == generation) = (f.desk.generation == generation)
    rw [hg]
  | _ => first | rfl | cases h

theorem settle_suspends (h : op.suspends = true) (answer : op.Answer) (f : Floor) :
    op.settle answer f = (answer, f) := by
  cases op <;> first | rfl | cases h

end StationOp

namespace Program

/-- Whether a program performs inert operations only, on a floor that stays. -/
def Quiet (f : Floor) : Program Station α → Prop
  | .done _ => True
  | .call op next => op.Inert ∧ ∀ answer, (next (op.settle answer f).1).Quiet f

/-- Whether a program can come to perform an operation in `H` after `n` others, on a floor that
stays. -/
def CanIn (H : StationOp → Prop) (f : Floor) : Nat → Program Station α → Prop
  | _, .done _ => False
  | 0, .call op _ => H op
  | n + 1, .call op next => ∃ answer, (next (op.settle answer f).1).CanIn H f n

/-- Whether a program can come to perform an operation in `H` at all. -/
def Can (H : StationOp → Prop) (f : Floor) (p : Program Station α) : Prop := ∃ n, p.CanIn H f n

/-- With a fixed answer to each operation it can be computed. -/
def meets (answer : (op : StationOp) → op.Answer) (H : StationOp → Bool) (f : Floor) :
    Nat → Program Station α → Bool
  | _, .done _ => false
  | 0, .call op _ => H op
  | n + 1, .call op next => (next (op.settle (answer op) f).1).meets answer H f n

theorem canIn_of_meets {answer : (op : StationOp) → op.Answer} {H : StationOp → Bool}
    (h : p.meets answer H f n = true) : p.CanIn (fun op => H op = true) f n := by
  induction p generalizing n with
  | done a => cases n <;> cases h
  | call op next ih =>
    cases n with
    | zero => exact h
    | succ n => exact ⟨answer op, ih _ h⟩

theorem Conforms.quiet {tag : Option Nat} {closing : Desk → Desk → Prop}
    {Q : α → Floor → Floor → Prop} (hp : p.Conforms (Manners tag closing) Q f f)
    (late : Late tag f.desk) : p.Quiet f := by
  induction p with
  | done a => trivial
  | call op next ih =>
    have inert : op.Inert := hp.1.inert late
    refine ⟨inert, fun answer => ih _ ?_⟩
    have rest := hp.2
    cases hs : op.suspends with
    | true =>
      -- the others may also have done nothing
      rw [if_pos hs] at rest
      exact rest _ f (.refl _ _)
    | false =>
      rw [if_neg (by simp [hs])] at rest
      have go := rest answer
      rw [inert.settle] at go
      exact go

theorem Quiet.canIn (h : p.Quiet f) (hg : f'.desk.generation = f.desk.generation)
    (can : p.CanIn H f' n) : p.CanIn H f n := by
  induction p generalizing n with
  | done a => cases n <;> cases can
  | call op next ih =>
    cases n with
    | zero => exact can
    | succ n =>
      obtain ⟨answer, can⟩ := can
      rw [h.1.answer answer hg] at can
      exact ⟨answer, ih _ (h.2 answer) can⟩

/-- A quiet program that can come to perform an operation in `H` does so in its next stretch, or
it comes nearer to it. -/
theorem Quiet.stretch (h : p.Quiet f) (can : p.CanIn H f n) :
    ∃ es f' q, Stretch p f es f' q ∧ ((∃ e ∈ es, ∃ op, e.performed = some op ∧ H op) ∨
      ∃ op next answer m, q = .call op next ∧ m < n ∧ (next answer).CanIn H f m) := by
  induction p generalizing n with
  | done a => cases n <;> cases can
  | call op next ih =>
    cases hs : op.suspends with
    | true =>
      refine ⟨_, _, _, .waits hs, ?_⟩
      cases n with
      | zero => exact .inl ⟨_, .head _, op, rfl, can⟩
      | succ n =>
        obtain ⟨answer, can⟩ := can
        exact .inr ⟨op, next, _, n, rfl, Nat.lt_succ_self n, can⟩
    | false =>
      cases n with
      | zero =>
        -- it is performed now, and the stretch may end as it likes
        have rest := Stretch.advance (obliging default .closed)
          (next (op.settle (obliging default .closed op) f).1)
          (op.settle (obliging default .closed op) f).2
        exact ⟨_, _, _, .does hs _ rest, .inl ⟨_, .head _, op, rfl, can⟩⟩
      | succ n =>
        obtain ⟨answer, can⟩ := can
        obtain ⟨es, f', q, rest, found⟩ := ih _ (h.2 answer) can
        have rest' : Stretch (next (op.settle answer f).1) (op.settle answer f).2 es f' q := by
          rw [h.1.settle]
          exact rest
        refine ⟨_, f', q, .does hs answer rest', ?_⟩
        rcases found with ⟨e, he, found⟩ | ⟨op, next, answer, m, hq, hm, can⟩
        · exact .inl ⟨e, .tail _ he, found⟩
        · exact .inr ⟨op, next, answer, m, hq, Nat.lt_succ_of_lt hm, can⟩

end Program

/-- A stretch of a quiet program that cannot come to perform an operation in `H` performs none,
and leaves a program that cannot either. -/
theorem Stretch.spared {es : List Event} (h : Stretch p f es f' q) (quiet : p.Quiet f)
    (spared : ¬ p.Can H f) :
    (∀ e ∈ es, ∀ op, e.performed = some op → ¬ H op) ∧
      ∀ op next answer, q = .call op next → ¬ (next answer).Can H f := by
  induction h with
  | ends a f => exact ⟨List.forall_mem_nil _, fun _ _ _ e => by cases e⟩
  | @waits op next f hs =>
    refine ⟨List.forall_mem_singleton.mpr ?_, ?_⟩
    · rintro _ ⟨⟩ ho
      exact spared ⟨0, ho⟩
    · rintro _ _ answer ⟨⟩ ⟨n, can⟩
      refine spared ⟨n + 1, answer, ?_⟩
      rw [op.settle_suspends hs]
      exact can
  | @does op next f f' es q hs suggested rest ih =>
    have still : (op.settle suggested f).2 = f := quiet.1.settle suggested f
    have after : ¬ (next (op.settle suggested f).1).Can H f :=
      fun ⟨n, can⟩ => spared ⟨n + 1, suggested, can⟩
    rw [still] at ih
    obtain ⟨here, later⟩ := ih (quiet.2 suggested) after
    refine ⟨List.forall_mem_cons.mpr ⟨?_, here⟩, later⟩
    rintro _ ⟨⟩ ho
    exact spared ⟨0, ho⟩

namespace Call

variable {config : Config} {c : Call}

/-- Whether a call that waits can still come to perform an operation in `H` once it is answered. -/
def Can (H : StationOp → Prop) (f : Floor) (c : Call) : Prop :=
  ∃ (op : StationOp) (next : op.Answer → Program Station Result) (answer : op.Answer),
    c.rest = .call op next ∧ (next answer).Can H f

/-- With a fixed answer to each operation it can be computed. -/
def meets (answer : (op : StationOp) → op.Answer) (H : StationOp → Bool) (f : Floor) (n : Nat)
    (c : Call) : Bool :=
  match c.rest with
  | .done _ => false
  | .call op next => (next (answer op)).meets answer H f n

theorem can_of_meets {answer : (op : StationOp) → op.Answer} {H : StationOp → Bool}
    (h : c.meets answer H f n = true) : c.Can (fun op => H op = true) f := by
  unfold meets at h
  split at h
  · cases h
  · rename_i op next hr
    exact ⟨op, next, answer op, hr, n, Program.canIn_of_meets h⟩

theorem Waits.quiet (h : c.Waits config f) (late : Late c.tag f.desk) {op : StationOp}
    {next : op.Answer → Program Station Result} (hr : c.rest = .call op next) (answer : op.Answer) :
    (next answer).Quiet f := by
  have rests := h.rests
  rw [hr] at rests
  exact (rests answer f (.refl _ _)).quiet late

/-- What a late call can come to do depends on the floor only through the generation. -/
theorem Can.move (can : c.Can H f') (h : c.Waits config f) (late : Late c.tag f.desk)
    (hg : f'.desk.generation = f.desk.generation) : c.Can H f := by
  obtain ⟨op, next, answer, hr, n, can⟩ := can
  exact ⟨op, next, answer, hr, n, (h.quiet late hr answer).canIn hg can⟩

end Call

end FlashStation
