/-
# The talk of a program

What a program asks for and what comes back is its talk: the operations that it performs, each with
its answer. A program comes to one value for each talk that it can have, and with a handler it has
exactly one talk. The talk of one program after another is the talks of both, one after the other.

Key definitions: `Exchange`, `Program.Yields`, `Program.Asks`, `Program.talk`, `Program.Answers`.
Key theorems: `Program.yields_run`, `Program.Yields.run`, `Program.Yields.bind_inv`,
`Program.Yields.bind`.
-/
import FlashStation.Proofs.Program

namespace FlashStation

/-- An operation that a program performed, and the answer it got. -/
structure Exchange (S : Signature) where
  /-- The operation. -/
  op : S.Op
  /-- The answer. -/
  answer : S.Answer op

namespace Program

variable {S T : Signature} {α β σ : Type}

/-- The program comes to a value if its operations are answered like that. -/
inductive Yields : Program S α → List (Exchange S) → α → Prop where
  | done (a : α) : Yields (.done a) [] a
  | call {op : S.Op} {next : S.Answer op → Program S α} {talk : List (Exchange S)} {a : α}
      (answer : S.Answer op) (rest : Yields (next answer) talk a) :
      Yields (.call op next) (⟨op, answer⟩ :: talk) a

/-- The program is not done yet if its operations are answered like that: it performs another. -/
inductive Asks : Program S α → List (Exchange S) → Prop where
  | next (op : S.Op) (next : S.Answer op → Program S α) : Asks (.call op next) []
  | call {op : S.Op} {next : S.Answer op → Program S α} {talk : List (Exchange S)}
      (answer : S.Answer op) (rest : Asks (next answer) talk) :
      Asks (.call op next) (⟨op, answer⟩ :: talk)

/-- What a program asks a handler for, and what it is answered. -/
def talk (handler : (op : S.Op) → σ → S.Answer op × σ) : Program S α → σ → List (Exchange S)
  | .done _, _ => []
  | .call op next, s =>
    let (answer, s) := handler op s
    ⟨op, answer⟩ :: talk handler (next answer) s

/-- A handler gives these answers, one after the other. -/
def Answers (handler : (op : S.Op) → σ → S.Answer op × σ) : σ → List (Exchange S) → Prop
  | _, [] => True
  | s, e :: talk => e.answer = (handler e.op s).1 ∧ Answers handler (handler e.op s).2 talk

variable {p : Program S α} {handler : (op : S.Op) → σ → S.Answer op × σ} {talk : List (Exchange S)}

theorem yields_run (handler : (op : S.Op) → σ → S.Answer op × σ) (p : Program S α) (s : σ) :
    p.Yields (p.talk handler s) (p.run handler s).1 := by
  induction p generalizing s with
  | done a => exact .done a
  | call op next ih => exact .call _ (ih _ _)

/-- With these answers, running the program comes to the same value. -/
theorem Yields.run {a : α} (h : p.Yields talk a) {s : σ} (ha : Answers handler s talk) :
    (p.run handler s).1 = a := by
  induction h generalizing s with
  | done a => rfl
  | call answer _ ih =>
    obtain ⟨same, rest⟩ := ha
    simp only at same rest
    subst same
    exact ih rest

/-- A program that is not done yet has only had a part of its talk with a handler. -/
theorem Asks.more (h : p.Asks talk) {s : σ} (ha : Answers handler s talk) :
    ∃ e rest, p.talk handler s = talk ++ e :: rest := by
  induction h generalizing s with
  | next op next => exact ⟨_, _, rfl⟩
  | call answer _ ih =>
    obtain ⟨same, later⟩ := ha
    simp only at same later
    subst same
    obtain ⟨e, rest, split⟩ := ih later
    exact ⟨e, rest, congrArg (List.cons _) split⟩

theorem Yields.bind_inv {k : α → Program S β} {b : β} (h : (p.bind k).Yields talk b) :
    ∃ a before after, talk = before ++ after ∧ p.Yields before a ∧ (k a).Yields after b := by
  induction p generalizing talk with
  | done a => exact ⟨a, [], talk, rfl, .done a, h⟩
  | call op next ih =>
    cases h with
    | call answer rest =>
      obtain ⟨a, before, after, rfl, first, second⟩ := ih answer rest
      exact ⟨a, ⟨op, answer⟩ :: before, after, rfl, .call answer first, second⟩

/-- The talk of a program goes on with the talk of what follows. -/
theorem Yields.bind {k : α → Program S β} {after : List (Exchange S)} {a : α} {b : β}
    (first : p.Yields talk a) (second : (k a).Yields after b) :
    (p.bind k).Yields (talk ++ after) b := by
  induction first with
  | done a => exact second
  | call answer _ ih => exact .call answer (ih second)

theorem Yields.call_inv (op : S.Op) {next : S.Answer op → Program S α} {a : α}
    (h : (.call op next : Program S α).Yields talk a) :
    ∃ answer rest, talk = ⟨op, answer⟩ :: rest ∧ (next answer).Yields rest a := by
  cases h with
  | call answer rest => exact ⟨answer, _, rfl, rest⟩

/-- An operation is answered, and the program goes on from there. -/
theorem Yields.asked (op : S.Op) {next : S.Answer op → Program S α} {a : α} (answer : S.Answer op)
    (rest : (next answer).Yields talk a) :
    (.call op next : Program S α).Yields (⟨op, answer⟩ :: talk) a :=
  .call answer rest

theorem Yields.done_inv {a b : α} (h : (.done a : Program S α).Yields talk b) :
    talk = [] ∧ b = a := by
  cases h
  exact ⟨rfl, rfl⟩

/-- All operations of a talk are among those that the program may perform. -/
theorem Yields.uses {H : S.Op → Prop} {a : α} (h : p.Yields talk a) (hp : p.Uses H) :
    ∀ e ∈ talk, H e.op := by
  induction h with
  | done a => exact List.forall_mem_nil _
  | call answer _ ih => exact List.forall_mem_cons.mpr ⟨hp.1, ih (hp.2 answer)⟩

/-- What becomes of a program's value afterwards adds nothing to the talk. -/
theorem Yields.map_inv {f : α → β} {b : β} (h : (p.bind fun a => .done (f a)).Yields talk b) :
    ∃ a, p.Yields talk a ∧ b = f a := by
  obtain ⟨a, before, after, rfl, first, second⟩ := h.bind_inv
  obtain ⟨rfl, rfl⟩ := second.done_inv
  exact ⟨a, by rwa [List.append_nil], rfl⟩

end Program

end FlashStation
