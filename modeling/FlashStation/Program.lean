/-
# Programs that act through operations

A program is a tree: it is done and has a value, or it performs an operation
and goes on with the answer. What an operation does is not part of the program;
a handler says it. So one program can be run on devices, on scripted ones, or
in steps between which other programs run.

Key definitions: `Signature`, `Program`, `Program.run`, `Program.embed`,
`Program.weave`.
-/
namespace FlashStation

/-- The operations that programs may perform, with the type of each answer. -/
structure Signature where
  /-- The operations. -/
  Op : Type
  /-- What an operation answers. -/
  Answer : Op → Type

/-- A program over a signature, with a value of type `α` at its end. -/
inductive Program (S : Signature) (α : Type) where
  /-- The program is done. -/
  | done (value : α)
  /-- The program performs an operation and goes on with its answer. -/
  | call (op : S.Op) (next : S.Answer op → Program S α)

namespace Program

variable {S T : Signature} {α β σ : Type}

/-- One program after another. -/
def bind : Program S α → (α → Program S β) → Program S β
  | .done a, k => k a
  | .call op next, k => .call op fun answer => bind (next answer) k

instance : Monad (Program S) where
  pure := .done
  bind := bind

/-- The program that performs one operation. -/
def perform (op : S.Op) : Program S (S.Answer op) :=
  .call op .done

/-- Runs a program with a handler that changes a state. -/
def run (handler : (op : S.Op) → σ → S.Answer op × σ) : Program S α → σ → α × σ
  | .done a, s => (a, s)
  | .call op next, s =>
    let (answer, s) := handler op s
    run handler (next answer) s

/-- Runs a program with a handler that acts. -/
def interpret [Monad m] (handler : (op : S.Op) → m (S.Answer op)) : Program S α → m α
  | .done a => pure a
  | .call op next => do interpret handler (next (← handler op))

/-- A program over a larger signature: each operation becomes a program there. -/
def embed (f : (op : S.Op) → Program T (S.Answer op)) : Program S α → Program T α
  | .done a => .done a
  | .call op next => (f op).bind fun answer => embed f (next answer)

/-- A program over another signature that carries a state along: each operation
becomes a program there, which may change the state. -/
def weave (f : (op : S.Op) → σ → Program T (S.Answer op × σ)) :
    Program S α → σ → Program T (α × σ)
  | .done a, s => .done (a, s)
  | .call op next, s => (f op s).bind fun r => weave f (next r.1) r.2

/-- Performs an action for each item of a list, in order. -/
def each (f : α → Program S Unit) : List α → Program S Unit
  | [] => .done ()
  | a :: rest => (f a).bind fun _ => each f rest

end Program

end FlashStation
