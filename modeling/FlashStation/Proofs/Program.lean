/-
# Laws of programs

A program after another is a program with longer branches, and the order in which three are put
together does not matter. A program uses a set of operations if it performs no other, whatever
the answers are; that is kept by all ways to put programs together.

Key definitions: `Program.Uses`.
Key theorems: `Program.bind_assoc`, `Program.run_bind`, `Program.Uses.bind`, `Program.Uses.embed`,
`Program.Uses.each`.
-/
import FlashStation.Program

namespace FlashStation.Program

variable {S T : Signature} {α β γ σ : Type}

theorem bind_def (p : Program S α) (k : α → Program S β) : (p >>= k) = p.bind k := rfl

theorem pure_def (a : α) : (pure a : Program S α) = .done a := rfl

@[simp] theorem done_bind (a : α) (k : α → Program S β) : (done a : Program S α).bind k = k a := rfl

@[simp] theorem call_bind (op : S.Op) (next : S.Answer op → Program S α) (k : α → Program S β) :
    (call op next).bind k = .call op fun answer => (next answer).bind k := rfl

theorem bind_assoc (p : Program S α) (k : α → Program S β) (l : β → Program S γ) :
    (p.bind k).bind l = p.bind fun a => (k a).bind l := by
  induction p with
  | done a => rfl
  | call op next ih => simp only [call_bind, ih]

/-- One program after another runs on from where the first has left the handler. -/
theorem run_bind (handler : (op : S.Op) → σ → S.Answer op × σ) (p : Program S α)
    (k : α → Program S β) (s : σ) :
    (p.bind k).run handler s = (k (p.run handler s).1).run handler (p.run handler s).2 := by
  induction p generalizing s with
  | done a => rfl
  | call op next ih => exact ih _ _

/-- A program over a larger signature runs as if each operation were served by its program. -/
theorem run_embed (handler : (op : T.Op) → σ → T.Answer op × σ)
    (f : (op : S.Op) → Program T (S.Answer op)) (p : Program S α) (s : σ) :
    (p.embed f).run handler s = p.run (fun op s => (f op).run handler s) s := by
  induction p generalizing s with
  | done a => rfl
  | call op next ih =>
    rw [embed, run_bind, ih]
    rfl

/-- Every operation that the program may perform is in `H`, whatever the answers are. -/
def Uses (H : S.Op → Prop) : Program S α → Prop
  | .done _ => True
  | .call op next => H op ∧ ∀ answer, (next answer).Uses H

namespace Uses

variable {H : S.Op → Prop} {p : Program S α}

theorem perform {op : S.Op} (h : H op) : (Program.perform op : Program S _).Uses H :=
  ⟨h, fun _ => trivial⟩

theorem bind {k : α → Program S β} (hp : p.Uses H) (hk : ∀ a, (k a).Uses H) :
    (p.bind k).Uses H := by
  induction p with
  | done a => exact hk a
  | call op next ih => exact ⟨hp.1, fun answer => ih answer (hp.2 answer)⟩

theorem mono {H' : S.Op → Prop} (hp : p.Uses H) (h : ∀ op, H op → H' op) : p.Uses H' := by
  induction p with
  | done a => trivial
  | call op next ih => exact ⟨h op hp.1, fun answer => ih answer (hp.2 answer)⟩

/-- Where a program stands in for each operation, it is enough that these programs keep to `H`. -/
theorem embed {G : T.Op → Prop} {f : (op : S.Op) → Program T (S.Answer op)} (hp : p.Uses H)
    (hf : ∀ op, H op → (f op).Uses G) : (p.embed f).Uses G := by
  induction p with
  | done a => trivial
  | call op next ih => exact (hf op hp.1).bind fun answer => ih answer (hp.2 answer)

theorem each {f : α → Program S Unit} {items : List α} (hf : ∀ a ∈ items, (f a).Uses H) :
    (Program.each f items).Uses H := by
  induction items with
  | nil => trivial
  | cons a rest ih =>
    rw [List.forall_mem_cons] at hf
    exact hf.1.bind fun _ => ih hf.2

end Uses

/-- No constraint on the operations. -/
theorem uses_true (p : Program S α) : p.Uses fun _ => True := by
  induction p with
  | done a => trivial
  | call op next ih => exact ⟨trivial, ih⟩

end FlashStation.Program
