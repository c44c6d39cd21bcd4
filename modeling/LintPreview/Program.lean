/-!
Programs that ask their surroundings.

* `Program A R α`: a program that asks acts of type `A`, an act `a` being answered with an `R a`, and ends with an `α`.
* `Program.run`: the run of a program in surroundings that answer each act from a state.

A program says what is asked and in which order; whoever runs it decides what the answers are. So one program can be
run against a tree of files, against a script, or step by step beside other programs.
-/

namespace LintPreview

/-- A program that asks acts, each with a continuation for every reply, and ends with a result. -/
inductive Program (A : Type) (R : A → Type) (α : Type) where
  | done (result : α)
  | ask (act : A) (next : R act → Program A R α)

namespace Program

variable {A : Type} {R : A → Type} {α β σ : Type}

/-- The program that asks one act and ends with its reply. -/
def perform (act : A) : Program A R (R act) := .ask act .done

/-- The program that goes on with the result of another one. -/
def bind : Program A R α → (α → Program A R β) → Program A R β
  | .done a, f => f a
  | .ask act next, f => .ask act fun reply => (next reply).bind f

instance : Monad (Program A R) where
  pure := .done
  bind := bind

@[simp] theorem pure_eq_done (a : α) : (pure a : Program A R α) = .done a := rfl

@[simp] theorem bind_done (a : α) (f : α → Program A R β) : (Program.done a >>= f) = f a := rfl

@[simp] theorem bind_ask (act : A) (next : R act → Program A R α) (f : α → Program A R β) :
    (Program.ask act next >>= f) = .ask act fun reply => next reply >>= f := rfl

theorem bind_pure (p : Program A R α) : (p >>= pure) = p := by
  induction p with
  | done a => rfl
  | ask act next ih => simp only [bind_ask]; congr; funext reply; exact ih reply

theorem bind_assoc {γ : Type} (p : Program A R α) (f : α → Program A R β) (g : β → Program A R γ) :
    (p >>= f >>= g) = p >>= fun a => f a >>= g := by
  induction p with
  | done a => rfl
  | ask act next ih => simp only [bind_ask]; congr; funext reply; exact ih reply

/-- The run of a program in surroundings that answer an act from a state. -/
def run (answer : (act : A) → σ → R act × σ) : Program A R α → σ → α × σ
  | .done a, s => (a, s)
  | .ask act next, s => (next (answer act s).1).run answer (answer act s).2

@[simp] theorem run_done (answer : (act : A) → σ → R act × σ) (a : α) (s : σ) :
    (Program.done a).run answer s = (a, s) := rfl

theorem run_bind (answer : (act : A) → σ → R act × σ) (p : Program A R α) (f : α → Program A R β) (s : σ) :
    (p >>= f).run answer s = (f (p.run answer s).1).run answer (p.run answer s).2 := by
  induction p generalizing s with
  | done a => rfl
  | ask act next ih => exact ih _ _

end Program

end LintPreview
