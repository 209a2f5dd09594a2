import ModerationGateway.Moderation.Verdict

/-!
# Computations that consult a checker

Moderation is written without knowing who answers. A consultation is a computation that now and
then puts a question and goes on with the verdict; whoever runs it supplies the judge.

* `Consult`, `Consult.ask`: the computations, with their monad laws;
* `Judge`, `Consult.run`: a judge with a state of its own, and a run against one.
-/

namespace ModerationGateway.Moderation

/-- A computation that puts questions to a checker. -/
inductive Consult (α : Type) where
  | done (a : α)
  | ask (q : Question) (next : Verdict → Consult α)

namespace Consult

variable {α β γ σ : Type}

/-- Go on with the result. -/
def bind : Consult α → (α → Consult β) → Consult β
  | done a, f => f a
  | ask q next, f => ask q fun v => (next v).bind f

instance : Monad Consult where
  pure := done
  bind := bind

/-- Put one question. -/
def question (q : Question) : Consult Verdict := ask q done

@[simp] theorem pure_eq (a : α) : (pure a : Consult α) = done a := rfl
@[simp] theorem done_bind (a : α) (f : α → Consult β) : (done a >>= f) = f a := rfl

@[simp] theorem ask_bind (q : Question) (next : Verdict → Consult α) (f : α → Consult β) :
    (ask q next >>= f) = ask q fun v => next v >>= f := rfl

@[simp] theorem bind_done (m : Consult α) : (m >>= done) = m := by
  induction m with
  | done a => rfl
  | ask q next ih => simp [ih]

theorem bind_assoc (m : Consult α) (f : α → Consult β) (g : β → Consult γ) :
    (m >>= f) >>= g = m >>= fun a => f a >>= g := by
  induction m with
  | done a => rfl
  | ask q next ih => simp [ih]

/-- Whoever answers, with a state of its own. -/
abbrev Judge (σ : Type) := σ → Question → Verdict × σ

/-- Run a computation against a judge. -/
def run (judge : Judge σ) : Consult α → σ → α × σ
  | done a, s => (a, s)
  | ask q next, s =>
    let (v, s) := judge s q
    (next v).run judge s

@[simp] theorem run_done (judge : Judge σ) (a : α) (s : σ) : (done a).run judge s = (a, s) := rfl

theorem run_ask (judge : Judge σ) (q : Question) (next : Verdict → Consult α) (s : σ) :
    (ask q next).run judge s = (next (judge s q).1).run judge (judge s q).2 := rfl

theorem run_bind (judge : Judge σ) (m : Consult α) (f : α → Consult β) (s : σ) :
    (m >>= f).run judge s = (f (m.run judge s).1).run judge (m.run judge s).2 := by
  induction m generalizing s with
  | done a => rfl
  | ask q next ih => simp [run_ask, ih]

end Consult

end ModerationGateway.Moderation
