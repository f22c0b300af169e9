/-!
# Plans

A plan is what is done with a world that is known only by its answers: it is done and has a result, or
it asks a question and goes on as the answer tells (`Plan`).  Which questions there are, and what
answers they may get, is given by a family `A` of types.

* `Plan.run` puts the questions to a world with a state of its own,
* `Plan.together` lets two plans take turns, by any list of turns.
-/

namespace SnippetStudio

inductive Plan {Q : Type} (A : Q → Type) (α : Type) : Type where
  | done (a : α)
  | ask (q : Q) (next : A q → Plan A α)

namespace Plan

variable {Q : Type} {A : Q → Type} {α β γ σ : Type}

def bind : Plan A α → (α → Plan A β) → Plan A β
  | done a, f => f a
  | ask q next, f => ask q fun x => (next x).bind f

instance : Monad (Plan A) where
  pure := done
  bind := bind

@[simp] theorem pure_eq (a : α) : (pure a : Plan A α) = done a := rfl

@[simp] theorem done_bind (a : α) (f : α → Plan A β) : (done a : Plan A α) >>= f = f a := rfl

@[simp] theorem ask_bind (q : Q) (next : A q → Plan A α) (f : α → Plan A β) :
    ask q next >>= f = ask q fun x => next x >>= f := rfl

theorem bind_assoc (p : Plan A α) (f : α → Plan A β) (g : β → Plan A γ) :
    (p >>= f) >>= g = p >>= fun a => f a >>= g := by
  induction p with
  | done a => rfl
  | ask q next ih => simp [ih]

/-- one question, with its answer as the result -/
def question (q : Q) : Plan A (A q) := ask q done

/-- a world with states in `σ` that answers every question -/
abbrev World (A : Q → Type) (σ : Type) := (q : Q) → σ → A q × σ

def run (w : World A σ) : Plan A α → σ → α × σ
  | done a, s => (a, s)
  | ask q next, s => (next (w q s).1).run w (w q s).2

theorem run_bind (w : World A σ) (p : Plan A α) (f : α → Plan A β) (s : σ) :
    (p >>= f).run w s = (f (p.run w s).1).run w (p.run w s).2 := by
  induction p generalizing s with
  | done a => rfl
  | ask q next ih => exact ih _ _

/-- two plans under way at once: a list of turns says which of the two goes on, `true` for the
first; when the turns are over, or one of the two is done, they go on one after the other -/
def together : List Bool → Plan A α → Plan A β → Plan A (α × β)
  | true :: turns, ask q next, p => ask q fun x => together turns (next x) p
  | false :: turns, p, ask q next => ask q fun x => together turns p (next x)
  | _, p, p' => do
    let a ← p
    let b ← p'
    return (a, b)

end Plan

end SnippetStudio
