import SnippetStudio.Errand.Basic

/-!
# The trace of an errand

What an errand asks, with the answers that it gets, one after the other (`Plan.trace`).  What can be said of
the trace and the result for all answers that may be given is read off the errand step by step
(`Errand.Gives`), and holds in every world that answers so.  A step that only asks questions of some kind
(`Errand.Asks`) has a trace of such questions.

* `trace_bind`      the trace of two errands, one after the other;
* `follows_shares`  of two plans that take turns, each comes to its result by its own share of the trace;
* `gives_bind`      what holds of the two;
* `Gives.run`       **what is read off an errand holds in every world that answers as it may**;
* `Yields`          what an attempt gives if it does not fail;
* `gives_together`  errands that take turns have their two traces, shuffled.
-/

namespace SnippetStudio

variable {τ α β σ : Type}

namespace Plan

variable {Q : Type} {A : Q → Type}

/-- the questions of a plan with the answers that a world gives -/
def trace (w : World A σ) : Plan A α → σ → List ((q : Q) × A q)
  | done _, _ => []
  | ask q next, s => ⟨q, (w q s).1⟩ :: (next (w q s).1).trace w (w q s).2

theorem trace_bind (w : World A σ) (p : Plan A α) (f : α → Plan A β) (s : σ) :
    (p >>= f).trace w s = p.trace w s ++ (f (p.run w s).1).trace w (p.run w s).2 := by
  induction p generalizing s with
  | done a => rfl
  | ask q next ih => exact congrArg (_ :: ·) (ih _ _)

/-! ## Two plans that take turns -/

/-- a plan that gets these answers to its questions comes to this result -/
inductive Follows : Plan A α → List ((q : Q) × A q) → α → Prop
  | done (a : α) : Follows (.done a) [] a
  | ask {q : Q} {next : A q → Plan A α} {x : A q} {t : List ((q : Q) × A q)} {a : α}
    (rest : Follows (next x) t a) : Follows (.ask q next) (⟨q, x⟩ :: t) a

theorem Follows.unique {p : Plan A α} {t : List ((q : Q) × A q)} {a a' : α} (h : p.Follows t a)
    (h' : p.Follows t a') : a = a' := by
  induction h with
  | done a =>
    cases h'
    rfl
  | ask _ ih =>
    cases h' with
    | ask rest' => exact ih rest'

theorem follows_trace (w : World A σ) (p : Plan A α) (s : σ) : p.Follows (p.trace w s) (p.run w s).1 := by
  induction p generalizing s with
  | done a => exact .done a
  | ask q next ih => exact .ask (ih _ _)

/-- what each of two plans that take turns asks, with the answers that it gets -/
def shares (w : World A σ) : List Bool → Plan A α → Plan A β → σ →
    List ((q : Q) × A q) × List ((q : Q) × A q)
  | true :: turns, ask q next, p, s =>
    (shares w turns (next (w q s).1) p (w q s).2).map (⟨q, (w q s).1⟩ :: ·) id
  | false :: turns, p, ask q next, s =>
    (shares w turns p (next (w q s).1) (w q s).2).map id (⟨q, (w q s).1⟩ :: ·)
  | _, p, p', s => (p.trace w s, p'.trace w (p.run w s).2)

section

variable {w : World A σ} {turns : List Bool} {p : Plan A α} {p' : Plan A β} {s : σ}

/-- each of the two comes to its result by its own share -/
theorem follows_shares : p.Follows (shares w turns p p' s).1 ((together turns p p').run w s).1.1 ∧
    p'.Follows (shares w turns p p' s).2 ((together turns p p').run w s).1.2 := by
  fun_induction shares w turns p p' s with
  | case1 turns q next p' s ih => exact ih.imp_left .ask
  | case2 turns p q next s ih =>
    rw [together]
    exact ih.imp_right .ask
  | case3 turns p p' s h h' =>
    rw [together.eq_3 _ _ _ h h', run_bind, run_bind]
    exact ⟨follows_trace w p s, follows_trace w p' _⟩

end

end Plan

/-! ## What can be said of an errand -/

/-- a question with its answer -/
abbrev Exchange (τ : Type) := (q : Query τ) × q.Answer

/-- the answers that a world gives in one state or other -/
def Query.answers (w : Plan.World (@Query.Answer τ) σ) (q : Query τ) (x : q.Answer) : Prop :=
  ∃ s, (w q s).1 = x

namespace Errand

variable {may : (q : Query τ) → q.Answer → Prop} {p : Errand τ α} {f : α → Errand τ β}

/-- whatever the answers are, of those that may be given, trace and result are as said -/
def Gives (may : (q : Query τ) → q.Answer → Prop) :
    Errand τ α → (List (Exchange τ) → α → Prop) → Prop
  | .done a, P => P [] a
  | .ask q next, P => ∀ x, may q x → Gives may (next x) fun h a => P (⟨q, x⟩ :: h) a

section

variable {P P' : List (Exchange τ) → α → Prop} {R : List (Exchange τ) → β → Prop}

theorem gives_bind : (p >>= f).Gives may R ↔
    p.Gives may fun h a => (f a).Gives may fun h' b => R (h ++ h') b := by
  induction p generalizing R with
  | done a => rfl
  | ask q next ih => exact forall_congr' fun x => imp_congr_right fun _ => ih x

theorem Gives.imp (hp : p.Gives may P) (h : ∀ t a, P t a → P' t a) : p.Gives may P' := by
  induction p generalizing P P' with
  | done a => exact h _ _ hp
  | ask q next ih => exact fun x hx => ih x (hp x hx) fun t a => h _ _

theorem Gives.and (hp : p.Gives may P) (hp' : p.Gives may P') : p.Gives may fun t a => P t a ∧ P' t a := by
  induction p generalizing P P' with
  | done a => exact ⟨hp, hp'⟩
  | ask q next ih => exact fun x hx => ih x (hp x hx) (hp' x hx)

theorem gives_any : p.Gives may fun _ _ => True := by
  induction p with
  | done a => trivial
  | ask q next ih => exact fun x _ => ih x

theorem Gives.run {w : Plan.World (@Query.Answer τ) σ} (hp : p.Gives (Query.answers w) P) (s : σ) :
    P (p.trace w s) (p.run w s).1 := by
  induction p generalizing P s with
  | done a => exact hp
  | ask q next ih => exact ih _ (hp _ ⟨s, rfl⟩) _

end

/-! ## Errands that only ask questions of some kind -/

/-- an errand that only asks such questions -/
inductive Asks (ok : Query τ → Prop) : Errand τ α → Prop
  | done (a : α) : Asks ok (.done a)
  | ask {q : Query τ} {next : q.Answer → Errand τ α} (may : ok q)
      (rest : ∀ x, Asks ok (next x)) : Asks ok (.ask q next)

namespace Asks

variable {ok : Query τ → Prop}

theorem bind (hp : p.Asks ok) (hf : ∀ a, (f a).Asks ok) : Asks ok (p >>= f) := by
  induction hp with
  | done a => exact hf a
  | ask told _ ih => exact .ask told ih

theorem bind_of {P : α → Prop} (hp : p.Asks ok) (hr : p.Gives (fun _ _ => True) fun _ a => P a)
    (hf : ∀ a, P a → (f a).Asks ok) : Asks ok (p >>= f) := by
  induction hp with
  | done a => exact hf a hr
  | ask told _ ih => exact .ask told fun x => ih x (hr x trivial)

theorem ite {c : Prop} {dec : Decidable c} {p p' : Errand τ α} (hp : p.Asks ok) (hp' : p'.Asks ok) :
    Asks ok (if c then p else p') := by
  split
  · exact hp
  · exact hp'

theorem question {q : Query τ} (h : ok q) : Asks ok (Plan.question q) := .ask h fun x => .done x

theorem together {turns : List Bool} {p : Errand τ α} {p' : Errand τ β} (hp : p.Asks ok)
    (hp' : p'.Asks ok) : Asks ok (Plan.together turns p p') := by
  induction turns generalizing p p' with
  | nil => exact hp.bind fun a => hp'.bind fun b => .done _
  | cons turn turns ih =>
    have alone : Asks ok (do
        let a ← p
        let b ← p'
        return (a, b)) := hp.bind fun a => hp'.bind fun b => .done _
    cases turn with
    | true =>
      cases hp with
      | done a => exact alone
      | ask told rest => exact .ask told fun x => ih (rest x) hp'
    | false =>
      cases hp' with
      | done b => cases hp <;> exact alone
      | ask told rest => exact .ask told fun x => ih hp (rest x)

theorem gives {P : List (Exchange τ) → α → Prop} (hp : p.Asks ok)
    (h : ∀ t a, (∀ x ∈ t, ok x.1) → P t a) : p.Gives may P := by
  induction hp generalizing P with
  | done a => exact h [] a fun x hx => absurd hx List.not_mem_nil
  | ask told _ ih =>
    intro x _
    refine ih x fun t a ht => h _ a fun y hy => ?_
    rcases List.mem_cons.mp hy with rfl | hy
    · exact told
    · exact ht y hy

end Asks

/-- both, whoever takes the turns -/
theorem gives_together {turns : List Bool} {p : Errand τ α} {p' : Errand τ β}
    {P : List (Exchange τ) → α → Prop} {P' : List (Exchange τ) → β → Prop} (hp : p.Gives may P)
    (hp' : p'.Gives may P') : Gives may (Plan.together turns p p') fun t ab =>
      ∃ t₁ t₂, t.Perm (t₁ ++ t₂) ∧ P t₁ ab.1 ∧ P' t₂ ab.2 := by
  have alone {p : Errand τ α} {p' : Errand τ β} {P : List (Exchange τ) → α → Prop}
      {P' : List (Exchange τ) → β → Prop} (hp : p.Gives may P) (hp' : p'.Gives may P') :
      Gives may (do
          let a ← p
          let b ← p'
          return (a, b)) fun t ab => ∃ t₁ t₂, t.Perm (t₁ ++ t₂) ∧ P t₁ ab.1 ∧ P' t₂ ab.2 := by
    refine gives_bind.mpr (hp.imp fun t a ha => gives_bind.mpr (hp'.imp fun t' b hb => ?_))
    refine ⟨t, t', ?_, ha, hb⟩
    rw [List.append_nil]
  induction turns generalizing p p' P P' with
  | nil => exact alone hp hp'
  | cons turn turns ih =>
    cases turn with
    | true =>
      cases p with
      | done a => exact alone hp hp'
      | ask q next =>
        refine fun x hx => (ih (hp x hx) hp').imp fun t ab h => ?_
        obtain ⟨t₁, t₂, perm, first, second⟩ := h
        exact ⟨⟨q, x⟩ :: t₁, t₂, perm.cons _, first, second⟩
    | false =>
      cases p' with
      | done b => cases p <;> exact alone hp hp'
      | ask q next =>
        have shared : Gives may (.ask q fun x => Plan.together turns p (next x)) fun t ab =>
            ∃ t₁ t₂, t.Perm (t₁ ++ t₂) ∧ P t₁ ab.1 ∧ P' t₂ ab.2 := by
          refine fun x hx => (ih hp (hp' x hx)).imp fun t ab h => ?_
          obtain ⟨t₁, t₂, perm, first, second⟩ := h
          exact ⟨t₁, ⟨q, x⟩ :: t₂, (perm.cons _).trans List.perm_middle.symm, first, second⟩
        cases p <;> exact shared

end Errand

/-! ## Attempts -/

/-- the network, the clock and the log may be asked -/
class Query.Admits (ok : Query τ → Prop) : Prop where
  send : ∀ r, ok (.send r)
  clock : ok .clock
  note : ∀ line, ok (.note line)

namespace Errand.Asks

variable {ok : Query τ → Prop} [Query.Admits ok]

theorem clock : Asks ok (Errand.clock : Errand τ τ) := question Query.Admits.clock

theorem note (line : LogLine τ) : Asks ok (Errand.note line) := question (Query.Admits.note line)

end Errand.Asks

namespace Attempt

theorem run_ofErrand_bind (e : Errand τ α) (f : α → Attempt τ β) :
    (ofErrand e >>= f).run = e >>= fun a => (f a).run :=
  Plan.bind_assoc e _ _

/-- an attempt that only asks such questions -/
def Asks (ok : Query τ → Prop) (x : Attempt τ α) : Prop := Errand.Asks ok x.run

namespace Asks

variable {ok : Query τ → Prop} {f : α → Attempt τ β}

theorem ofExcept (r : Except Fault α) : Asks ok (ofExcept r : Attempt τ α) := .done r

theorem pure (a : α) : Asks ok (pure a : Attempt τ α) := .done (Except.ok a)

theorem throw (e : Fault) : Asks ok (throw e : Attempt τ α) := .done (Except.error e)

theorem bind {x : Attempt τ α} (hx : x.Asks ok) (hf : ∀ a, (f a).Asks ok) : Asks ok (x >>= f) := by
  refine Errand.Asks.bind hx fun r => ?_
  cases r with
  | ok a => exact hf a
  | error e => exact .done _

theorem ofErrand {e : Errand τ α} (he : e.Asks ok) : Asks ok (ofErrand e) := he.bind fun _ => .done _

theorem ofErrand_bind {e : Errand τ α} {P : α → Prop} (he : e.Asks ok)
    (hr : e.Gives (fun _ _ => True) fun _ a => P a) (hf : ∀ a, P a → (f a).Asks ok) :
    Asks ok (Attempt.ofErrand e >>= f) := by
  rw [Asks, run_ofErrand_bind]
  exact he.bind_of hr hf

theorem ite {c : Prop} {dec : Decidable c} {x y : Attempt τ α} (hx : x.Asks ok) (hy : y.Asks ok) :
    Asks ok (if c then x else y) :=
  Errand.Asks.ite hx hy

theorem guard {c : Prop} {dec : Decidable c} {x : Attempt τ PUnit} {rest : Attempt τ α}
    (hx : x.Asks ok) (h : rest.Asks ok) : Asks ok (if c then x >>= fun _ => rest else rest) :=
  ite (hx.bind fun _ => h) h

theorem consult {r : Chat.Request} (h : ok (.consult r)) :
    Asks ok (consult r : Attempt τ Chat.Reply) := .question h

variable [Query.Admits ok]

theorem note (line : LogLine τ) : Asks ok (note line) := ofErrand (.note line)

theorem send (r : Web.Request) : Asks ok (send r : Attempt τ Web.Response) :=
  .question (Query.Admits.send r)

end Asks

variable {may : (q : Query τ) → q.Answer → Prop} {f : α → Attempt τ β}
  {P : List (Exchange τ) → Except Fault β → Prop}

/-- whatever the answers are, of those that may be given, trace and outcome are as said -/
def Gives (may : (q : Query τ) → q.Answer → Prop) (x : Attempt τ α)
    (P : List (Exchange τ) → Except Fault α → Prop) : Prop :=
  Errand.Gives may x.run P

theorem gives_ofErrand_bind {e : Errand τ α} : (ofErrand e >>= f).Gives may P ↔
    e.Gives may fun t a => (f a).Gives may fun t' r => P (t ++ t') r := by
  rw [Gives, run_ofErrand_bind]
  exact Errand.gives_bind

theorem gives_bind {x : Attempt τ α} : (x >>= f).Gives may P ↔ x.Gives may fun t r => match r with
    | .ok a => (f a).Gives may fun t' r' => P (t ++ t') r'
    | .error e => P t (.error e) := by
  refine Errand.gives_bind.trans ?_
  refine ⟨fun h => h.imp fun t r hr => ?_, fun h => h.imp fun t r hr => ?_⟩
  · cases r with
    | ok a => exact hr
    | error e =>
      have last : P (t ++ []) (.error e) := hr
      rwa [List.append_nil] at last
  · cases r with
    | ok a => exact hr
    | error e =>
      show P (t ++ []) (.error e)
      rwa [List.append_nil]

/-! ### What an attempt yields -/

section

variable {x : Attempt τ α} {P : List (Exchange τ) → α → Prop} {R : List (Exchange τ) → β → Prop}

/-- as long as it does not fail, trace and result are as said -/
def Yields (may : (q : Query τ) → q.Answer → Prop) (x : Attempt τ α)
    (P : List (Exchange τ) → α → Prop) : Prop :=
  x.Gives may fun t r => ∀ a, r = .ok a → P t a

theorem yields_pure {a : α} (h : P [] a) : (pure a : Attempt τ α).Yields may P := by
  rintro _ ⟨⟩
  exact h

theorem yields_throw (e : Fault) : (throw e : Attempt τ α).Yields may P := nofun

theorem yields_bind (hx : x.Yields may fun t a => (f a).Yields may fun t' b => R (t ++ t') b) :
    (x >>= f).Yields may R := by
  refine gives_bind.mpr (Errand.Gives.imp hx fun t r h => ?_)
  cases r with
  | ok a => exact h a rfl
  | error e => exact nofun

theorem Yields.imp {P' : List (Exchange τ) → α → Prop} (hx : x.Yields may P)
    (h : ∀ t a, P t a → P' t a) : x.Yields may P' :=
  Errand.Gives.imp hx fun t _ hr a e => h t a (hr a e)

theorem yields_guard {c : Prop} {dec : Decidable c} {y : Attempt τ PUnit} {rest : Attempt τ β}
    (hy : y.Yields may fun _ _ => False) (h : ¬c → rest.Yields may R) :
    (if c then y >>= fun _ => rest else rest).Yields may R := by
  split
  · exact yields_bind (hy.imp fun t a no => no.elim)
  · next otherwise => exact h otherwise

theorem yields_after (h : ∀ t a, (f a).Yields may fun t' b => R (t ++ t') b) : (x >>= f).Yields may R :=
  yields_bind (Errand.gives_any.imp fun t _ _ a _ => h t a)

end

end Attempt

end SnippetStudio
