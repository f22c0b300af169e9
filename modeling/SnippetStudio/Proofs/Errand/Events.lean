import SnippetStudio.Proofs.Errand.Trace

/-!
# The events of an errand

An errand tells of its steps by the events that it publishes; gathered, they stand beside its result
(`Errand.events`, `Errand.result`).  What they are is said for all answers that the world may give
(`Errand.Tells`) and read off the errand step by step; most errands tell nothing (`Errand.Silent`).

* `run_gathered_bind`   what is gathered from two errands, one after the other;
* `tells_bind`          what the two tell;
* `Tells.events`        **an errand tells the same in every world that answers as it may**.
-/

namespace SnippetStudio

variable {τ α β σ : Type}

/-- the event that a question makes known -/
def Query.told : Query τ → List (Pipeline.Event τ)
  | publish e => [e]
  | _ => []

/-- a question that makes nothing known -/
def Query.Untold (q : Query τ) : Prop := q.told = []

instance : Query.Admits (@Query.Untold τ) := ⟨fun _ => rfl, rfl, fun _ => rfl⟩

namespace Errand

def events (w : Plan.World (@Query.Answer τ) σ) (p : Errand τ α) (s : σ) :
    List (Pipeline.Event τ) :=
  (p.gathered.run w s).1.1

def result (w : Plan.World (@Query.Answer τ) σ) (p : Errand τ α) (s : σ) : α :=
  (p.gathered.run w s).1.2

/-- whatever the answers are, of those that may be given, events and result are as said -/
def Tells (may : (q : Query τ) → q.Answer → Prop) :
    Errand τ α → (List (Pipeline.Event τ) → α → Prop) → Prop
  | .done a, P => P [] a
  | .ask q next, P => ∀ x, may q x → Tells may (next x) fun es a => P (q.told ++ es) a

variable {may : (q : Query τ) → q.Answer → Prop} {p : Errand τ α} {f : α → Errand τ β}
  {P : List (Pipeline.Event τ) → β → Prop}

theorem tells_bind : (p >>= f).Tells may P ↔
    p.Tells may fun es a => (f a).Tells may fun es' b => P (es ++ es') b := by
  induction p generalizing P with
  | done a => rfl
  | ask q next ih =>
    refine forall_congr' fun x => imp_congr_right fun _ => (ih x).trans ?_
    simp only [List.append_assoc]

theorem Tells.events {w : Plan.World (@Query.Answer τ) σ} {p : Errand τ β}
    (h : p.Tells (Query.answers w) P) (s : σ) : P (p.events w s) (p.result w s) := by
  induction p generalizing P s with
  | done b => exact h
  | ask q next ih =>
    have rest := h _ ⟨s, rfl⟩
    cases q with
    | publish e =>
      have later := ih () rest s
      rw [Errand.events, Errand.result, Errand.gathered, Plan.run_bind]
      exact later
    | _ => exact ih _ rest _

theorem run_gathered_bind (w : Plan.World (@Query.Answer τ) σ) (p : Errand τ α)
    (f : α → Errand τ β) (s : σ) :
    (p >>= f).gathered.run w s =
      let ((es, a), s') := p.gathered.run w s
      let ((es', b), s'') := (f a).gathered.run w s'
      ((es ++ es', b), s'') := by
  induction p generalizing s with
  | done a => rfl
  | ask q next ih =>
    cases q with
    | publish e =>
      rw [Plan.ask_bind, Errand.gathered, Errand.gathered, Plan.run_bind, Plan.run_bind, ih]
      rfl
    | _ => exact ih _ _

/-- an errand that makes nothing known -/
abbrev Silent (p : Errand τ α) : Prop := p.Asks Query.Untold

theorem Silent.tells {p : Errand τ β} (hp : p.Silent) (h : ∀ b, P [] b) : p.Tells may P := by
  induction hp generalizing P with
  | done b => exact h b
  | @ask q next told _ ih =>
    intro x _
    rw [show q.told = [] from told]
    exact ih x h

end Errand

/-! ## Attempts -/

namespace Attempt

variable {may : (q : Query τ) → q.Answer → Prop} {f : α → Attempt τ β}
  {P : List (Pipeline.Event τ) → Except Fault β → Prop}

/-- whatever the answers are, of those that may be given, events and outcome are as said -/
def Tells (may : (q : Query τ) → q.Answer → Prop) (x : Attempt τ α)
    (P : List (Pipeline.Event τ) → Except Fault α → Prop) : Prop :=
  Errand.Tells may x.run P

theorem tells_ofErrand_bind {e : Errand τ α} : (ofErrand e >>= f).Tells may P ↔
    e.Tells may fun es a => (f a).Tells may fun es' r => P (es ++ es') r := by
  rw [Tells, run_ofErrand_bind]
  exact Errand.tells_bind

theorem tells_of_silent {e : Errand τ α} (he : e.Silent) (h : ∀ a, (f a).Tells may P) :
    (ofErrand e >>= f).Tells may P :=
  tells_ofErrand_bind.mpr (he.tells h)

theorem tells_publish {e : Pipeline.Event τ} {f : Unit → Attempt τ β}
    (h : (f ()).Tells may fun es r => P (e :: es) r) :
    (ofErrand (Errand.publish e) >>= f).Tells may P :=
  tells_ofErrand_bind.mpr fun _ _ => h

/-- first a snippet goes into the buffer -/
theorem tells_load {code : String} {f : Unit → Attempt τ β}
    (ok : may (.load code) (.ok ()) → (f ()).Tells may P)
    (error : ∀ e, may (.load code) (.error e) → P [] (.error e)) :
    (load code >>= f).Tells may P := by
  intro x hx
  cases x with
  | ok a => exact ok hx
  | error e => exact error e hx

end Attempt

end SnippetStudio
