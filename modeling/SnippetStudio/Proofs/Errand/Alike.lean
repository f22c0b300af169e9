import Mathlib.Data.List.Forall2
import SnippetStudio.Proofs.Errand.Buffered
import SnippetStudio.Proofs.Web.Keyed

/-!
# Errands that are alike

Two errands are alike if they ask the same, but for requests that are related, and go on as one before a
screenshot is fetched (`Errand.Alike`); one of them may part from the other, and then ends alone.  A world that
does not see what sets related requests apart (`Unseeing`) does not see what sets the errands apart.

* `Errand.Alike.bind`    alike errands with the same sequel;
* `Attempt.Alike.sent`   related requests, followed by what is alike for every answer;
* `Errand.Alike.run`     the runs of alike errands.
-/

namespace SnippetStudio

variable {τ α β σ : Type} {R : Web.Request → Web.Request → Prop}

/-! ## Questions -/

/-- the line that tells where a screenshot is fetched -/
def Query.Announces (q : Query τ) : Prop := ∃ address, q = .note (.screenshotAt address)

/-- the same question, but for a request -/
inductive Query.Alike (R : Web.Request → Web.Request → Prop) : Query τ → Query τ → Prop
  | refl (q : Query τ) : Alike R q q
  | sent {r r' : Web.Request} (related : R r r') : Alike R (.send r) (.send r')

/-- the same questions, but for requests up to the line that tells where a screenshot is fetched -/
inductive Matched (R : Web.Request → Web.Request → Prop) : List (Query τ) → List (Query τ) → Prop
  | same (qs : List (Query τ)) : Matched R qs qs
  | cons {q q' : Query τ} {qs qs' : List (Query τ)} (early : ¬ q.Announces) (alike : q.Alike R q')
      (rest : Matched R qs qs') : Matched R (q :: qs) (q' :: qs')

/-- the line that a question puts into the log -/
def Query.line? : Query τ → Option (LogLine τ)
  | note line => some line
  | _ => none

/-- what is put into the log -/
def logged (qs : List (Query τ)) : List (LogLine τ) := qs.filterMap Query.line?

namespace Matched

variable {qs qs' : List (Query τ)}

theorem forall₂ (h : Matched R qs qs') : List.Forall₂ (Query.Alike R) qs qs' := by
  induction h with
  | same qs => exact List.forall₂_same.mpr fun q _ => .refl q
  | cons _ alike _ ih => exact .cons alike ih

theorem logged_eq (h : Matched R qs qs') : logged qs = logged qs' := by
  induction h with
  | same qs => rfl
  | @cons q _ _ _ _ alike _ ih =>
    cases alike with
    | refl =>
      rw [logged, logged, List.filterMap_cons, List.filterMap_cons]
      cases q.line? with
      | none => exact ih
      | some line => exact congrArg (line :: ·) ih
    | sent => exact ih

/-- from the line on that tells where a screenshot is fetched the questions are the same -/
theorem announced (h : Matched R qs qs') {before after : List (Query τ)} {q : Query τ}
    (announces : q.Announces) (split : qs = before ++ q :: after) : ∃ before', qs' = before' ++ q :: after := by
  induction h generalizing before with
  | same qs => exact ⟨before, split⟩
  | cons early _ _ ih =>
    cases before with
    | nil => exact absurd ((List.cons.inj split).1 ▸ announces) early
    | cons x before =>
      obtain ⟨before', split'⟩ := ih (List.cons.inj split).2
      exact ⟨_ :: before', congrArg (_ :: ·) split'⟩

end Matched

/-- states that are not told apart stay so: questions that are the same or related have the same answers -/
structure Unseeing (R : Web.Request → Web.Request → Prop) (w : Plan.World (@Query.Answer τ) σ)
    (sim : σ → σ → Prop) : Prop where
  same : ∀ q {s s'}, sim s s' → (w q s).1 = (w q s').1 ∧ sim (w q s).2 (w q s').2
  sent : ∀ {r r' s s'}, R r r' → sim s s' →
    (w (.send r) s).1 = (w (.send r') s').1 ∧ sim (w (.send r) s).2 (w (.send r') s').2

/-- two runs that ask the same, but for requests, until one of them goes on alone -/
def Parted (R : Web.Request → Web.Request → Prop) (lost lost' : List (Query τ) → α → Prop)
    (x x' : α × List (Query τ)) : Prop :=
  ∃ qs qs' rest rest', x.2 = qs ++ rest ∧ x'.2 = qs' ++ rest' ∧ List.Forall₂ (Query.Alike R) qs qs' ∧
    (lost rest x.1 ∨ lost' rest' x'.1)

theorem Parted.cons {lost lost' : List (Query τ) → α → Prop} {a a' : α} {q q' : Query τ} {qs qs' : List (Query τ)}
    (alike : q.Alike R q') (h : Parted R lost lost' (a, qs) (a', qs')) :
    Parted R lost lost' (a, q :: qs) (a', q' :: qs') := by
  obtain ⟨front, front', rest, rest', split, split', same, alone⟩ := h
  exact ⟨q :: front, q' :: front', rest, rest', congrArg (q :: ·) split, congrArg (q' :: ·) split', same.cons alike,
    alone⟩

/-! ## Errands -/

namespace Errand

/-- whatever the answers are, what is asked and the result are of some kind -/
def Always (P : List (Query τ) → α → Prop) (p : Errand τ α) : Prop :=
  p.Gives (fun _ _ => True) fun t a => P (t.map (·.1)) a

/-- the same questions, but for requests up to a screenshot, and the same result, unless one goes on alone -/
inductive Alike (R : Web.Request → Web.Request → Prop) (lost lost' : List (Query τ) → α → Prop) :
    Errand τ α → Errand τ α → Prop
  | same (p : Errand τ α) : Alike R lost lost' p p
  | ask {q : Query τ} {next next' : q.Answer → Errand τ α} (early : ¬ q.Announces)
      (rest : ∀ x, Alike R lost lost' (next x) (next' x)) : Alike R lost lost' (.ask q next) (.ask q next')
  | sent {r r' : Web.Request} {next next' : Except Fault Web.Response → Errand τ α} (related : R r r')
      (rest : ∀ x, Alike R lost lost' (next x) (next' x)) :
      Alike R lost lost' (.ask (.send r) next) (.ask (.send r') next')
  | left {p : Errand τ α} (gone : p.Always lost) (p' : Errand τ α) : Alike R lost lost' p p'
  | right {p' : Errand τ α} (gone : p'.Always lost') (p : Errand τ α) : Alike R lost lost' p p'

variable {p p' : Errand τ α} {lost lost' : List (Query τ) → α → Prop} {gone gone' : List (Query τ) → β → Prop}

theorem Always.bind {P : List (Query τ) → α → Prop} {P' : List (Query τ) → β → Prop} {f : α → Errand τ β}
    (hp : p.Always P) (hf : ∀ qs a, P qs a → (f a).Always fun qs' b => P' (qs ++ qs') b) :
    (p >>= f).Always P' := by
  refine gives_bind.mpr (hp.imp fun t a ha => (hf _ a ha).imp fun t' b hb => ?_)
  rw [List.map_append]
  exact hb

theorem Always.run {P : List (Query τ) → α → Prop} (hp : p.Always P) (w : Plan.World (@Query.Answer τ) σ) (s : σ) :
    P (p.asked w s) (p.run w s).1 := by
  induction p generalizing P s with
  | done a => exact hp
  | ask q next ih => exact ih _ (P := fun qs a => P (q :: qs) a) (hp _ trivial) _

namespace Alike

theorem bind (h : Alike R lost lost' p p') {f : α → Errand τ β}
    (goes : ∀ qs a, lost qs a → (f a).Always fun qs' b => gone (qs ++ qs') b)
    (goes' : ∀ qs a, lost' qs a → (f a).Always fun qs' b => gone' (qs ++ qs') b) :
    Alike R gone gone' (p >>= f) (p' >>= f) := by
  induction h with
  | same p => exact .same _
  | ask early _ ih => exact .ask early ih
  | sent related _ ih => exact .sent related ih
  | left alone => exact .left (alone.bind goes) _
  | right alone => exact .right (alone.bind goes') _

variable {w : Plan.World (@Query.Answer τ) σ} {sim : σ → σ → Prop}

theorem run_ask (q : Query τ) (next : q.Answer → Errand τ α) (s : σ) :
    (Plan.ask q next).run w s = (next (w q s).1).run w (w q s).2 := rfl

theorem asked_ask (q : Query τ) (next : q.Answer → Errand τ α) (s : σ) :
    asked w (.ask q next) s = q :: asked w (next (w q s).1) (w q s).2 := rfl

theorem run_same (unseeing : Unseeing R w sim) (p : Errand τ α) {s s' : σ} (h : sim s s') :
    (p.run w s).1 = (p.run w s').1 ∧ p.asked w s = p.asked w s' := by
  induction p generalizing s s' with
  | done a => exact ⟨rfl, rfl⟩
  | ask q next ih =>
    obtain ⟨answer, later⟩ := unseeing.same q h
    obtain ⟨result, asked⟩ := ih (w q s).1 later
    rw [run_ask, run_ask, asked_ask, asked_ask, ← answer]
    exact ⟨result, congrArg (q :: ·) asked⟩

/-- **Alike errands run alike** in a world that does not see the difference, until one of them goes on alone. -/
theorem run (h : Alike R lost lost' p p') (unseeing : Unseeing R w sim) {s s' : σ} (hs : sim s s') :
    Parted R lost lost' ((p.run w s).1, p.asked w s) ((p'.run w s').1, p'.asked w s') ∨
      (p.run w s).1 = (p'.run w s').1 ∧ Matched R (p.asked w s) (p'.asked w s') := by
  induction h generalizing s s' with
  | same p =>
    obtain ⟨result, asked⟩ := run_same unseeing p hs
    rw [asked]
    exact .inr ⟨result, .same _⟩
  | @ask q next next' early _ ih =>
    obtain ⟨answer, later⟩ := unseeing.same q hs
    rw [run_ask, run_ask, asked_ask, asked_ask, ← answer]
    exact (ih (w q s).1 later).imp (.cons (.refl q)) (.imp_right (.cons early (.refl q)))
  | @sent r r' next next' related _ ih =>
    obtain ⟨answer, later⟩ := unseeing.sent related hs
    rw [run_ask, run_ask, asked_ask, asked_ask, ← answer]
    exact (ih (w (.send r) s).1 later).imp (.cons (.sent related)) (.imp_right (.cons nofun (.sent related)))
  | left alone => exact .inl ⟨[], [], _, _, rfl, rfl, .nil, .inl (alone.run w s)⟩
  | right alone => exact .inl ⟨[], [], _, _, rfl, rfl, .nil, .inr (alone.run w s')⟩

end Alike

end Errand

/-! ## Attempts -/

namespace Attempt

variable {lost lost' : Fault → Prop} {x x' : Attempt τ α}

/-- nothing is asked any more, and there is a fault of some kind -/
def Ends (lost : Fault → Prop) (qs : List (Query τ)) (r : Except Fault α) : Prop :=
  qs = [] ∧ ∃ f, r = .error f ∧ lost f

/-- alike as errands; an attempt that goes on alone ends at once, with a fault of some kind -/
def Alike (R : Web.Request → Web.Request → Prop) (lost lost' : Fault → Prop) (x x' : Attempt τ α) : Prop :=
  Errand.Alike R (Ends lost) (Ends lost') x.run x'.run

namespace Alike

theorem same (x : Attempt τ α) : Alike R lost lost' x x := Errand.Alike.same x.run

theorem bind (h : Alike R lost lost' x x') (f : α → Attempt τ β) : Alike R lost lost' (x >>= f) (x' >>= f) := by
  have ends {lost : Fault → Prop} (qs : List (Query τ)) (r : Except Fault α) (gone : Ends lost qs r) :
      Errand.Always (fun qs' b => Ends lost (qs ++ qs') b) (ExceptT.bindCont f r) := by
    obtain ⟨rfl, e, rfl, gone⟩ := gone
    exact ⟨rfl, e, rfl, gone⟩
  exact Errand.Alike.bind h ends ends

theorem sent {r r' : Web.Request} (related : R r r') {f f' : Web.Response → Attempt τ β}
    (rest : ∀ response, Alike R lost lost' (f response) (f' response)) :
    Alike R lost lost' (send r >>= f) (send r' >>= f') := by
  refine Errand.Alike.sent related fun x => ?_
  cases x with
  | ok response => exact rest response
  | error e => exact .same _

theorem note {line : LogLine τ} (early : ∀ address, line ≠ .screenshotAt address)
    {f f' : Unit → Attempt τ β} (rest : Alike R lost lost' (f ()) (f' ())) :
    Alike R lost lost' (note line >>= f) (note line >>= f') := by
  refine Errand.Alike.ask ?_ fun _ => rest
  rintro ⟨address, eq⟩
  cases eq
  exact early address rfl

theorem always_error {γ : Type} {e : Fault} (gone : lost e) (f : γ → Attempt τ β) :
    Errand.Always (Ends lost) (Attempt.ofExcept (.error e) >>= f).run :=
  ⟨rfl, e, rfl, gone⟩

theorem ofExcept {γ δ : Type} {S : γ → δ → Prop} {y : Except Fault γ} {y' : Except Fault δ}
    (h : Likewise S lost lost' y y') {f : γ → Attempt τ β} {f' : δ → Attempt τ β}
    (rest : ∀ c d, S c d → Alike R lost lost' (f c) (f' d)) :
    Alike R lost lost' (Attempt.ofExcept y >>= f) (Attempt.ofExcept y' >>= f') := by
  cases h with
  | ok related => exact rest _ _ related
  | error e => exact same _
  | left gone => exact Errand.Alike.left (always_error gone f) _
  | right gone => exact Errand.Alike.right (always_error gone f') _

end Alike

end Attempt

end SnippetStudio
