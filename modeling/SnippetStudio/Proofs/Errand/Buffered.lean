import SnippetStudio.Buffer.Telling
import SnippetStudio.Proofs.Errand.Events

/-!
# Errands beside a buffer

What an errand has asked, in order (`Errand.asked`), tells all that it has done: the events that it
published, the snippets that it loaded and the requests that it put to a model.

* `Errand.upTo`     an errand for somebody who leaves after so many events, `asked_upTo` what is left of it;
* `Errand.beside`   a world with a buffer, in which a snippet is loaded by an edit; `telling_still`, `telling_once`
  the buffer behind an errand that loads nothing, or one snippet;
* `Quiet`, `Once`   errands that ask the network, the clock and the log, and a model once.
-/

namespace SnippetStudio

open Pipeline (Event)

variable {τ α β σ ι : Type}

namespace Query

def load? : Query τ → Option String
  | load code => some code
  | _ => none

def consult? : Query τ → Option Chat.Request
  | consult r => some r
  | _ => none

/-- a question to the network, the clock or the log -/
def Quiet : Query τ → Prop
  | send _ | clock | note _ => True
  | _ => False

instance : Query.Admits (@Quiet τ) := ⟨fun _ => trivial, trivial, fun _ => trivial⟩

/-- anything but a request to a model -/
def Unmodelled (q : Query τ) : Prop := q.consult? = none

instance : Query.Admits (@Unmodelled τ) := ⟨fun _ => rfl, rfl, fun _ => rfl⟩

end Query

/-! ## What has been asked -/

def told (qs : List (Query τ)) : List (Event τ) := qs.flatMap Query.told

def loads (qs : List (Query τ)) : List String := qs.filterMap Query.load?

def consults (qs : List (Query τ)) : List Chat.Request := qs.filterMap Query.consult?

section

variable (qs qs' : List (Query τ))

theorem told_append : told (qs ++ qs') = told qs ++ told qs' := List.flatMap_append

theorem loads_append : loads (qs ++ qs') = loads qs ++ loads qs' := List.filterMap_append

theorem consults_append : consults (qs ++ qs') = consults qs ++ consults qs' := List.filterMap_append

theorem told_publish (es : List (Event τ)) : told (es.map .publish) = es := by
  induction es with
  | nil => rfl
  | cons e es ih => exact congrArg (e :: ·) ih

theorem loads_publish (es : List (Event τ)) : loads (es.map .publish) = [] := by
  induction es with
  | nil => rfl
  | cons e es ih => exact ih

end

theorem Query.Quiet.unmodelled {q : Query τ} (h : q.Quiet) : q.Unmodelled := by
  cases q with
  | consult r => exact absurd h id
  | _ => rfl

/-- a question that whoever follows the errand, or its buffer, takes notice of -/
def Query.isVisible : Query τ → Bool
  | .publish _ | .load _ => true
  | _ => false

/-- the events and the loaded snippets, in order -/
def visible (qs : List (Query τ)) : List (Query τ) := qs.filter Query.isVisible

theorem visible_append (qs qs' : List (Query τ)) : visible (qs ++ qs') = visible qs ++ visible qs' :=
  List.filter_append qs qs'

theorem visible_quiet {qs : List (Query τ)} (quiet : ∀ q ∈ qs, q.Quiet) : visible qs = [] := by
  refine List.filter_eq_nil_iff.mpr fun q hq => ?_
  have ask := quiet q hq
  cases q with
  | publish e => exact absurd ask id
  | load code => exact absurd ask id
  | _ => exact Bool.false_ne_true

theorem consults_unmodelled {qs : List (Query τ)} (h : ∀ q ∈ qs, q.Unmodelled) : consults qs = [] :=
  List.filterMap_eq_nil_iff.mpr h

theorem told_visible (qs : List (Query τ)) : told (visible qs) = told qs := by
  induction qs with
  | nil => rfl
  | cons q qs ih =>
    cases q with
    | publish e => exact congrArg (e :: ·) ih
    | _ => exact ih

theorem loads_visible (qs : List (Query τ)) : loads (visible qs) = loads qs := by
  induction qs with
  | nil => rfl
  | cons q qs ih =>
    cases q with
    | load code => exact congrArg (code :: ·) ih
    | _ => exact ih

/-! ## Leaving early -/

/-- the questions up to the event of a number, all of them where there are fewer -/
def early : Nat → List (Query τ) → List (Query τ)
  | 0, _ => []
  | _, [] => []
  | n + 1, .publish e :: qs => .publish e :: early n qs
  | n + 1, q :: qs => q :: early (n + 1) qs

theorem early_zero (qs : List (Query τ)) : early 0 qs = [] := by
  cases qs <;> rfl

theorem early_nil (n : Nat) : early n ([] : List (Query τ)) = [] := by
  cases n <;> rfl

theorem early_publish (n : Nat) (es : List (Event τ)) (qs : List (Query τ)) :
    early n (es.map .publish ++ qs) = (es.take n).map .publish ++ early (n - es.length) qs := by
  induction es generalizing n with
  | nil => rw [List.take_nil]; rfl
  | cons e es ih =>
    cases n with
    | zero => rw [early_zero, Nat.zero_sub, early_zero]; rfl
    | succ n =>
      rw [List.length_cons, Nat.add_sub_add_right]
      exact congrArg (_ :: ·) (ih n)

theorem visible_early (n : Nat) (qs : List (Query τ)) : visible (early n qs) = early n (visible qs) := by
  induction qs generalizing n with
  | nil => cases n <;> rfl
  | cons q qs ih =>
    cases n with
    | zero =>
      rw [early_zero, early_zero]
      rfl
    | succ n =>
      cases q with
      | publish e => exact congrArg (_ :: ·) (ih n)
      | load code => exact congrArg (_ :: ·) (ih (n + 1))
      | _ => exact ih (n + 1)

namespace Errand

/-- the questions of an errand in a world -/
def asked (w : Plan.World (@Query.Answer τ) σ) (p : Errand τ α) (s : σ) : List (Query τ) :=
  (p.trace w s).map (·.1)

theorem asked_bind (w : Plan.World (@Query.Answer τ) σ) (p : Errand τ α) (f : α → Errand τ β) (s : σ) :
    (p >>= f).asked w s = p.asked w s ++ (f (p.run w s).1).asked w (p.run w s).2 := by
  rw [asked, Plan.trace_bind, List.map_append]
  rfl

/-- an errand for somebody who leaves with the event of a number -/
def upTo : Nat → Errand τ α → Errand τ (Option α)
  | 0, _ => .done none
  | _, .done a => .done (some a)
  | n + 1, .ask (.publish e) next => .ask (.publish e) fun x => upTo n (next x)
  | n + 1, .ask q next => .ask q fun x => upTo (n + 1) (next x)

theorem asked_upTo (w : Plan.World (@Query.Answer τ) σ) (n : Nat) (p : Errand τ α) (s : σ) :
    (p.upTo n).asked w s = early n (p.asked w s) := by
  induction p generalizing n s with
  | done a => cases n <;> rfl
  | ask q next ih =>
    cases n with
    | zero => rfl
    | succ n =>
      cases q with
      | publish e => exact congrArg (_ :: ·) (ih _ n _)
      | _ => exact congrArg (_ :: ·) (ih _ (n + 1) _)

/-! ## A world with a buffer -/

variable [DecidableEq ι]

/-- a world with a buffer beside it: a snippet is loaded by an edit, and what its listeners do until it is
over depends on the snippet and on the world -/
def beside (w : Plan.World (@Query.Answer τ) σ) (react : String → σ → List (Telling.Move ι)) :
    Plan.World (@Query.Answer τ) (σ × Telling ι)
  | .load code, (s, t) =>
    (.ok (), (w (.load code) s).2, t.after (.edit (.set code) :: react code s))
  | q, (s, t) => ((w q s).1, (w q s).2, t)

section

variable {w : Plan.World (@Query.Answer τ) σ} {react : String → σ → List (Telling.Move ι)}
  {p : Errand τ α} {s : σ} {t : Telling ι}

theorem telling_still (h : loads (p.asked (beside w react) (s, t)) = []) :
    (p.run (beside w react) (s, t)).2.2 = t := by
  induction p generalizing s with
  | done a => rfl
  | ask q next ih =>
    cases q with
    | load code => cases h
    | _ => exact ih _ h

theorem telling_once {code : String} (h : loads (p.asked (beside w react) (s, t)) = [code]) :
    ∃ world, (p.run (beside w react) (s, t)).2.2 =
      t.after (.edit (.set code) :: react code world) := by
  induction p generalizing s with
  | done a => cases h
  | ask q next ih =>
    cases q with
    | load c =>
      obtain ⟨rfl, rest⟩ := List.cons.inj h
      exact ⟨s, telling_still rest⟩
    | _ => exact ih _ h

end

/-! ## Quiet errands -/

/-- an errand that puts at most one request to a model, and is quiet otherwise -/
inductive Once : Errand τ α → Prop
  | quiet {p : Errand τ α} (h : p.Asks Query.Quiet) : Once p
  | ask {q : Query τ} {next : q.Answer → Errand τ α} (h : q.Quiet) (rest : ∀ x, Once (next x)) :
    Once (.ask q next)
  | consult {r : Chat.Request} {next : Except Fault Chat.Reply → Errand τ α}
    (rest : ∀ x, (next x).Asks Query.Quiet) : Once (.ask (.consult r) next)

namespace Once

variable {p : Errand τ α} {f : α → Errand τ β}

theorem after (hp : p.Asks Query.Quiet) (hf : ∀ a, (f a).Once) : Once (p >>= f) := by
  induction hp with
  | done a => exact hf a
  | ask h _ ih => exact .ask h ih

theorem before (hp : p.Once) (hf : ∀ a, (f a).Asks Query.Quiet) : Once (p >>= f) := by
  induction hp with
  | quiet h => exact .quiet (h.bind hf)
  | ask h _ ih => exact .ask h ih
  | consult rest => exact .consult fun x => (rest x).bind hf

end Once

theorem Asks.asked {ok : Query τ → Prop} {p : Errand τ α} (hp : p.Asks ok)
    (w : Plan.World (@Query.Answer τ) σ) (s : σ) : ∀ q ∈ p.asked w s, ok q := by
  have all : p.Gives (Query.answers w) fun t _ => ∀ q ∈ t.map (·.1), ok q :=
    hp.gives fun t a h => List.forall_mem_map.mpr h
  exact all.run s

theorem Asks.gives_quiet {may : (q : Query τ) → q.Answer → Prop} {p : Errand τ α}
    (hp : p.Asks Query.Quiet) : p.Gives may fun t _ =>
      visible (t.map (·.1)) = [] ∧ consults (t.map (·.1)) = [] := by
  refine hp.gives fun t a h => ?_
  have quiet : ∀ q ∈ t.map (·.1), q.Quiet := List.forall_mem_map.mpr h
  exact ⟨visible_quiet quiet, consults_unmodelled fun q hq => (quiet q hq).unmodelled⟩

theorem Once.gives {may : (q : Query τ) → q.Answer → Prop} {p : Errand τ α} (hp : p.Once) :
    p.Gives may fun t _ => visible (t.map (·.1)) = [] ∧ (consults (t.map (·.1))).length ≤ 1 := by
  induction hp with
  | quiet h => exact h.gives_quiet.imp fun t a ⟨seen, put⟩ => ⟨seen, by rw [put]; exact Nat.zero_le 1⟩
  | @ask q next h _ ih =>
    refine fun x _ => (ih x).imp fun t a spare => ?_
    cases q with
    | send | clock | note => exact spare
    | _ => exact absurd h id
  | @consult r next rest =>
    refine fun x _ => (rest x).gives_quiet.imp fun t a ⟨seen, put⟩ => ⟨seen, ?_⟩
    show (r :: consults (t.map (·.1))).length ≤ 1
    rw [put]
    exact Nat.le_refl 1

end Errand

namespace Attempt

/-- an attempt that puts at most one request to a model, and is quiet otherwise -/
def Once (x : Attempt τ α) : Prop := Errand.Once x.run

namespace Once

variable {x : Attempt τ α} {f : α → Attempt τ β}

theorem after (hx : x.Asks Query.Quiet) (hf : ∀ a, (f a).Once) : Once (x >>= f) := by
  refine Errand.Once.after hx fun r => ?_
  cases r with
  | ok a => exact hf a
  | error e => exact .quiet (.done _)

theorem before (hx : x.Once) (hf : ∀ a, (f a).Asks Query.Quiet) : Once (x >>= f) := by
  refine Errand.Once.before hx fun r => ?_
  cases r with
  | ok a => exact hf a
  | error e => exact .done _

theorem guard {c : Prop} {dec : Decidable c} {x : Attempt τ PUnit} {rest : Attempt τ α}
    (hx : x.Asks Query.Quiet) (h : rest.Once) : Once (if c then x >>= fun _ => rest else rest) := by
  split
  · exact after hx fun _ => h
  · exact h

theorem consult (r : Chat.Request) : Once (consult r : Attempt τ Chat.Reply) :=
  Errand.Once.consult fun _ => .done _

end Once

end Attempt

end SnippetStudio
