import SnippetStudio.Preview.Desk

/-!
# What happens at a desk

A run of the desk is a list of moves.  Each move is a `Moment`: the desk before and after it and the
signals that follow.  What a render does in a moment is an `Act`: the number of the call, its
version and snippet, and a `Deed`

* `begins`          the call gets its version;
* `asks request`    it asks the page;
* `hears point o`   the page answers what the call waits for at `point`;
* `ends result`     the call is over.

`Desk.moments` are the moments of a run, `Desk.history` all acts in their order.
`Desk.run_induction` is the one induction over runs: what holds at the start and is kept by every
move holds at the end.
-/

namespace SnippetStudio

namespace Roster

variable {α : Type}

theorem find?_put (r : Roster α) (m n : Nat) (a : α) :
    (r.put n a).find? m = if m = n then some a else r.find? m := by
  split
  · next h => rw [h, find?_put_self]
  · next h => exact find?_put_of_ne r a h

theorem find?_drop (r : Roster α) (m n : Nat) :
    (r.drop n).find? m = if m = n then none else r.find? m := by
  split
  · next h => rw [h, find?_drop_self]
  · next h => exact find?_drop_of_ne r h

end Roster

namespace Preview

/-- a render waits here for an answer of the page -/
def Point.awaits : Point → Bool
  | .pause | .queue _ => false
  | _ => true

/-- a render is at work on the page here -/
def Point.works : Point → Bool
  | .instantiate | .mount | .panel => true
  | _ => false

/-- what changes what the page shows -/
def Request.isTouch : Request → Bool
  | .instantiate _ | .mount | .showError .. => true
  | _ => false

/-- what only the newest render asks: polls, and whatever changes the page -/
def Request.isStage : Request → Bool
  | .compilerReady => true
  | q => q.isTouch

theorem Request.isStage_of_isTouch {q : Request} (h : q.isTouch = true) : q.isStage = true := by
  cases q with
  | compilerReady => rfl
  | _ => exact h

inductive Deed where
  | begins
  | asks (request : Request)
  | hears (point : Point) (o : Outcome)
  | ends (result : Except Fault Result)

structure Act where
  call : Nat
  version : Nat
  source : String
  deed : Deed

def Deed.isTouch : Deed → Bool
  | .asks q => q.isTouch
  | _ => false

def Deed.isStage : Deed → Bool
  | .asks q => q.isStage
  | _ => false

/-- an act of a render, under the number of its call -/
def Render.act (r : Render) (n : Nat) (deed : Deed) : Act := ⟨n, r.version, r.source, deed⟩

/-- the acts that change what the page shows -/
def touches (h : List Act) : List Act := h.filter (·.deed.isTouch)

theorem touches_append (h k : List Act) : touches (h ++ k) = touches h ++ touches k :=
  List.filter_append ..

structure Moment where
  before : Desk
  move : Move
  after : Desk
  signals : List Signal

namespace Desk

/-- the render of a call that is under way -/
def render? (d : Desk) (n : Nat) : Option Render :=
  match d.calls.find? n with
  | some (.render r) => some r
  | _ => none

theorem render?_eq_some {d : Desk} {n : Nat} {r : Render} :
    d.render? n = some r ↔ d.calls.find? n = some (.render r) := by
  unfold render?
  split
  · next h => simp [h]
  · next h =>
    constructor
    · intro e; cases e
    · intro e; exact absurd e (h r)

/-- what a render hears by a move -/
def heard (d : Desk) : Move → List Act
  | .answer n o =>
    match d.render? n with
    | some r => if r.point.awaits then [r.act n (.hears r.point o)] else []
    | none => []
  | _ => []

/-- a render that begins by a move -/
def begun (d after : Desk) : Move → List Act
  | .start n _ =>
    match d.render? n, after.render? n with
    | none, some r => [r.act n .begins]
    | _, _ => []
  | _ => []

/-- what a signal tells of a render: who asks is under way afterwards, who ends was under way
before -/
def told (d after : Desk) : Signal → Option Act
  | .asked n q => (after.render? n).map fun r => r.act n (.asks q)
  | .returned n result => (d.render? n).map fun r => r.act n (.ends result)
  | _ => none

def moment (s : Setup) (d : Desk) (m : Move) : Moment := ⟨d, m, (d.move s m).1, (d.move s m).2⟩

end Desk

/-- what renders do in a moment -/
def Moment.acts (k : Moment) : List Act :=
  k.before.heard k.move ++ k.before.begun k.after k.move
    ++ k.signals.filterMap (k.before.told k.after)

theorem acts_concat (ks : List Moment) (k : Moment) :
    (ks ++ [k]).flatMap Moment.acts = ks.flatMap Moment.acts ++ k.acts := by
  rw [List.flatMap_append, List.flatMap_singleton]

namespace Desk

variable (s : Setup)

def moments (d : Desk) : List Move → List Moment
  | [] => []
  | m :: ms => d.moment s m :: moments (d.move s m).1 ms

/-- everything that renders do in a run -/
def history (d : Desk) (ms : List Move) : List Act := (d.moments s ms).flatMap Moment.acts

/-- the desk at the end of a run -/
def after (d : Desk) (ms : List Move) : Desk := (d.run s ms).1

theorem after_append (d : Desk) (ms ms' : List Move) :
    d.after s (ms ++ ms') = after s (d.after s ms) ms' := by
  induction ms generalizing d with
  | nil => rfl
  | cons m ms ih => exact ih (d.move s m).1

theorem moments_append (d : Desk) (ms ms' : List Move) :
    d.moments s (ms ++ ms') = d.moments s ms ++ moments s (d.after s ms) ms' := by
  induction ms generalizing d with
  | nil => rfl
  | cons m ms ih => exact congrArg (d.moment s m :: ·) (ih (d.move s m).1)

theorem history_append (d : Desk) (ms ms' : List Move) :
    d.history s (ms ++ ms') = d.history s ms ++ history s (d.after s ms) ms' := by
  rw [history, moments_append, List.flatMap_append]
  rfl

/-- **What holds at the start of a run and is kept by its moves holds at its end.** -/
theorem run_induction {P : Desk → List Moment → Prop} {d : Desk} {ms : List Move} (start : P d [])
    (move : ∀ m ∈ ms, ∀ d ks, P d ks → P (d.move s m).1 (ks ++ [d.moment s m])) :
    P (d.after s ms) (d.moments s ms) := by
  suffices h : ∀ d ks, P d ks → P (d.after s ms) (ks ++ d.moments s ms) from h d [] start
  clear start
  induction ms with
  | nil =>
    intro d ks h
    rw [moments, List.append_nil]
    exact h
  | cons m ms ih =>
    intro d ks h
    have first := move m (List.mem_cons_self ..) d ks h
    have rest := ih (fun m' h' => move m' (List.mem_cons_of_mem _ h')) _ _ first
    rwa [List.append_assoc] at rest

end Desk

end Preview

end SnippetStudio
