import SnippetStudio.Proofs.Session.StartUp
import SnippetStudio.Proofs.Session.Turns

/-!
# Where a session stands between a start and a stop

A start and a stop set three flags, one after the other, with waits in between: whether the session has
started, whether the engine has a root, and whether the engine's render is registered in the buffer.  A
`Phase` says where a session stands, and with it what the flags are (`Phase.marks`) and which start or stop
is under way (`Phase.stage?`).

`Sound` is the bookkeeping that holds in every phase: a call at the desk belongs to an activity and fits
it, and the first render is under way just as long as it has not ended.

* `Moves`        an activity goes on or ends, with what it leaves at the desk;
* `Sound.moves`  the bookkeeping stays right by it;
* `Kept.moves`   so does the phase, if the flags and the stage fit.
-/

namespace SnippetStudio.Session

open Preview (Desk Signal Setup Result Call)

/-! ## Phases -/

/-- a start or a stop that is under way -/
inductive Stage where
  | opening
  | rooting
  | stopping
  | closing
deriving Repr, DecidableEq

def Activity.stage? : Activity → Option Stage
  | .opening => some .opening
  | .rooting => some .rooting
  | .stopping => some .stopping
  | .closing => some .closing
  | _ => none

/-- the start or the stop under a number -/
def stage? (s : Session) (n : Nat) : Option Stage := (s.activities.find? n).bind Activity.stage?

/-- what a start and a stop change -/
structure Marks where
  started : Bool
  initialized : Bool
  listeners : List Follower
  subscribed : Bool
  /-- the first render, and whether it is to be cancelled -/
  doomed : Option Bool
deriving Repr, DecidableEq

def marks (s : Session) : Marks where
  started := s.started
  initialized := s.desk.engine.initialized
  listeners := s.buffer.listeners
  subscribed := s.subscribed
  doomed := s.first.map First.doomed

/-- where a session stands, with the number of the start or stop under way -/
inductive Phase where
  | off
  | opening (n : Nat)
  | rooting (n : Nat)
  | on
  | stopping (n : Nat)
  /-- a session that has not started is closed too when it is stopped -/
  | closing (n : Nat) (started : Bool)
deriving Repr, DecidableEq

namespace Phase

def marks : Phase → Marks
  | off | opening _ | rooting _ => ⟨false, false, [], false, none⟩
  | on => ⟨true, true, [.render], true, some false⟩
  | stopping _ => ⟨true, true, [], false, some true⟩
  | closing _ started => ⟨started, false, [], false, none⟩

/-- the start or stop under way -/
def under : Phase → Option (Nat × Stage)
  | off | on => none
  | opening n => some (n, .opening)
  | rooting n => some (n, .rooting)
  | stopping n => some (n, .stopping)
  | closing n _ => some (n, .closing)

def stage? (p : Phase) (k : Nat) : Option Stage :=
  p.under.bind fun u => if k = u.1 then some u.2 else none

theorem under_of_stage {p : Phase} {n : Nat} {g : Stage} (h : p.stage? n = some g) :
    p.under = some (n, g) := by
  obtain ⟨⟨k, g'⟩, under, at_⟩ := Option.bind_eq_some_iff.mp h
  simp only at at_
  split at at_
  · next own =>
    cases at_
    rw [under, own]
  · cases at_

end Phase

/-! ## The bookkeeping -/

/-- what an activity has at the desk -/
def Activity.Has : Activity → Option Call → Prop
  | .rooting, c => c = some .makeRoot
  | .closing, c => c = some .shutdown
  | .plain, c => ∃ x, c = some x ∧ x.works = true
  | .announcing a _, c => a.listeners = [] ∧ ∃ x, c = some x ∧ x.works = true
  | _, c => c = none

/-- nobody has a call at the desk without an activity -/
def Fits : Option Activity → Option Call → Prop
  | none, c => c = none
  | some a, c => a.Has c

/-- the activity may be the first render -/
def Activity.renders : Activity → Bool
  | .first _ | .plain => true
  | _ => false

/-- the first render is under way just as long as it has not ended -/
def First.Fits (f : First) : Option Activity → Prop
  | none => f.ended.isSome = true
  | some a => f.ended = none ∧ a.renders = true

structure Sound (s : Session) : Prop where
  fits : ∀ n, Fits (s.activities.find? n) (s.desk.calls.find? n)
  new : ∀ n, s.next ≤ n → s.activities.find? n = none
  first : ∀ f, s.first = some f → f.number < s.next ∧ f.Fits (s.activities.find? f.number)

/-- a session in a phase -/
structure Kept (s : Session) (p : Phase) : Prop where
  sound : s.Sound
  marks : s.marks = p.marks
  stage : ∀ n, s.stage? n = p.stage? n

variable {setup : Setup} {s : Session} {p p' : Phase} {n : Nat} {d : Desk} {a : Activity}
  {a? : Option Activity} {x : Desk × List Signal} {y : Session × List Signal} {f : First}

theorem Kept.under {g : Stage} (hs : s.Kept p) (h : s.activities.find? n = some a)
    (stage : a.stage? = some g) : p.under = some (n, g) := by
  refine Phase.under_of_stage ?_
  rw [← hs.stage, Session.stage?, h]
  exact stage

theorem Sound.no_call (hs : s.Sound) (h : s.activities.find? n = none) :
    s.desk.calls.find? n = none := by
  have fits := hs.fits n
  rwa [h] at fits

theorem Sound.has (hs : s.Sound) (h : s.activities.find? n = some a) :
    a.Has (s.desk.calls.find? n) := by
  have fits := hs.fits n
  rwa [h] at fits

theorem Sound.first_of_find (hs : s.Sound) (h : s.activities.find? n = some a)
    (hf : s.first = some f) (own : f.number = n) : f.ended = none ∧ a.renders = true := by
  have fits := (hs.first f hf).2
  rwa [own, h] at fits

theorem Sound.ne_of_new (hs : s.Sound) (new : s.next ≤ n) (hf : s.first = some f) :
    f.number ≠ n := by
  have := (hs.first f hf).1
  omega

theorem Sound.took (hs : s.Sound) : s.took.Sound where
  fits := hs.fits
  new := fun k hk => hs.new k (by simp only [Session.took] at hk; omega)
  first := fun f hf => ⟨Nat.lt_succ_of_lt (hs.first f hf).1, (hs.first f hf).2⟩

/-! ## An activity goes on or ends -/

/-- the activity `n` goes on as `a?`, or it ends; the desk is `d` then -/
inductive Moves (s : Session) (n : Nat) (d : Desk) : Option Activity → Session × List Signal → Prop
  | goesOn {as : Roster Activity} {a : Activity} {signals : List Signal}
      (view : ∀ k, as.find? k = if k = n then some a else s.activities.find? k)
      (has : a.Has (d.calls.find? n))
      (first : ∀ f, s.first = some f → f.number = n → f.ended = none ∧ a.renders = true) :
      Moves s n d (some a) ({ s with desk := d, activities := as }, signals)
  | ends {result : Except Fault Result} {signals : List Signal}
      (gone : d.calls.find? n = none) (told : .returned n result ∈ signals) :
      Moves s n d none (({ s with desk := d }.finish n result).1, signals)

theorem marks_finish (s : Session) (n : Nat) (result : Except Fault Result) :
    (s.finish n result).1.marks = s.marks := by
  simp only [finish]
  split
  · next f hf =>
    split
    · simp [Session.marks, hf]
    · rfl
  · rfl

theorem first_finish (s : Session) (n : Nat) (result : Except Fault Result) :
    (s.finish n result).1.first =
      s.first.map fun f => if f.number = n then { f with ended := some result } else f := by
  simp only [finish]
  split
  · next f hf =>
    rw [hf]
    split
    · next own => simp [own]
    · next other => simp [other]
  · next none => simp [none]

/-- an activity that learns how the first render ended is otherwise what it was -/
theorem Activity.join_alike (result : Except Fault Result) (a : Activity) :
    (a.join result).stage? = a.stage? ∧ (∀ c, a.Has c → (a.join result).Has c) ∧
      (a.join result).renders = a.renders := by
  cases a <;> exact ⟨rfl, fun _ h => h, rfl⟩

theorem finish_others (s : Session) {n k : Nat} (result : Except Fault Result) (other : k ≠ n) :
    (s.finish n result).1.activities.find? k = s.activities.find? k ∨
      (s.finish n result).1.activities.find? k = (s.activities.find? k).map (.join result) := by
  have dropped : (s.activities.drop n).find? k = s.activities.find? k :=
    Roster.find?_drop_of_ne _ other
  simp only [finish]
  split
  · split
    · exact .inr (by rw [Roster.find?_map, dropped])
    · exact .inl dropped
  · exact .inl dropped

theorem finish_own (s : Session) (n : Nat) (result : Except Fault Result) :
    (s.finish n result).1.activities.find? n = none := by
  obtain ⟨g, -, view⟩ := finish_view s n result
  exact (view n).trans (if_pos rfl)

namespace Moves

theorem find?_of_ne (moves : Moves s n d a? y) {k : Nat} (other : k ≠ n) :
    y.1.activities.find? k = s.activities.find? k ∨
      ∃ result, y.1.activities.find? k = (s.activities.find? k).map (.join result) := by
  cases moves with
  | goesOn view => exact .inl ((view k).trans (if_neg other))
  | @ends result =>
    exact (finish_others { s with desk := d } result other).imp_right fun h => ⟨result, h⟩

theorem find?_self (moves : Moves s n d a? y) : y.1.activities.find? n = a? := by
  cases moves with
  | goesOn view => exact (view n).trans (if_pos rfl)
  | ends => exact finish_own _ n _

theorem next (moves : Moves s n d a? y) : y.1.next = s.next := by
  cases moves with
  | goesOn => rfl
  | ends => exact (finish_keeps { s with desk := d } n _).2.2.2.1

theorem desk (moves : Moves s n d a? y) : y.1.desk = d := by
  cases moves with
  | goesOn => rfl
  | ends => exact (finish_keeps { s with desk := d } n _).1

theorem marks (moves : Moves s n d a? y) :
    y.1.marks = { s.marks with initialized := d.engine.initialized } := by
  cases moves with
  | goesOn => rfl
  | ends => exact marks_finish { s with desk := d } n _

theorem stage (moves : Moves s n d a? y) (k : Nat) :
    y.1.stage? k = if k = n then a?.bind Activity.stage? else s.stage? k := by
  split
  · next own =>
    rw [own, Session.stage?, moves.find?_self]
  · next other =>
    simp only [Session.stage?]
    rcases moves.find?_of_ne other with same | ⟨result, joined⟩
    · rw [same]
    · rw [joined]
      cases s.activities.find? k with
      | none => rfl
      | some b => exact (b.join_alike result).1

/-- the first render is the one that goes on or ends here, or it is that of before -/
theorem first_cases (moves : Moves s n d a? y) (hf : y.1.first = some f) :
    f.number = n ∧ f.Fits a? ∨ f.number ≠ n ∧ s.first = some f := by
  cases moves with
  | goesOn view has first =>
    by_cases own : f.number = n
    · exact .inl ⟨own, first f hf own⟩
    · exact .inr ⟨own, hf⟩
  | @ends result =>
    rw [first_finish] at hf
    obtain ⟨f₀, hf₀, e⟩ := Option.map_eq_some_iff.mp hf
    split at e
    · next own =>
      rw [← e]
      exact .inl ⟨own, rfl⟩
    · next other =>
      rw [← e]
      exact .inr ⟨other, hf₀⟩

end Moves

theorem Fits.join {o : Option Activity} {c : Option Call} (h : Fits o c)
    (result : Except Fault Result) : Fits (o.map (.join result)) c := by
  cases o with
  | none => exact h
  | some b => exact (b.join_alike result).2.1 c h

theorem First.Fits.join {o : Option Activity} (h : f.Fits o) (result : Except Fault Result) :
    f.Fits (o.map (.join result)) := by
  cases o with
  | none => exact h
  | some b => exact ⟨h.1, (b.join_alike result).2.2.trans h.2⟩

/-- **The bookkeeping stays right** when an activity goes on or ends. -/
theorem Sound.moves (hs : s.Sound) (lt : n < s.next) (moves : Moves s n d a? y)
    (others : ∀ k, k ≠ n → d.calls.find? k = s.desk.calls.find? k) : y.1.Sound where
  fits := by
    intro k
    rw [moves.desk]
    by_cases own : k = n
    · rw [own, moves.find?_self]
      cases moves with
      | goesOn view has => exact has
      | ends gone => exact gone
    · rw [others k own]
      rcases moves.find?_of_ne own with same | ⟨result, joined⟩
      · rw [same]
        exact hs.fits k
      · rw [joined]
        exact (hs.fits k).join result
  new := by
    intro k hk
    rw [moves.next] at hk
    rcases moves.find?_of_ne (k := k) (by omega) with same | ⟨result, joined⟩
    · rw [same, hs.new k hk]
    · rw [joined, hs.new k hk]
      rfl
  first := by
    intro f hf
    rw [moves.next]
    rcases moves.first_cases hf with ⟨own, fits⟩ | ⟨other, hf₀⟩
    · rw [own, moves.find?_self]
      exact ⟨lt, fits⟩
    · obtain ⟨bound, fits⟩ := hs.first f hf₀
      refine ⟨bound, ?_⟩
      rcases moves.find?_of_ne other with same | ⟨result, joined⟩
      · rw [same]
        exact fits
      · rw [joined]
        exact fits.join result

/-- an activity goes on or ends, and with it a phase -/
theorem Kept.moves (hs : s.Kept p) (lt : n < s.next) (moves : Moves s n d a? y)
    (others : ∀ k, k ≠ n → d.calls.find? k = s.desk.calls.find? k)
    (marks : { p.marks with initialized := d.engine.initialized } = p'.marks)
    (stage : ∀ k, p'.stage? k = if k = n then a?.bind Activity.stage? else p.stage? k) :
    y.1.Kept p' where
  sound := hs.sound.moves lt moves others
  marks := by rw [moves.marks, hs.marks, marks]
  stage := fun k => by rw [moves.stage, stage, hs.stage]

/-- an activity that is neither a start nor a stop leaves the phase as it is -/
theorem Kept.aside (hs : s.Kept p) (lt : n < s.next) (moves : Moves s n d a? y)
    (others : ∀ k, k ≠ n → d.calls.find? k = s.desk.calls.find? k)
    (initialized : d.engine.initialized = s.desk.engine.initialized)
    (plain : a?.bind Activity.stage? = none) (apart : s.stage? n = none) : y.1.Kept p := by
  have same : d.engine.initialized = p.marks.initialized := by
    rw [initialized, ← hs.marks]
    rfl
  refine hs.moves lt moves others (by rw [same]) fun k => ?_
  split
  · next own => rw [own, ← hs.stage, apart, plain]
  · rfl

end SnippetStudio.Session
