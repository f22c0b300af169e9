import SnippetStudio.Proofs.Session.Phases

/-!
# Moves that are neither part of a start nor of a stop

Most of what happens to a session leaves its phase alone: an activity begins, goes on, or ends, with whatever
it does at the desk (`Plainly`).  Beside the phase, every move carries the first render on (`Carries`): it
goes on, or its end is told, and when a session has just started, its text is that of the buffer.

* `plainly_last`, `plainly_tell`, `plainly_went`   what becomes of an activity whose call has had a turn;
* `shift_begin`, `shift_goes`                      an activity begins, or one that began before goes on;
* `shift_announce`, `shift_wait`, `shift_command`  the commands.
-/

namespace SnippetStudio.Session

open Preview (Desk Signal Setup Result Call)

variable {s s₁ : Session} {p : Phase} {n : Nat} {d : Desk} {a : Activity}
  {a? : Option Activity} {x : Desk × List Signal} {y : Session × List Signal}

/-- what a move does to the first render, and to whatever is over -/
structure Carries (s : Session) (y : Session × List Signal) : Prop where
  next : s.next ≤ y.1.next
  /-- no number is given out twice -/
  gone : ∀ k, k < s.next → s.activities.find? k = none → y.1.activities.find? k = none
  /-- the first render goes on, or its end is told -/
  goesOn : ∀ f, s.first = some f → f.ended = none →
    (∃ f', y.1.first = some f' ∧ f'.number = f.number ∧ f'.ended = none) ∨
      ∃ result, .returned f.number result ∈ y.2 ∧ y.1.activities.find? f.number = none
  told : ∀ f result, y.1.first = some f → f.ended = some result →
    .returned f.number result ∈ y.2 ∨
      ∃ f₀, s.first = some f₀ ∧ f₀.number = f.number ∧ f₀.ended = some result
  /-- a session that has just started has a first render of its text -/
  starts : s.started = false → y.1.started = true → ∃ f, y.1.first = some f ∧ f.ended = none ∧
    y.1.activities.find? f.number = some (.first y.1.buffer.text)

/-- a move into a phase -/
structure Shift (s : Session) (p : Phase) (y : Session × List Signal) : Prop where
  kept : y.1.Kept p
  carries : Carries s y

theorem carries_nothing (s : Session) : Carries s (s, []) where
  next := Nat.le_refl _
  gone := fun _ _ h => h
  goesOn := fun f hf going => .inl ⟨f, hf, rfl, going⟩
  told := fun f _ hf ended => .inr ⟨f, hf, rfl, ended⟩
  starts := fun off on => by rw [off] at on; cases on

theorem shift_nothing (hs : s.Kept p) : Shift s p (s, []) := ⟨hs, carries_nothing s⟩

/-- the activity was there before, or has a number of its own -/
theorem Moves.gone (moves : Moves s₁ n d a? y) (activities : s₁.activities = s.activities)
    (own : s.next ≤ n ∨ (s.activities.find? n).isSome = true) (k : Nat) (lt : k < s.next)
    (free : s.activities.find? k = none) : y.1.activities.find? k = none := by
  have other : k ≠ n := by
    rintro rfl
    rcases own with le | there
    · omega
    · rw [free] at there
      cases there
  rcases moves.find?_of_ne other with same | ⟨result, joined⟩
  · rw [same, activities, free]
  · rw [joined, activities, free]
    rfl

theorem Moves.carries (moves : Moves s₁ n d a? y) (first : s₁.first = s.first)
    (started : s₁.started = true → s.started = true) (activities : s₁.activities = s.activities)
    (next : s.next ≤ s₁.next) (own : s.next ≤ n ∨ (s.activities.find? n).isSome = true) :
    Carries s y where
  next := by rw [moves.next]; exact next
  gone := moves.gone activities own
  goesOn := by
    intro f hf going
    cases moves with
    | goesOn => exact .inl ⟨f, first.trans hf, rfl, going⟩
    | @ends result signals gone told =>
      by_cases number : f.number = n
      · exact .inr ⟨result, by rw [number]; exact told, by rw [number]; exact finish_own _ n _⟩
      · refine .inl ⟨f, ?_, rfl, going⟩
        rw [first_finish]
        show s₁.first.map _ = _
        rw [first, hf, Option.map_some, if_neg number]
  told := by
    intro f result hf ended
    cases moves with
    | goesOn => exact .inr ⟨f, first.symm.trans hf, rfl, ended⟩
    | @ends result' signals gone told =>
      rw [first_finish] at hf
      obtain ⟨f₀, hf₀, e⟩ := Option.map_eq_some_iff.mp hf
      split at e
      · next number =>
        rw [← e] at ended ⊢
        cases ended
        rw [number]
        exact .inl told
      · rw [← e]
        rw [← e] at ended
        exact .inr ⟨f₀, first.symm.trans hf₀, rfl, ended⟩
  starts := by
    intro off on
    have same : y.1.started = s₁.started := congrArg Marks.started moves.marks
    rw [started (same.symm.trans on)] at off
    cases off

/-! ## Activities that are neither a start nor a stop -/

theorem Activity.has_of_atDesk {c : Call} (at_ : a.atDesk = true) (works : c.works = true) :
    a.Has (some c) := by
  cases a with
  | plain => exact ⟨c, rfl, works⟩
  | announcing => exact ⟨List.isEmpty_iff.mp at_, c, rfl, works⟩
  | _ => cases at_

theorem Activity.stage_of_atDesk (at_ : a.atDesk = true) : a.stage? = none := by
  cases a with
  | plain | announcing => rfl
  | _ => cases at_

/-- an activity goes on or ends, and is neither a start nor a stop -/
def Plainly (s : Session) (n : Nat) (d : Desk) (y : Session × List Signal) : Prop :=
  ∃ a?, Moves s n d a? y ∧ a?.bind Activity.stage? = none

theorem plainly_finish (free : s.desk.calls.find? n = none) (result : Except Fault Result) :
    Plainly s n s.desk (s.finish n result) :=
  ⟨none, .ends free (finish_keeps s n result).2.2.2.2.2, rfl⟩

theorem plainly_ends (gone : x.1.calls.find? n = none) (result : Except Fault Result) :
    Plainly s n x.1 (({ s with desk := x.1 }.finish n result).1,
      passed x.2 ++ ({ s with desk := x.1 }.finish n result).2) :=
  ⟨none, .ends gone (List.mem_append_right _ (finish_keeps _ n result).2.2.2.2.2), rfl⟩

/-- an activity whose result is its call's -/
theorem plainly_last (left : Left n x) (h : s.activities.find? n = some a) (at_ : a.atDesk = true)
    (first : ∀ f, s.first = some f → f.number = n → f.ended = none ∧ a.renders = true) :
    Plainly s n x.1 (s.last n x) := by
  cases left with
  | waits call works silent =>
    simp only [last, silent]
    refine ⟨some a, .goesOn (fun k => ?_) ?_ first, Activity.stage_of_atDesk at_⟩
    · split
      · next own => rw [own, h]
      · rfl
    · rw [call]
      exact Activity.has_of_atDesk at_ works
  | returned gone told =>
    simp only [last, told]
    exact plainly_ends gone _

/-- what was entered for the activity before is gone -/
theorem Plainly.of_put {b : Activity} (h : Plainly (s.put n b) n d y) : Plainly s n d y := by
  obtain ⟨a?, moves, plain⟩ := h
  refine ⟨a?, ?_, plain⟩
  cases moves with
  | goesOn view has first =>
    refine .goesOn (fun k => ?_) has first
    rw [view, put, Roster.find?_put]
    split <;> rfl
  | @ends result signals gone told =>
    have e : { s.put n b with desk := d }.finish n result = { s with desk := d }.finish n result :=
      finish_put { s with desk := d } n b result
    rw [e]
    exact .ends gone told

theorem plainly_put (left : Left n x)
    (first : ∀ f, s.first = some f → f.number = n → f.ended = none) :
    Plainly s n x.1 ((s.put n .plain).last n x) :=
  .of_put (plainly_last left (Roster.find?_put_self _ _ _) rfl fun f hf own =>
    ⟨first f hf own, rfl⟩)

theorem plainly_tell (result : Bool) (text : String) (left : Left n (s.desk.start n (.render text)))
    (first : ∀ f, s.first = some f → f.number ≠ n) :
    Plainly s n (s.desk.start n (.render text)).1 (s.tell n result text [.render]) := by
  cases left with
  | waits call works silent =>
    simp only [tell, silent]
    refine ⟨_, .goesOn (a := .announcing ⟨text, []⟩ result) (fun k => Roster.find?_put _ k n _) ?_
      fun f hf own => absurd own (first f hf), rfl⟩
    rw [call]
    exact ⟨rfl, _, rfl, works⟩
  | @returned r gone told =>
    cases r with
    | error f =>
      simp only [tell, told]
      exact plainly_ends gone _
    | ok r =>
      simp only [tell, told]
      exact plainly_ends gone _

theorem plainly_went (left : Left n x) (h : s.activities.find? n = some a) (at_ : a.atDesk = true)
    (first : ∀ f, s.first = some f → f.number = n → f.ended = none ∧ a.renders = true) :
    Plainly s n x.1 (s.went n x) := by
  have plain := plainly_last left h at_ first
  cases a with
  | plain =>
    simp only [went, h]
    exact plain
  | announcing a result =>
    obtain ⟨text, listeners⟩ := a
    obtain rfl : listeners = [] := List.isEmpty_iff.mp at_
    cases left with
    | waits call works silent =>
      simp only [went, h, silent]
      exact plain
    | @returned r gone told =>
      cases r with
      | error f =>
        simp only [went, h, told]
        exact plain
      | ok r =>
        simp only [went, h, told, tell]
        exact plainly_ends gone _
  | _ => cases at_

/-- the session with a number given out, and perhaps another text -/
theorem Kept.opened {b : Buffer Follower} (hs : s.Kept p)
    (listeners : b.listeners = s.buffer.listeners) : Kept { s.took with buffer := b } p where
  sound := ⟨hs.sound.took.fits, hs.sound.took.new, hs.sound.took.first⟩
  marks := by
    rw [← hs.marks]
    simp only [Session.marks, took, listeners]
  stage := hs.stage

theorem shift_begin {b : Buffer Follower} (hs : s.Kept p)
    (listeners : b.listeners = s.buffer.listeners)
    (plainly : Plainly { s.took with buffer := b } s.next d y)
    (others : ∀ k, k ≠ s.next → d.calls.find? k = s.desk.calls.find? k)
    (initialized : d.engine.initialized = s.desk.engine.initialized) : Shift s p y := by
  obtain ⟨a?, moves, plain⟩ := plainly
  have apart : s.stage? s.next = none := by
    rw [Session.stage?, hs.sound.new _ (Nat.le_refl _)]
    rfl
  exact ⟨(hs.opened listeners).aside (Nat.lt_succ_self _) moves others initialized plain apart,
    moves.carries rfl id rfl (Nat.le_succ _) (.inl (Nat.le_refl _))⟩

theorem Sound.lt_of_find (hs : s.Sound) (h : s.activities.find? n = some a) : n < s.next := by
  refine Nat.lt_of_not_le fun le => ?_
  rw [hs.new n le] at h
  cases h

theorem shift_goes (hs : s.Kept p) (h : s.activities.find? n = some a) (apart : a.stage? = none)
    (plainly : Plainly s n d y) (others : ∀ k, k ≠ n → d.calls.find? k = s.desk.calls.find? k)
    (initialized : d.engine.initialized = s.desk.engine.initialized) : Shift s p y := by
  obtain ⟨a?, moves, plain⟩ := plainly
  have apart : s.stage? n = none := by
    rw [Session.stage?, h]
    exact apart
  exact ⟨hs.aside (hs.sound.lt_of_find h) moves others initialized plain apart,
    moves.carries rfl id rfl (Nat.le_refl _) (.inr (by rw [h]; rfl))⟩

theorem shift_went (hs : s.Kept p) (h : s.activities.find? n = some a) (at_ : a.atDesk = true)
    (turn : Turn s.desk n x) : Shift s p (s.went n x) :=
  shift_goes hs h (Activity.stage_of_atDesk at_)
    (plainly_went turn.left h at_ fun _ hf own => hs.sound.first_of_find h hf own)
    turn.others turn.initialized

theorem shift_away (hs : s.Kept p) (h : x = (s.desk, [])) : Shift s p (s.went n x) := by
  rw [h, went_nothing]
  exact shift_nothing hs

theorem Kept.free (hs : s.Kept p) : s.desk.calls.find? s.next = none :=
  hs.sound.no_call (hs.sound.new _ (Nat.le_refl _))

theorem shift_finish {b : Buffer Follower} (hs : s.Kept p)
    (listeners : b.listeners = s.buffer.listeners) (result : Except Fault Result) :
    Shift s p (finish { s.took with buffer := b } s.next result) :=
  shift_begin hs listeners (plainly_finish (s := { s.took with buffer := b }) hs.free result)
    (fun _ _ => rfl) rfl

theorem shift_announce (hs : s.Kept p) (e : Edit) : Shift s p (s.took.announce s.next e) := by
  have listens : s.buffer.listeners = [] ∨ s.buffer.listeners = [.render] := by
    have marks : s.buffer.listeners = p.marks.listeners := congrArg Marks.listeners hs.marks
    rw [marks]
    cases p <;> simp [Phase.marks]
  obtain ⟨listeners, ⟨-, silent⟩ | ⟨-, announced⟩⟩ := s.buffer.edit_announcement e
  · simp only [announce, took, silent]
    exact shift_finish hs listeners _
  · simp only [announce, took, announced]
    rcases listens with nobody | engine
    · rw [nobody]
      exact shift_finish hs listeners _
    · rw [engine]
      have turn := turn_start hs.free (c := .render (s.buffer.edit e).buffer.text) rfl
      exact shift_begin hs listeners
        (plainly_tell _ _ turn.left fun f hf => hs.sound.ne_of_new (Nat.le_refl _) hf)
        turn.others turn.initialized

theorem shift_wait (hs : s.Kept p) : Shift s p (s.took.begin s.next .wait) := by
  have waits : Plainly s.took s.next s.desk (s.took.put s.next .joining, []) :=
    ⟨_, .goesOn (fun k => Roster.find?_put _ k _ _) hs.free fun f hf own =>
      absurd own (hs.sound.ne_of_new (Nat.le_refl _) hf), rfl⟩
  simp only [begin]
  split
  · exact shift_finish hs rfl _
  · exact shift_finish hs rfl _
  · exact shift_begin hs rfl waits (fun _ _ => rfl) rfl

theorem shift_command (hs : s.Kept p) {c : Preview.Command} (works : c.works = true) :
    Shift s p (s.took.begin s.next (.engine c)) := by
  have turn := turn_start hs.free works
  exact shift_begin hs rfl
    (plainly_put turn.left fun f hf own => absurd own (hs.sound.ne_of_new (Nat.le_refl _) hf))
    turn.others turn.initialized

end SnippetStudio.Session
