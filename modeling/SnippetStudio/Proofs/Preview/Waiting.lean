import SnippetStudio.Proofs.Preview.Alone

/-!
# Waiting for the compiler

A render whose compiler is not ready polls it until it is.  All that is left of the polls is that the log says so
just once, and nothing else depends on that.

* `Desk.polls`         polls that are answered with no, each with the pause behind it;
* `Desk.Alike`         desks that differ at most in which renders have waited;
* `Alike.move`         a step keeps desks alike, and what others hear of it is the same;
* `run_polls`          polls leave a render that is alone as it was;
* `waiting_invisible`  **a render that waits comes to what it comes to without the wait**.
-/

namespace SnippetStudio.Preview

/-! ## Steps of renders that have waited -/

/-- turns that differ at most in the log and in whether the render has waited -/
structure Turn.Alike (t t' : Turn) : Prop where
  engine : t'.engine = t.engine
  render : ∃ b, t'.render = { t.render with polled := b }
  next : t'.next = t.next

theorem Turn.Alike.refl (t : Turn) : t.Alike t := ⟨rfl, ⟨t.render.polled, rfl⟩, rfl⟩

namespace Render

variable {s : Setup} {e : Engine} {r : Render}

theorem alike_fail (b : Bool) (f : Failure) : (r.fail e f).Alike (fail e { r with polled := b } f) := by
  unfold fail
  split <;> exact ⟨rfl, ⟨b, rfl⟩, rfl⟩

theorem alike_trouble (b : Bool) (t : Trouble) : (r.trouble s e t).Alike (trouble s e { r with polled := b } t) := by
  cases t with
  | notReady message => exact ⟨rfl, ⟨true, rfl⟩, rfl⟩
  | failure f => exact ⟨rfl, ⟨b, rfl⟩, rfl⟩
  | fault f => exact ⟨rfl, ⟨b, rfl⟩, rfl⟩

theorem alike_failWith (b : Bool) (stage : Stage) (error : Json) :
    (r.failWith e stage error).Alike (failWith e { r with polled := b } stage error) := by
  unfold failWith
  split
  · exact alike_fail b _
  · exact ⟨rfl, ⟨b, rfl⟩, rfl⟩

theorem alike_poll (b : Bool) : (r.poll e).Alike (poll e { r with polled := b }) := by
  unfold poll
  split <;> exact ⟨rfl, ⟨b, rfl⟩, rfl⟩

theorem alike_enter (b : Bool) (w : Work) : (r.enter e w).Alike (enter e { r with polled := b } w) := by
  cases w with
  | report f => exact alike_fail b f
  | mount code =>
    by_cases late : e.supersedes r.version = true <;> simp only [enter, late] <;> exact ⟨rfl, ⟨b, rfl⟩, rfl⟩

theorem alike_answer (b : Bool) (o : Outcome) : (r.answer s e o).Alike (answer s e { r with polled := b } o) := by
  unfold answer
  dsimp only
  split
  · split
    · exact ⟨rfl, ⟨b, rfl⟩, rfl⟩
    · exact alike_trouble b _
  · split
    · exact ⟨rfl, ⟨b, rfl⟩, rfl⟩
    · exact alike_trouble b _
  · split
    · exact alike_fail b _
    · split
      · split <;> exact ⟨rfl, ⟨b, rfl⟩, rfl⟩
      · exact alike_failWith b _ _
  · split
    · exact alike_fail b _
    · split
      · exact ⟨rfl, ⟨b, rfl⟩, rfl⟩
      · exact alike_failWith b _ _
  · split <;> exact ⟨rfl, ⟨b, rfl⟩, rfl⟩
  all_goals exact ⟨rfl, ⟨b, rfl⟩, rfl⟩

end Render

/-- calls that differ at most in whether a render has waited -/
inductive Call.Alike : Call → Call → Prop
  | render (r : Render) (b : Bool) : Alike (.render r) (.render { r with polled := b })
  | other {c : Call} (h : ∀ r, c ≠ .render r) : Alike c c

namespace Desk

variable {s : Setup} {d d' : Desk} {n : Nat}

/-- desks that differ at most in which renders have waited -/
structure Alike (d d' : Desk) : Prop where
  engine : d'.engine = d.engine
  calls : ∀ n, Option.Rel Call.Alike (d.calls.find? n) (d'.calls.find? n)
  holder : d'.holder = d.holder
  queue : d'.queue = d.queue

/-- what follows is alike, and all that happens but for the log is the same -/
def Likewise (x x' : Desk × List Signal) : Prop := x.1.Alike x'.1 ∧ spoken x'.2 = spoken x.2

namespace Alike

/-- a call is on both desks or on neither -/
theorem found (alike : d.Alike d') (n : Nat) :
    d.calls.find? n = none ∧ d'.calls.find? n = none ∨
    (∃ r b, d.calls.find? n = some (.render r) ∧ d'.calls.find? n = some (.render { r with polled := b })) ∨
    ∃ c, (∀ r, c ≠ .render r) ∧ d.calls.find? n = some c ∧ d'.calls.find? n = some c := by
  have calls := alike.calls n
  generalize d.calls.find? n = x at calls ⊢
  generalize d'.calls.find? n = x' at calls ⊢
  cases calls with
  | none => exact .inl ⟨rfl, rfl⟩
  | some h =>
    cases h with
    | render r b => exact .inr (.inl ⟨r, b, rfl, rfl⟩)
    | other h => exact .inr (.inr ⟨_, h, rfl, rfl⟩)

theorem put (alike : d.Alike d') {c c' : Call} (hc : c.Alike c') : (d.put n c).Alike (d'.put n c') := by
  refine ⟨alike.engine, fun m => ?_, alike.holder, alike.queue⟩
  simp only [Desk.put, Roster.find?_put]
  split
  · exact .some hc
  · exact alike.calls m

theorem drop (alike : d.Alike d') (n : Nat) :
    ({ d with calls := d.calls.drop n, queue := d.queue.filter (· != n) } : Desk).Alike
      { d' with calls := d'.calls.drop n, queue := d'.queue.filter (· != n) } := by
  refine ⟨alike.engine, fun m => ?_, alike.holder, congrArg (List.filter (· != n)) alike.queue⟩
  simp only [Roster.find?_drop]
  split
  · exact .none
  · exact alike.calls m

theorem pass (alike : d.Alike d') : d.pass.1.Alike d'.pass.1 ∧ d'.pass.2 = d.pass.2 := by
  unfold Desk.pass
  rw [alike.queue]
  cases d.queue with
  | nil => exact ⟨⟨alike.engine, alike.calls, rfl, rfl⟩, rfl⟩
  | cons m q => exact ⟨⟨alike.engine, alike.calls, rfl, rfl⟩, rfl⟩

theorem leave (alike : d.Alike d') (n : Nat) (result : Except Fault Result) :
    Likewise (d.leave n result) (d'.leave n result) := by
  have dropped := alike.drop n
  unfold Desk.leave
  by_cases held : d.holder = some n
  · have held' : d'.holder = some n := alike.holder.trans held
    obtain ⟨passed, woken⟩ := dropped.pass
    simp only [if_pos held, if_pos held']
    exact ⟨passed, by rw [woken]⟩
  · have held' : d'.holder ≠ some n := fun h => held (alike.holder.symm.trans h)
    simp only [if_neg held, if_neg held']
    exact ⟨dropped, rfl⟩

theorem with_engine (alike : d.Alike d') {e e' : Engine} (he : e' = e) :
    ({ d with engine := e } : Desk).Alike { d' with engine := e' } :=
  ⟨he, alike.calls, alike.holder, alike.queue⟩

theorem settleHeld (alike : d.Alike d') {t t' : Turn} (ht : t.Alike t') (n : Nat) :
    Likewise (d.settleHeld n t) (d'.settleHeld n t') := by
  obtain ⟨b, render⟩ := ht.render
  have went := alike.with_engine ht.engine
  have kept : ∀ c : Call, c = .render t'.render → (Call.render t.render).Alike c := by
    rintro c rfl
    rw [render]
    exact .render t.render b
  unfold Desk.settleHeld
  rw [ht.next]
  cases t.next with
  | ask q =>
    refine ⟨went.put (kept _ rfl), ?_⟩
    rw [spoken_append, spoken_append, spoken_said, spoken_said]
  | pause =>
    refine ⟨went.put (kept _ rfl), ?_⟩
    rw [spoken_append, spoken_append, spoken_said, spoken_said]
  | want w =>
    refine ⟨went.put (kept _ rfl), ?_⟩
    rw [spoken_said, spoken_said]
  | done =>
    obtain ⟨left, heard⟩ := went.leave n (.ok .nothing)
    refine ⟨left, ?_⟩
    rw [spoken_append, spoken_append, spoken_said, spoken_said, heard]
  | failed f =>
    obtain ⟨left, heard⟩ := went.leave n (.error f)
    refine ⟨left, ?_⟩
    rw [spoken_append, spoken_append, spoken_said, spoken_said, heard]

theorem enter (alike : d.Alike d') (n : Nat) (r : Render) (b : Bool) (w : Work) :
    Likewise (d.enter n r w) (d'.enter n { r with polled := b } w) := by
  have held : ({ d with holder := some n } : Desk).Alike { d' with holder := some n } :=
    ⟨alike.engine, alike.calls, rfl, alike.queue⟩
  unfold Desk.enter
  rw [alike.engine]
  exact held.settleHeld (Render.alike_enter b w) n

theorem settle (alike : d.Alike d') {t t' : Turn} (ht : t.Alike t') (n : Nat) :
    Likewise (d.settle n t) (d'.settle n t') := by
  obtain ⟨b, render⟩ := ht.render
  have went := alike.with_engine ht.engine
  cases next : t.next with
  | want w =>
    have next' : t'.next = .want w := ht.next.trans next
    cases holder : d.holder with
    | none =>
      have holder' : d'.holder = none := alike.holder.trans holder
      obtain ⟨entered, heard⟩ := went.enter n t.render b w
      simp only [Desk.settle, next, next', holder, holder', render] at entered heard ⊢
      refine ⟨entered, ?_⟩
      rw [spoken_append, spoken_append, spoken_said, spoken_said]
      exact congrArg ([] ++ ·) heard
    | some k =>
      have holder' : d'.holder = some k := alike.holder.trans holder
      have queued := went.put (n := n) (.render t.render b)
      simp only [Desk.settle, next, next', holder, holder', render]
      refine ⟨⟨queued.engine, queued.calls, rfl, congrArg (· ++ [n]) queued.queue⟩, ?_⟩
      rw [spoken_said, spoken_said]
  | ask | pause | done | failed =>
    have held : ∀ w, t.next ≠ .want w := fun w h => by cases next.symm.trans h
    rw [settle_of_ne_want held, settle_of_ne_want fun w h => held w (ht.next.symm.trans h)]
    exact alike.settleHeld ht n

theorem startRender (alike : d.Alike d') (n : Nat) (source : String) :
    Likewise (d.startRender n source) (d'.startRender n source) := by
  unfold Desk.startRender
  rw [alike.engine]
  exact alike.settle (.refl _) n

theorem askOnce (alike : d.Alike d') (n : Nat) {c : Call} (hc : ∀ r, c ≠ .render r) (q : Request) :
    Likewise (d.askOnce n c q) (d'.askOnce n c q) :=
  ⟨alike.put (.other hc), rfl⟩

theorem start (alike : d.Alike d') (n : Nat) (c : Command) : Likewise (d.start n c) (d'.start n c) := by
  have refused (o : Engine.Operation) : Likewise (d.refuse n o) (d'.refuse n o) := ⟨alike, rfl⟩
  cases c with
  | makeRoot =>
    simp only [Desk.start, alike.engine]
    split
    · exact ⟨alike, rfl⟩
    · exact alike.askOnce n (fun r h => by cases h) _
  | render source =>
    simp only [Desk.start, alike.engine]
    split
    · exact alike.startRender n source
    · exact refused .render
  | refresh =>
    simp only [Desk.start, alike.engine]
    split
    · exact refused .refresh
    · split
      · exact ⟨alike, rfl⟩
      · exact alike.startRender n _
  | shutdown =>
    simp only [Desk.start, alike.engine]
    exact (alike.with_engine rfl).askOnce n (fun r h => by cases h) _
  | html =>
    simp only [Desk.start, alike.engine]
    split
    · exact alike.askOnce n (fun r h => by cases h) _
    · exact refused .html
  | screenshot =>
    simp only [Desk.start, alike.engine]
    split
    · exact alike.askOnce n (fun r h => by cases h) _
    · exact refused .screenshot

theorem initialized (alike : d.Alike d') (n : Nat) (created : Bool) :
    Likewise (d.initialized n created) (d'.initialized n created) := by
  have ready : ({ d with engine := { d.engine with initialized := true } } : Desk).Alike
      { d' with engine := { d'.engine with initialized := true } } :=
    alike.with_engine (congrArg (fun e : Engine => { e with initialized := true }) alike.engine)
  obtain ⟨left, heard⟩ := ready.leave n (.ok .nothing)
  refine ⟨left, ?_⟩
  cases created <;> exact heard

theorem answer (alike : d.Alike d') (n : Nat) (o : Outcome) : Likewise (d.answer s n o) (d'.answer s n o) := by
  rcases alike.found n with ⟨h, h'⟩ | ⟨r, b, h, h'⟩ | ⟨c, other, h, h'⟩
  · simp only [Desk.answer, h, h']
    exact ⟨alike, rfl⟩
  · have next := alike.settle (Render.alike_answer (s := s) (e := d.engine) (r := r) b o) n
    simp only [Desk.answer, h, h', alike.engine]
    split
    · exact ⟨alike, rfl⟩
    · exact ⟨alike, rfl⟩
    · exact next
  · simp only [Desk.answer, h, h']
    cases c with
    | render r => exact absurd rfl (other r)
    | makeRoot =>
      cases o with
      | error f => exact alike.leave n _
      | ok reply => exact alike.initialized n _
    | shutdown | html | screenshot => cases o <;> exact alike.leave n _

theorem resume (alike : d.Alike d') (n : Nat) : Likewise (d.resume n) (d'.resume n) := by
  rcases alike.found n with ⟨h, h'⟩ | ⟨r, b, h, h'⟩ | ⟨c, other, h, h'⟩
  · simp only [Desk.resume, h, h']
    exact ⟨alike, rfl⟩
  · simp only [Desk.resume, h, h', alike.engine, alike.holder]
    split
    · exact alike.settle (Render.alike_poll b) n
    · split
      · exact alike.enter n r b _
      · exact ⟨alike, rfl⟩
    · exact ⟨alike, rfl⟩
  · simp only [Desk.resume, h, h']
    cases c with
    | render r => exact absurd rfl (other r)
    | makeRoot | shutdown | html | screenshot => exact ⟨alike, rfl⟩

theorem cancel (alike : d.Alike d') (n : Nat) : Likewise (d.cancel n) (d'.cancel n) := by
  rcases alike.found n with ⟨h, h'⟩ | ⟨r, b, h, h'⟩ | ⟨c, other, h, h'⟩ <;> simp only [Desk.cancel, h, h']
  · exact ⟨alike, rfl⟩
  · exact alike.leave n _
  · exact alike.leave n _

/-- **A step keeps desks alike.** -/
theorem move (alike : d.Alike d') (m : Move) : Likewise (d.move s m) (d'.move s m) := by
  cases m with
  | start n c =>
    have same : (d'.calls.find? n).isSome = (d.calls.find? n).isSome := by
      rcases alike.found n with ⟨h, h'⟩ | ⟨r, b, h, h'⟩ | ⟨c, -, h, h'⟩ <;> simp [h, h']
    simp only [Desk.move, same]
    split
    · exact ⟨alike, rfl⟩
    · exact alike.start n c
  | answer n o => exact alike.answer n o
  | resume n => exact alike.resume n
  | cancel n => exact alike.cancel n

end Alike

/-! ## Runs -/

/-- everything that happens in a run -/
def signals (s : Setup) (d : Desk) (ms : List Move) : List Signal := (d.run s ms).2

theorem signals_cons (d : Desk) (m : Move) (ms : List Move) :
    d.signals s (m :: ms) = (d.move s m).2 ++ signals s (d.move s m).1 ms := rfl

theorem signals_append (d : Desk) (ms ms' : List Move) :
    d.signals s (ms ++ ms') = d.signals s ms ++ signals s (d.after s ms) ms' := by
  induction ms generalizing d with
  | nil => rfl
  | cons m ms ih =>
    rw [List.cons_append, signals_cons, signals_cons, ih, List.append_assoc]
    rfl

/-- **Runs of desks that are alike**: they end alike, and all that happens but for the log is the same. -/
theorem Alike.run (alike : d.Alike d') (ms : List Move) :
    (d.after s ms).Alike (d'.after s ms) ∧ spoken (d'.signals s ms) = spoken (d.signals s ms) := by
  induction ms generalizing d d' with
  | nil => exact ⟨alike, rfl⟩
  | cons m ms ih =>
    obtain ⟨next, first⟩ := alike.move (s := s) m
    obtain ⟨at_end, rest⟩ := ih next
    refine ⟨at_end, ?_⟩
    rw [signals_cons, signals_cons, spoken_append, spoken_append, first, rest]

/-! ## Polls -/

/-- the call asks whether the compiler is ready -/
def isCheck (n : Nat) : Signal → Bool
  | .asked m .compilerReady => m == n
  | _ => false

/-- how often the call asks whether the compiler is ready -/
def checks (n : Nat) (signals : List Signal) : Nat := signals.countP (isCheck n)

/-- what others hear of: not the log, and neither polls nor the pauses between them -/
def isOutward : Signal → Bool
  | .said _ | .paused _ | .asked _ .compilerReady => false
  | _ => true

def outward (signals : List Signal) : List Signal := signals.filter isOutward

theorem checks_append (n : Nat) (xs ys : List Signal) : checks n (xs ++ ys) = checks n xs + checks n ys :=
  List.countP_append

theorem outward_append (xs ys : List Signal) : outward (xs ++ ys) = outward xs ++ outward ys :=
  List.filter_append ..

theorem checks_spoken (n : Nat) (xs : List Signal) : checks n (spoken xs) = checks n xs := by
  rw [checks, spoken, List.countP_filter]
  refine List.countP_congr fun x _ => ?_
  cases x <;> simp [isCheck, Signal.isSpoken]

theorem outward_spoken (xs : List Signal) : outward (spoken xs) = outward xs := by
  rw [outward, spoken, List.filter_filter]
  refine List.filter_congr fun x _ => ?_
  cases x <;> simp [isOutward, Signal.isSpoken]

/-- polls that are answered with no, each with the pause behind it -/
def polls (n : Nat) : Nat → List Move
  | 0 => []
  | k + 1 => .answer n (.ok { ok := false }) :: .resume n :: polls n k

variable {e : Engine} {r : Render}

theorem answer_no (at_ : r.point = .ready) :
    ((alone e n r none).move s (.answer n (.ok { ok := false }))).1 =
        alone e n { r with polled := true, point := .pause } none ∧
      spoken ((alone e n r none).move s (.answer n (.ok { ok := false }))).2 = [.paused n] := by
  have awaits : r.point.awaits = true := by rw [at_]; rfl
  have ht : r.answer s e (.ok { ok := false }) = r.wait s e Trouble.notLoaded := by
    simp [Render.answer, at_, readiness, Render.trouble]
  rw [move_alone awaits, ht, settle_of_ne_want (fun w h => by cases h)]
  simp only [settleHeld, Render.wait, spoken_append, spoken_said]
  exact ⟨by simp [alone, put, Roster.put, Roster.drop], rfl⟩

theorem resume_pause (at_ : r.point = .pause) (current : r.version = e.version) (clear : e.error = none) :
    (alone e n r none).move s (.resume n) =
      (alone e n { r with point := .ready } none, [.asked n .compilerReady]) := by
  have found : (alone e n r none).calls.find? n = some (.render r) := by simp [alone, Roster.find?]
  have forgotten : { e with error := none } = e := by rw [← clear]
  have ht : r.poll e = Render.ask e r .ready .compilerReady := by
    rw [Render.poll, if_neg (by simp [Engine.supersedes, current]), forgotten]
  show (alone e n r none).resume n = _
  simp only [resume, found, at_]
  show (alone e n r none).settle n (r.poll e) = _
  rw [ht, settle_of_ne_want (fun w h => by cases h), settleHeld_alone_ask rfl]
  rfl

/-- **Polls leave a render that is alone as it was**, but that it has waited; nobody else hears of them, and each
asks once. -/
theorem run_polls (k : Nat) (at_ : r.point = .ready) (current : r.version = e.version) (clear : e.error = none) :
    (∃ b, (alone e n r none).after s (polls n k) = alone e n { r with polled := b } none) ∧
      checks n ((alone e n r none).signals s (polls n k)) = k ∧
      ∀ ms, ms <+: polls n k → ((alone e n r none).after s ms).engine = e ∧
        outward ((alone e n r none).signals s ms) = [] := by
  -- generalized over the render, since the first poll marks it as one that has waited
  induction k generalizing r with
  | zero =>
    refine ⟨⟨r.polled, rfl⟩, rfl, fun ms front => ?_⟩
    rw [List.prefix_nil.mp front]
    exact ⟨rfl, rfl⟩
  | succ k ih =>
    obtain ⟨paused, silent⟩ := answer_no (s := s) (n := n) (e := e) at_
    have again := resume_pause (s := s) (n := n) (r := { r with polled := true, point := .pause }) rfl current clear
    obtain ⟨⟨b, at_end⟩, asks, fronts⟩ := ih (r := { r with polled := true, point := .ready }) rfl current
    have once : checks n ((alone e n r none).move s (.answer n (.ok { ok := false }))).2 = 0 := by
      rw [← checks_spoken, silent]
      rfl
    have alone_ : outward ((alone e n r none).move s (.answer n (.ok { ok := false }))).2 = [] := by
      rw [← outward_spoken, silent]
      rfl
    refine ⟨⟨b, ?_⟩, ?_, fun ms front => ?_⟩
    · rw [polls, after_cons, after_cons, paused, again, at_end, at_]
    · rw [polls, signals_cons, signals_cons, paused, again, checks_append, checks_append, once, asks]
      have one : checks n [.asked n .compilerReady] = 1 := by simp [checks, isCheck]
      show 0 + (checks n [.asked n .compilerReady] + k) = k + 1
      rw [one, Nat.zero_add, Nat.add_comm]
    · rw [polls, List.prefix_cons_iff] at front
      obtain rfl | ⟨ms, rfl, front⟩ := front
      · exact ⟨rfl, rfl⟩
      · rw [after_cons, signals_cons, outward_append, alone_, paused]
        rw [List.prefix_cons_iff] at front
        obtain rfl | ⟨ms, rfl, front⟩ := front
        · exact ⟨rfl, rfl⟩
        · rw [after_cons, signals_cons, outward_append, again]
          exact fronts ms front

/-! ## After the polls -/

/-- the compiler is past the polls -/
def isPast : Point → Bool
  | .ready | .pause => false
  | _ => true

/-- a turn in which no poll follows -/
structure Onward (t : Turn) : Prop where
  point : isPast t.render.point = true
  ask : t.next ≠ .ask .compilerReady

/-- there is no call but n, which is a render and past the polls -/
def Past (d : Desk) (n : Nat) : Prop :=
  ∀ m c, d.calls.find? m = some c → m = n ∧ ∃ r, c = .render r ∧ isPast r.point = true

/-- what follows is past the polls, and nobody has asked -/
def Unasked (n : Nat) (x : Desk × List Signal) : Prop := x.1.Past n ∧ checks n x.2 = 0

theorem onward_fail (f : Failure) : isPast r.point = true → Onward (r.fail e f) := by
  intro past
  unfold Render.fail
  split
  · exact ⟨past, fun h => by cases h⟩
  · exact ⟨rfl, fun h => by cases h⟩

theorem onward_failWith (stage : Stage) (error : Json) :
    isPast r.point = true → Onward (r.failWith e stage error) := by
  intro past
  unfold Render.failWith
  split
  · exact onward_fail _ past
  · exact ⟨past, fun h => by cases h⟩

theorem onward_enter (w : Work) : isPast r.point = true → Onward (r.enter e w) := by
  intro past
  cases w with
  | report f => exact onward_fail f past
  | mount code =>
    simp only [Render.enter]
    split
    · exact ⟨past, fun h => by cases h⟩
    · exact ⟨rfl, fun h => by cases h⟩

/-- the compiler is asked no more, unless it turns out not to be ready when it gets its text -/
theorem onward_answer (past : isPast r.point = true) {o : Outcome}
    (loaded : r.point = .transform → ∀ f, o = .error f → f.kind ≠ .notReady) : Onward (r.answer s e o) := by
  cases at_ : r.point with
  | ready | pause => rw [at_] at past; cases past
  | transform =>
    rw [Render.answer_transform e at_ (loaded at_)]
    split <;> exact ⟨rfl, fun h => by cases h⟩
  | queue w =>
    simp only [Render.answer, at_]
    exact ⟨past, fun h => by cases h⟩
  | instantiate =>
    simp only [Render.answer, at_]
    split
    · exact onward_fail _ past
    · split
      · split
        · exact ⟨past, fun h => by cases h⟩
        · exact ⟨rfl, fun h => by cases h⟩
      · exact onward_failWith _ _ past
  | mount =>
    simp only [Render.answer, at_]
    split
    · exact onward_fail _ past
    · split
      · exact ⟨past, fun h => by cases h⟩
      · exact onward_failWith _ _ past
  | panel =>
    simp only [Render.answer, at_]
    split <;> exact ⟨past, fun h => by cases h⟩

theorem checks_said (lines : List String) : checks n (lines.map .said) = 0 := by
  rw [← checks_spoken, spoken_said]
  rfl

theorem calls_leave (d : Desk) (n : Nat) (result : Except Fault Result) :
    (d.leave n result).1.calls = d.calls.drop n := by
  unfold leave
  dsimp only
  split
  · unfold pass
    split <;> rfl
  · rfl

theorem unasked_leave (past : d.Past n) (result : Except Fault Result) : Unasked n (d.leave n result) := by
  constructor
  · intro m c hc
    rw [calls_leave, Roster.find?_drop] at hc
    split at hc
    · cases hc
    · exact past m c hc
  · unfold leave
    dsimp only
    split
    · unfold pass
      split <;> rfl
    · rfl

theorem past_put (past : d.Past n) {x : Render} (h : isPast x.point = true) (e : Engine) (holder : Option Nat)
    (queue : List Nat) : Past { d.put n (.render x) with engine := e, holder, queue } n := by
  intro m c hc
  simp only [put, Roster.find?_put] at hc
  split at hc
  · next same =>
    cases hc
    exact ⟨same, x, rfl, h⟩
  · exact past m c hc

theorem unasked_settleHeld (past : d.Past n) {t : Turn} (onward : Onward t) : Unasked n (d.settleHeld n t) := by
  have went : Past { d with engine := t.engine } n := past
  unfold settleHeld
  cases next : t.next with
  | ask q =>
    refine ⟨past_put past onward.point t.engine d.holder d.queue, ?_⟩
    have other : checks n [.asked n q] = 0 := by
      cases q with
      | compilerReady => exact absurd next onward.ask
      | _ => rfl
    rw [checks_append, checks_said, other]
  | pause =>
    refine ⟨past_put past onward.point t.engine d.holder d.queue, ?_⟩
    rw [checks_append, checks_said]
    rfl
  | want w => exact ⟨past_put past onward.point t.engine d.holder d.queue, checks_said t.lines⟩
  | done =>
    obtain ⟨left, silent⟩ := unasked_leave went (.ok .nothing)
    refine ⟨left, ?_⟩
    rw [checks_append, checks_said, silent]
  | failed f =>
    obtain ⟨left, silent⟩ := unasked_leave went (.error f)
    refine ⟨left, ?_⟩
    rw [checks_append, checks_said, silent]

theorem unasked_enter (past : d.Past n) (h : isPast r.point = true) (w : Work) : Unasked n (d.enter n r w) :=
  unasked_settleHeld (d := { d with holder := some n }) past (onward_enter w h)

theorem unasked_settle (past : d.Past n) {t : Turn} (onward : Onward t) : Unasked n (d.settle n t) := by
  cases next : t.next with
  | want w =>
    simp only [settle, next]
    split
    · obtain ⟨entered, silent⟩ := unasked_enter (d := { d with engine := t.engine }) past onward.point w
      refine ⟨entered, ?_⟩
      rw [checks_append, checks_said, silent]
    · exact ⟨past_put past onward.point t.engine d.holder (d.queue ++ [n]), checks_said t.lines⟩
  | ask | pause | done | failed =>
    rw [settle_of_ne_want fun w h => by cases next.symm.trans h]
    exact unasked_settleHeld past onward

theorem unasked_move (past : d.Past n) {m : Move} (apart : ∀ k c, m ≠ .start k c)
    (loaded : ∀ r f, d.render? n = some r → r.point = .transform → m = .answer n (.error f) → f.kind ≠ .notReady) :
    Unasked n (d.move s m) := by
  have silent : Unasked n (d, []) := ⟨past, rfl⟩
  cases m with
  | start k c => exact absurd rfl (apart k c)
  | answer k o =>
    simp only [move, answer]
    cases found : d.calls.find? k with
    | none => exact silent
    | some c =>
      obtain ⟨rfl, r, rfl, h⟩ := past k c found
      dsimp only
      split
      · exact silent
      · exact silent
      · refine unasked_settle past (onward_answer h fun at_ f hf => ?_)
        exact loaded r f (render?_eq_some.mpr found) at_ (congrArg _ hf)
  | resume k =>
    simp only [move, resume]
    cases found : d.calls.find? k with
    | none => exact silent
    | some c =>
      obtain ⟨rfl, r, rfl, h⟩ := past k c found
      dsimp only
      split
      · next at_ =>
        rw [at_] at h
        cases h
      · split
        · exact unasked_enter past h _
        · exact silent
      · exact silent
  | cancel k =>
    simp only [move, cancel]
    cases found : d.calls.find? k with
    | none => exact silent
    | some c =>
      obtain ⟨rfl, -⟩ := past k c found
      exact unasked_leave past _

theorem checks_run (past : d.Past n) {ms : List Move} (apart : ∀ m ∈ ms, ∀ k c, m ≠ .start k c)
    (loaded : ∀ k ∈ d.moments s ms, ∀ r f, k.before.render? n = some r → r.point = .transform →
      k.move = .answer n (.error f) → f.kind ≠ .notReady) : checks n (d.signals s ms) = 0 := by
  induction ms generalizing d with
  | nil => rfl
  | cons m ms ih =>
    obtain ⟨next, first⟩ := unasked_move (s := s) past (apart m List.mem_cons_self)
      (loaded (d.moment s m) List.mem_cons_self)
    have rest := ih next (fun m' h => apart m' (List.mem_cons_of_mem _ h))
      fun k h => loaded k (List.mem_cons_of_mem _ h)
    rw [signals_cons, checks_append, first, rest]

theorem alike_polled (b : Bool) : (alone e n r none).Alike (alone e n { r with polled := b } none) := by
  refine ⟨rfl, fun m => ?_, rfl, rfl⟩
  simp only [alone, Roster.find?, List.find?_cons, List.find?_nil]
  split
  · exact .some (.render r b)
  · exact .none

/-- polls in front of a run of a render that is alone -/
theorem run_waiting (k : Nat) (at_ : r.point = .ready) (current : r.version = e.version) (clear : e.error = none)
    (rest : List Move) :
    ((alone e n r none).after s (polls n k ++ rest)).engine = ((alone e n r none).after s rest).engine ∧
    outward ((alone e n r none).signals s (polls n k ++ rest)) = outward ((alone e n r none).signals s rest) ∧
    checks n ((alone e n r none).signals s (polls n k ++ rest)) =
      k + checks n ((alone e n r none).signals s rest) := by
  obtain ⟨⟨b, at_end⟩, asks, fronts⟩ := run_polls (s := s) (n := n) k at_ current clear
  obtain ⟨ends, same⟩ := (alike_polled (e := e) (n := n) (r := r) b).run (s := s) rest
  rw [after_append, signals_append, at_end, outward_append, checks_append, asks,
    (fronts _ List.prefix_rfl).2, ← outward_spoken (signals s _ rest), ← checks_spoken n (signals s _ rest), same,
    outward_spoken, checks_spoken]
  exact ⟨ends.engine, rfl, rfl⟩

theorem polls_idle (free : d.calls.find? n = none) (k : Nat) :
    d.after s (polls n k) = d ∧ d.signals s (polls n k) = [] := by
  induction k with
  | zero => exact ⟨rfl, rfl⟩
  | succ k ih =>
    have answered : d.move s (.answer n (.ok { ok := false })) = (d, []) := by simp [move, answer, free]
    have resumed : d.move s (.resume n) = (d, []) := by simp [move, resume, free]
    rw [polls, after_cons, after_cons, signals_cons, signals_cons, answered, resumed]
    exact ih

/-- a run with a render that begins: it asks once, and nobody else hears of that -/
theorem run_start {c : Command} {source : String} (initialized : e.initialized = true) (begins : c.renders e source)
    (ms : List Move) :
    let begun := alone { e.request source with error := none } n { version := e.version + 1, source } none
    after s { engine := e } (.start n c :: ms) = after s begun ms ∧
    outward (signals s { engine := e } (.start n c :: ms)) = outward (signals s begun ms) ∧
    checks n (signals s { engine := e } (.start n c :: ms)) = 1 + checks n (signals s begun ms) := by
  obtain ⟨lines, start⟩ := start_alone (s := s) (n := n) initialized begins
  have asked : checks n [.asked n .compilerReady] = 1 := by simp [checks, isCheck]
  rw [after_cons, signals_cons, start, outward_append, checks_append, ← outward_spoken (_ ++ _), spoken_append,
    spoken_said, checks_append, checks_said, asked]
  exact ⟨rfl, rfl, rfl⟩

theorem start_idle {c : Command} (renders : c = .refresh ∨ ∃ source, c = .render source)
    (idle : ∀ source, e.initialized = true → ¬c.renders e source) :
    (({ engine := e } : Desk).move s (.start n c)).1 = { engine := e } := by
  cases initialized : e.initialized with
  | false => rcases renders with rfl | ⟨source, rfl⟩ <;> simp [move, start, initialized, refuse]
  | true =>
    rcases renders with rfl | ⟨source, rfl⟩
    · have unasked : e.source = none := by
        cases last : e.source with
        | none => rfl
        | some source => exact absurd last (idle source initialized)
      simp [move, start, initialized, unasked]
    · exact absurd rfl (idle source initialized)

/-- polls behind the beginning of a render, whether it begins or is over at once -/
theorem run_polled {c : Command} (renders : c = .refresh ∨ ∃ source, c = .render source) (k : Nat) (rest : List Move) :
    (after s { engine := e } (.start n c :: (polls n k ++ rest))).engine =
      (after s { engine := e } (.start n c :: rest)).engine ∧
    outward (signals s { engine := e } (.start n c :: (polls n k ++ rest))) =
      outward (signals s { engine := e } (.start n c :: rest)) := by
  by_cases begins : ∃ source, e.initialized = true ∧ c.renders e source
  · obtain ⟨source, initialized, begins⟩ := begins
    have start := run_start (s := s) (n := n) initialized begins
    obtain ⟨ends, heard, -⟩ := run_waiting (s := s) (n := n) (e := { e.request source with error := none })
      (r := { version := e.version + 1, source }) k rfl rfl rfl rest
    rw [(start _).1, (start _).2.1, (start _).1, (start _).2.1]
    exact ⟨ends, heard⟩
  · have idle := start_idle (s := s) (n := n) renders fun source initialized h => begins ⟨source, initialized, h⟩
    obtain ⟨polled, silent⟩ := polls_idle (s := s) (d := { engine := e }) (n := n) rfl k
    rw [after_cons, after_cons, signals_cons, signals_cons, idle, after_append, signals_append, polled, silent]
    exact ⟨rfl, rfl⟩

theorem checks_ready (at_ : r.point = .ready) {reply : Reply} (ok : reply.ok = true) {rest : List Move}
    (apart : ∀ m ∈ rest, ∀ k c, m ≠ .start k c)
    (loaded : ∀ k ∈ moments s (alone e n r none) (.answer n (.ok reply) :: rest), ∀ r f,
      k.before.render? n = some r → r.point = .transform → k.move = .answer n (.error f) → f.kind ≠ .notReady) :
    checks n ((alone e n r none).signals s (.answer n (.ok reply) :: rest)) = 0 := by
  have awaits : r.point.awaits = true := by rw [at_]; rfl
  have ht : r.answer s e (.ok reply) = Render.ask e r .transform (.transform (s.wrap r.source).text) := by
    simp [Render.answer, at_, readiness, ok]
  have next : (alone e n r none).move s (.answer n (.ok reply)) =
      (alone e n { r with point := .transform } none, [.asked n (.transform (s.wrap r.source).text)]) := by
    rw [move_alone awaits, ht, settle_of_ne_want (fun w h => by cases h), settleHeld_alone_ask rfl]
    rfl
  have past : Past (alone e n { r with point := .transform } none) n := by
    intro m c hc
    simp only [alone, Roster.find?, List.find?_cons, List.find?_nil] at hc
    split at hc
    · next same =>
      cases hc
      exact ⟨(beq_iff_eq.mp same).symm, _, rfl, rfl⟩
    · cases hc
  have quiet := checks_run (s := s) past apart fun k hk => loaded k (by
    rw [moments, next]
    exact List.mem_cons_of_mem _ hk)
  rw [signals_cons, next, checks_append, quiet]
  rfl

/-- **A render that waits comes to what it comes to without the wait.**  The compiler is not ready k times, and then
whatever happens happens as if it had been ready at once: the engine is in the same state, and the page and the
other calls hear the same.  In the meantime they hear nothing, and the engine shows no error and otherwise what it
showed before.  Each poll is one more question; without polls there is one, unless the compiler turns out not to be
ready when it gets its text. -/
theorem waiting_invisible (s : Setup) (e : Engine) (n k : Nat) {c : Command}
    (renders : c = .refresh ∨ ∃ source, c = .render source) (rest : List Move) :
    let slow := .start n c :: (polls n k ++ rest)
    let quick := .start n c :: rest
    (after s { engine := e } slow).engine = (after s { engine := e } quick).engine ∧
    outward (signals s { engine := e } slow) = outward (signals s { engine := e } quick) ∧
    ∀ source, e.initialized = true → c.renders e source →
      (∀ ms, ms <+: polls n k →
        (after s { engine := e } (.start n c :: ms)).engine = { e.request source with error := none } ∧
        outward (signals s { engine := e } (.start n c :: ms)) = []) ∧
      checks n (signals s { engine := e } slow) = k + checks n (signals s { engine := e } quick) ∧
      ∀ reply rest', rest = .answer n (.ok reply) :: rest' → reply.ok = true →
        (∀ m ∈ rest', ∀ i c, m ≠ .start i c) →
        (∀ j ∈ moments s { engine := e } quick, ∀ r f, j.before.render? n = some r → r.point = .transform →
          j.move = .answer n (.error f) → f.kind ≠ .notReady) →
        checks n (signals s { engine := e } slow) = k + 1 := by
  intro slow quick
  have same := run_polled (s := s) (e := e) (n := n) renders k rest
  refine ⟨same.1, same.2, fun source initialized begins => ?_⟩
  let r : Render := { version := e.version + 1, source }
  have fronts := (run_polls (s := s) (n := n) (e := { e.request source with error := none }) (r := r) k rfl rfl rfl).2.2
  have asks := (run_waiting (s := s) (n := n) (e := { e.request source with error := none }) (r := r) k rfl rfl rfl
    rest).2.2
  have start := run_start (s := s) (n := n) initialized begins
  have more : checks n (signals s { engine := e } slow) = k + checks n (signals s { engine := e } quick) := by
    rw [(start _).2.2, (start _).2.2, asks, Nat.add_left_comm]
  refine ⟨fun ms front => ?_, more, fun reply rest' ready ok apart loaded => ?_⟩
  · rw [(start ms).1, (start ms).2.1]
    exact fronts ms front
  · subst ready
    have quiet := checks_ready (s := s) (n := n) (e := { e.request source with error := none }) (r := r) rfl ok apart
      fun k hk => loaded k (List.mem_cons_of_mem _ (by
        obtain ⟨lines, begun⟩ := start_alone (s := s) (n := n) initialized begins
        rw [begun]
        exact hk))
    rw [more, (start _).2.2, quiet]

/-- a compiler that is ready, and a page that evaluates and mounts what it gets -/
def shown : List Move :=
  [.answer 0 (.ok {}), .answer 0 (.ok { code := some (.str "code") }), .answer 0 (.ok {}), .answer 0 (.ok {})]

theorem waiting_invisible_twice : (Command.render "x" = .refresh ∨ ∃ source, Command.render "x" = .render source) ∧
    let e : Engine := { initialized := true }
    (after default { engine := e } (.start 0 (.render "x") :: (polls 0 2 ++ shown))).engine =
      (after default { engine := e } (.start 0 (.render "x") :: shown)).engine ∧
    (after default { engine := e } (.start 0 (.render "x") :: shown)).engine =
      { initialized := true, version := 1, source := some "x", lastRendered := some "x", renders := 1 } ∧
    checks 0 (signals default { engine := e } (.start 0 (.render "x") :: (polls 0 2 ++ shown))) = 3 := by
  have renders : Command.render "x" = .refresh ∨ ∃ source, Command.render "x" = .render source := .inr ⟨"x", rfl⟩
  obtain ⟨same, -, asks⟩ := waiting_invisible default { initialized := true } 0 2 renders shown
  obtain ⟨-, -, count⟩ := asks "x" rfl rfl
  refine ⟨renders, same, rfl, count {} _ rfl rfl (fun m hm => ?_) fun j hj r f _ _ hm => ?_⟩
  · simp only [List.mem_cons, List.not_mem_nil, or_false] at hm
    rcases hm with rfl | rfl | rfl <;> exact nofun
  · simp only [shown, moments, List.mem_cons, List.not_mem_nil, or_false] at hj
    rcases hj with rfl | rfl | rfl | rfl | rfl <;> cases hm

end Desk

end SnippetStudio.Preview
