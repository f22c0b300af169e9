import SnippetStudio.Proofs.Session.InTurn
import SnippetStudio.Proofs.Session.Snapshot

/-!
# The life of a session

A session is started and stopped as often as one likes, while its buffer is edited and renders are under
way.  In a run in which every move is allowed (`InTurn`), the three flags that a start and a stop set agree
whenever none is under way, a stop gets rid of the first render wherever that waits, and the next start
renders the text that the buffer has by then.

* `kept_run`                  a run leaves the session in a phase;
* `first_run`, `told_run`     a first render goes on, or its end is told and nothing is left of it;
* `stop_run`                  a stop can go through, wherever the first render waits;
* `lifecycle`                 **the life of a session**.
-/

namespace SnippetStudio.Session

open Preview (Desk Setup Result Reply)

/-- a run in which every move is allowed -/
def InTurn (setup : Setup) (s : Session) : List Move → Prop
  | [] => True
  | m :: ms => s.Allows m ∧ InTurn setup (s.move setup m).1 ms

/-- what changes the buffer -/
def Command.edits : Command → Bool
  | .edit _ | .loadExample _ => true
  | _ => false

variable {setup : Setup} {s : Session} {p : Phase} {m : Move} {ms : List Move} {n : Nat} {f : First}

/-! ## Runs -/

theorem inTurn_append {ms' : List Move} : InTurn setup s (ms ++ ms') ↔
    InTurn setup s ms ∧ InTurn setup (s.after setup ms) ms' := by
  induction ms generalizing s with
  | nil => exact ⟨fun h => ⟨trivial, h⟩, fun h => h.2⟩
  | cons m ms ih =>
    have rest := ih (s := (s.move setup m).1)
    exact ⟨fun h => ⟨⟨h.1, (rest.mp h.2).1⟩, (rest.mp h.2).2⟩,
      fun h => ⟨h.1.1, rest.mpr ⟨h.1.2, h.2⟩⟩⟩

theorem kept_run (hs : s.Kept p) (inTurn : s.InTurn setup ms) :
    ∃ p', (s.after setup ms).Kept p' := by
  induction ms generalizing s p with
  | nil => exact ⟨p, hs⟩
  | cons m ms ih =>
    obtain ⟨p', -, shift⟩ := shift_move setup hs inTurn.1
    exact ih shift.kept inTurn.2

/-- neither on nor on the way there -/
def Phase.ends : Phase → Bool
  | .off | .stopping _ | .closing .. => true
  | _ => false

theorem Next.ends {p' : Phase} (next : Next p m p') (down : p.ends = true)
    (other : m ≠ .start .start) : p'.ends = true := by
  cases next with
  | stays => exact down
  | opens => exact absurd rfl other
  | loaded | unloaded | rooted | unrooted | stops => cases down
  | closes | ended | closed => rfl

/-- a session that was stopped stays down until it is started again -/
theorem ends_run (hs : s.Kept p) (inTurn : s.InTurn setup ms) (down : p.ends = true)
    (quiet : .start .start ∉ ms) : ∃ p', (s.after setup ms).Kept p' ∧ p'.ends = true := by
  induction ms generalizing s p with
  | nil => exact ⟨p, hs, down⟩
  | cons m ms ih =>
    obtain ⟨p', next, shift⟩ := shift_move setup hs inTurn.1
    have other : m ≠ .start .start := fun e => quiet (by rw [e]; exact List.mem_cons_self ..)
    exact ih shift.kept inTurn.2 (next.ends down other) fun h => quiet (List.mem_cons_of_mem _ h)

/-- what is over does not come back -/
theorem gone_run (hs : s.Kept p) (inTurn : s.InTurn setup ms) (lt : n < s.next)
    (gone : s.activities.find? n = none) : (s.after setup ms).activities.find? n = none := by
  induction ms generalizing s p with
  | nil => exact gone
  | cons m ms ih =>
    obtain ⟨p', -, shift⟩ := shift_move setup hs inTurn.1
    exact ih shift.kept inTurn.2 (Nat.lt_of_lt_of_le lt shift.carries.next)
      (shift.carries.gone n lt gone)

/-- **A first render goes on, or its end is told and nothing is left of it.** -/
theorem first_run (hs : s.Kept p) (inTurn : s.InTurn setup ms) (hf : s.first = some f)
    (going : f.ended = none) :
    (∃ f', (s.after setup ms).first = some f' ∧ f'.number = f.number ∧ f'.ended = none) ∨
      ∃ result, .returned f.number result ∈ s.signals setup ms ∧
        (s.after setup ms).activities.find? f.number = none := by
  induction ms generalizing s p f with
  | nil => exact .inl ⟨f, hf, rfl, going⟩
  | cons m ms ih =>
    obtain ⟨p', -, shift⟩ := shift_move setup hs inTurn.1
    rcases shift.carries.goesOn f hf going with ⟨f', hf', number, going'⟩ | ⟨result, told, gone⟩
    · rw [← number]
      exact (ih shift.kept inTurn.2 hf' going').imp_right fun ⟨result, told, gone⟩ =>
        ⟨result, List.mem_append_right _ told, gone⟩
    · have lt := Nat.lt_of_lt_of_le (hs.sound.first f hf).1 shift.carries.next
      have stays := gone_run shift.kept inTurn.2 lt gone
      exact .inr ⟨result, List.mem_append_left _ told, stays⟩

/-- a first render that has ended was told of, or had ended before the run -/
theorem told_run (hs : s.Kept p) (inTurn : s.InTurn setup ms) {result : Except Fault Result}
    (hf : (s.after setup ms).first = some f) (ended : f.ended = some result) :
    .returned f.number result ∈ s.signals setup ms ∨
      ∃ f₀, s.first = some f₀ ∧ f₀.number = f.number ∧ f₀.ended = some result := by
  induction ms generalizing s p with
  | nil => exact .inr ⟨f, hf, rfl, ended⟩
  | cons m ms ih =>
    obtain ⟨p', -, shift⟩ := shift_move setup hs inTurn.1
    rcases ih shift.kept inTurn.2 hf with told | ⟨f₁, hf₁, number, ended₁⟩
    · exact .inl (List.mem_append_right _ told)
    · rw [← number]
      exact (shift.carries.told f₁ result hf₁ ended₁).imp_left (List.mem_append_left _)

/-- a first render of a session that has none any more is over -/
theorem over_run {pre post : List Move} (fresh : s.first = none) (hs : s.Kept p)
    (inTurn : s.InTurn setup (pre ++ post)) (hf : (s.after setup pre).first = some f)
    (none : (s.after setup (pre ++ post)).first = none) :
    (∃ result, .returned f.number result ∈ s.signals setup (pre ++ post)) ∧
      (s.after setup (pre ++ post)).activities.find? f.number = .none := by
  obtain ⟨earlier, later⟩ := inTurn_append.mp inTurn
  obtain ⟨p', hs'⟩ := kept_run hs earlier
  rw [after_append] at none ⊢
  rw [signals_append]
  obtain ⟨lt, fits⟩ := hs'.sound.first f hf
  cases ended : f.ended with
  | none =>
    rcases first_run hs' later hf ended with ⟨f', hf', -⟩ | ⟨result, told, gone⟩
    · rw [none] at hf'
      cases hf'
    · exact ⟨⟨result, List.mem_append_right _ told⟩, gone⟩
  | some result =>
    have gone : (s.after setup pre).activities.find? f.number = .none := by
      cases h : (s.after setup pre).activities.find? f.number with
      | none => rfl
      | some a =>
        rw [h] at fits
        rw [fits.1] at ended
        cases ended
    rcases told_run hs earlier hf ended with told | ⟨f₀, hf₀, -⟩
    · exact ⟨⟨result, List.mem_append_left _ told⟩, gone_run hs' later lt gone⟩
    · rw [fresh] at hf₀
      cases hf₀

/-! ## A stop goes through -/

/-- what a stop takes: the first render is cancelled, and the page is closed -/
def shutDown (s : Session) (f : First) (r : Reply) : List Move :=
  [.start .stop, .cancel f.number, .resume s.next, .answer s.next (.ok r)]

/-- **A stop can go through, wherever the first render waits.** -/
theorem stop_run (hs : s.Kept .on) (hf : s.first = some f) (going : f.ended = none) (r : Reply) :
    s.InTurn setup (s.shutDown f r) ∧ (s.after setup (s.shutDown f r)).Kept .off ∧
      .returned f.number (.error .cancelled) ∈ s.signals setup (s.shutDown f r) ∧
      .returned s.next (.ok .nothing) ∈ s.signals setup (s.shutDown f r) := by
  have lt := (hs.sound.first f hf).1
  obtain ⟨stopped, first₁⟩ := shift_stops hs hf going
  let s₁ := (s.move setup (.start .stop)).1
  obtain ⟨cancelled, told, first₂⟩ :=
    shift_cancel (s := s₁) (f := { f with doomed := true }) stopped.kept first₁ going
  let s₂ := (s₁.move setup (.cancel f.number)).1
  have awake : s₂.isDoomed s.next = false := by
    refine Bool.eq_false_iff.mpr fun doomed => ?_
    obtain ⟨f', hf', -, number⟩ := isDoomed_eq_true.mp doomed
    cases first₂.symm.trans hf'
    exact absurd number (Nat.ne_of_lt lt)
  have waits : s₂.activities.find? s.next = some .stopping :=
    find?_of_stage ((cancelled.kept.stage s.next).trans (if_pos rfl))
  obtain ⟨p', -, closing, closes⟩ := shift_stopping cancelled.kept waits
  obtain rfl := closes fun f' hf' none => by
    cases first₂.symm.trans hf'
    cases none
  have resumed : s₂.move setup (.resume s.next) = s₂.resume s.next := by
    simp only [move, awake]
    rfl
  let s₃ := (s₂.move setup (.resume s.next)).1
  have kept₃ : s₃.Kept (.closing s.next true) := by
    show (s₂.move setup (.resume s.next)).1.Kept _
    rw [resumed]
    exact closing.kept
  have waits₃ : s₃.activities.find? s.next = some .closing :=
    find?_of_stage ((kept₃.stage s.next).trans (if_pos rfl))
  have answered : s₃.move setup (.answer s.next (.ok r)) = s₃.answer setup s.next (.ok r) := by
    simp only [move, kept₃.not_doomed (by simp [Phase.marks])]
    rfl
  obtain ⟨closed, returned⟩ := shift_closing setup kept₃ waits₃ r
  rw [← answered] at closed returned
  refine ⟨⟨hs.settled rfl, ?_, trivial, trivial, trivial⟩, closed.kept, ?_, ?_⟩
  · exact isDoomed_eq_true.mpr ⟨_, first₁, rfl, rfl⟩
  · exact List.mem_append_right _ (List.mem_append_left _ told)
  · exact List.mem_append_right _ (List.mem_append_right _ (List.mem_append_right _
      (List.mem_append_left _ returned)))

/-! ## The life of a session -/

theorem Fresh.kept (fresh : s.Fresh) (unsubscribed : s.subscribed = false) : s.Kept .off where
  sound := by
    refine ⟨fun n => ?_, fun n _ => fresh.activities n, fun f hf => ?_⟩
    · rw [fresh.activities]
      exact fresh.desk.calls n
    · rw [fresh.first] at hf
      cases hf
  marks := by
    simp [Session.marks, Phase.marks, fresh.started, fresh.initialized, fresh.listeners,
      unsubscribed, fresh.first]
  stage := fun n => by
    rw [Session.stage?, fresh.activities]
    rfl

/-- a session that has not started is followed by nobody, and has no first render -/
theorem Kept.quiet (hs : s.Kept p) (off : s.started = false) :
    s.buffer.listeners = [] ∧ s.first = none := by
  have started : p.marks.started = false := (congrArg Marks.started hs.marks).symm.trans off
  have listeners : s.buffer.listeners = p.marks.listeners := congrArg Marks.listeners hs.marks
  have doomed : s.first.map First.doomed = p.marks.doomed := congrArg Marks.doomed hs.marks
  cases p with
  | on | stopping => cases started
  | _ => exact ⟨listeners, Option.map_eq_none_iff.mp doomed⟩

theorem silent_edit (setup : Setup) (listeners : s.buffer.listeners = []) (first : s.first = none)
    {c : Command} (edits : c.edits = true) : (s.move setup (.start c)).1.desk = s.desk ∧
      ∃ result, (s.move setup (.start c)).2 = [.returned s.next result] := by
  have ends (b : Buffer Follower) (result : Except Fault Result) :
      (finish { s.took with buffer := b } s.next result).1.desk = s.desk ∧
        ∃ result', (finish { s.took with buffer := b } s.next result).2 =
          [.returned s.next result'] := by
    simp [finish, took, first]
  have announced (e : Edit) : (s.took.announce s.next e).1.desk = s.desk ∧
      ∃ result, (s.took.announce s.next e).2 = [.returned s.next result] := by
    obtain ⟨-, ⟨-, silent⟩ | ⟨-, told⟩⟩ := s.buffer.edit_announcement e
    · simp only [announce, took, silent]
      exact ends _ _
    · simp only [announce, took, told, listeners, tell]
      exact ends _ _
  cases c with
  | edit e => exact announced e
  | loadExample name =>
    show (s.took.begin s.next _).1.desk = _ ∧ ∃ _, (s.took.begin s.next _).2 = _
    simp only [begin]
    split
    · exact ends s.buffer _
    · exact announced _
  | _ => cases edits

/-- the flags agree when no start and no stop is under way -/
theorem Kept.agree (hs : s.Kept p) (settled : s.Settled) :
    s.started = true ∧ s.desk.engine.initialized = true ∧ s.buffer.listeners.count .render = 1 ∨
      s.started = false ∧ s.desk.engine.initialized = false ∧
        s.buffer.listeners.count .render = 0 := by
  have started : s.started = p.marks.started := congrArg Marks.started hs.marks
  have initialized : s.desk.engine.initialized = p.marks.initialized :=
    congrArg Marks.initialized hs.marks
  have listeners : s.buffer.listeners = p.marks.listeners := congrArg Marks.listeners hs.marks
  have rest := hs.at_rest settled
  rw [started, initialized, listeners]
  cases p with
  | off => exact .inr ⟨rfl, rfl, rfl⟩
  | on => exact .inl ⟨rfl, rfl, rfl⟩
  | _ => cases rest

/-- a session on its way down is down when nothing is under way -/
theorem Kept.down (hs : s.Kept p) (ends : p.ends = true) (settled : s.Settled) :
    s.started = false := by
  have rest := hs.at_rest settled
  have started : s.started = p.marks.started := congrArg Marks.started hs.marks
  rw [started]
  cases p with
  | off => rfl
  | on => cases ends
  | _ => cases rest

theorem Next.launches {p' : Phase} (next : Next p m p') (off : p.marks.started = false)
    (on : p'.marks.started = true) : p' = .on := by
  cases next with
  | rooted => rfl
  | stays | closes =>
    rw [off] at on
    cases on
  | stops | ended => cases off
  | opens | loaded | unloaded | unrooted | closed => cases on

/-- a session that has just started renders the text that its buffer has -/
theorem start_renders (hs : s.Kept p) (allowed : s.Allows m) (off : s.started = false)
    (on : (s.move setup m).1.started = true) :
    ∃ f, (s.move setup m).1.first = some f ∧ f.ended = none ∧
      (s.move setup m).1.activities.find? f.number =
        some (.first (s.move setup m).1.buffer.text) ∧
      ((s.move setup m).1.move setup (.resume f.number)).1.desk.engine.source =
        some (s.move setup m).1.buffer.text := by
  obtain ⟨p', next, kept, carries⟩ := shift_move setup hs allowed
  obtain rfl : p' = .on :=
    next.launches ((congrArg Marks.started hs.marks).symm.trans off)
      ((congrArg Marks.started kept.marks).symm.trans on)
  obtain ⟨f, hf, going, waits⟩ := carries.starts off on
  have awake : (s.move setup m).1.desk.engine.initialized = true :=
    congrArg Marks.initialized kept.marks
  have calm : (s.move setup m).1.isDoomed f.number = false := kept.not_doomed (by simp [Phase.marks]) _
  exact ⟨f, hf, going, waits, (Begins.first waits calm awake).source⟩

/-- **The life of a session.**  A session is started and stopped as often as one likes, each start and
stop after the end of the one before; in between, and all the while, its buffer is edited and the engine
used, the page may fail to load, and calls wait wherever they wait.  While neither a start nor a stop is
under way its three flags are all set, or none is, and none is after a stop.  While it is not started,
every first render that it had has ended, and edits reach neither the engine nor the page.  A stop goes
through wherever the first render waits, and cancels it.  A start that succeeds sets off a first render,
of the text that the buffer has. -/
theorem lifecycle (setup : Setup) (fresh : s.Fresh) (unsubscribed : s.subscribed = false)
    (inTurn : s.InTurn setup ms) :
    let s' := s.after setup ms
    (s'.Settled →
      s'.started = true ∧ s'.desk.engine.initialized = true ∧
          s'.buffer.listeners.count .render = 1 ∨
        s'.started = false ∧ s'.desk.engine.initialized = false ∧
          s'.buffer.listeners.count .render = 0) ∧
    (∀ pre post, ms = pre ++ .start .stop :: post → .start .start ∉ post → s'.Settled →
      s'.started = false) ∧
    (s'.started = false →
      (∀ pre post f, ms = pre ++ post → (s.after setup pre).first = some f →
        (∃ result, .returned f.number result ∈ s.signals setup ms) ∧
          s'.activities.find? f.number = none ∧ s'.desk.calls.find? f.number = none) ∧
      ∀ c : Command, c.edits = true → (s'.move setup (.start c)).1.desk = s'.desk ∧
        ∃ result, (s'.move setup (.start c)).2 = [.returned s'.next result]) ∧
    (∀ f r, s'.Settled → s'.first = some f → f.ended = none →
      s'.InTurn setup (s'.shutDown f r) ∧ (s'.after setup (s'.shutDown f r)).Settled ∧
        .returned f.number (.error .cancelled) ∈ s'.signals setup (s'.shutDown f r) ∧
        .returned s'.next (.ok .nothing) ∈ s'.signals setup (s'.shutDown f r)) ∧
    ∀ m, s'.Allows m → s'.started = false → (s'.move setup m).1.started = true →
      ∃ f, (s'.move setup m).1.first = some f ∧ f.ended = none ∧
        (s'.move setup m).1.activities.find? f.number =
          some (.first (s'.move setup m).1.buffer.text) ∧
        ((s'.move setup m).1.move setup (.resume f.number)).1.desk.engine.source =
          some (s'.move setup m).1.buffer.text := by
  have off := fresh.kept unsubscribed
  obtain ⟨p, hs⟩ := kept_run off inTurn
  refine ⟨hs.agree, ?_, fun down => ?_, fun f r settled hf going => ?_, fun m allowed => ?_⟩
  · rintro pre post rfl quiet settled
    obtain ⟨earlier, allowed, later⟩ := inTurn_append.mp inTurn
    obtain ⟨q, hq⟩ := kept_run off earlier
    obtain ⟨q', next, shift⟩ := shift_move setup hq allowed
    have down : q'.ends = true := by
      cases next with
      | stays other => exact absurd rfl other
      | stops | closes => rfl
    obtain ⟨p', hs', ends⟩ := ends_run shift.kept later down quiet
    rw [after_append] at settled ⊢
    exact hs'.down ends settled
  · obtain ⟨listeners, none⟩ := hs.quiet down
    refine ⟨fun pre post f split hf => ?_, fun c edits => silent_edit setup listeners none edits⟩
    subst split
    obtain ⟨told, gone⟩ := over_run fresh.first off inTurn hf none
    exact ⟨told, gone, hs.sound.no_call gone⟩
  · have rest := hs.at_rest settled
    cases p with
    | off =>
      have none : (s.after setup ms).first.map First.doomed = .none :=
        congrArg Marks.doomed hs.marks
      rw [hf] at none
      cases none
    | on =>
      obtain ⟨allowed, kept, cancelled, returned⟩ := stop_run hs hf going r
      exact ⟨allowed, kept.settled rfl, cancelled, returned⟩
    | _ => cases rest
  · exact start_renders hs allowed

theorem settled_of_entries (h : s.activities.entries.all (fun e => e.2.stage?.isNone) = true) :
    s.Settled := by
  intro n
  cases stage : s.stage? n with
  | none => rfl
  | some g =>
    obtain ⟨e, he, own⟩ := Option.map_eq_some_iff.mp (find?_of_stage stage)
    have none := List.all_eq_true.mp h e (List.mem_of_find?_eq_some he)
    rw [own] at none
    cases g <;> cases none

/-- a start that fails and one that does not, and a stop while an edit and the first render are under way -/
def stoppedEarly : List Move :=
  [.start .start, .answer 0 (.error ⟨.timeout, "no page"⟩), .start .start, .answer 1 (.ok {}),
    .answer 1 (.ok {}), .start (.edit (.set "b")), .resume 2, .start .stop, .cancel 2, .resume 4,
    .answer 4 (.ok {}), .start (.edit (.set "c"))]

theorem lifecycle_stoppedEarly :
    unstarted.Fresh ∧ unstarted.subscribed = false ∧ unstarted.InTurn default stoppedEarly ∧
      (unstarted.after default stoppedEarly).Settled ∧
      (unstarted.after default stoppedEarly).started = false ∧
      (unstarted.after default stoppedEarly).buffer.text = "c" ∧
      ∃ result, .returned 2 result ∈ unstarted.signals default stoppedEarly := by
  have fresh : unstarted.Fresh := ⟨Desk.idle_engine {}, rfl, rfl, rfl, rfl, fun _ => rfl⟩
  have inTurn : unstarted.InTurn default stoppedEarly :=
    ⟨settled_of_entries rfl, nofun, settled_of_entries rfl, trivial, trivial, trivial, trivial,
      settled_of_entries rfl, rfl, trivial, trivial, trivial, trivial⟩
  have settled : (unstarted.after default stoppedEarly).Settled := settled_of_entries rfl
  obtain ⟨-, down, past, -⟩ := lifecycle default fresh rfl inTurn
  have off := down (stoppedEarly.take 7) (stoppedEarly.drop 8) rfl
    (by simp [stoppedEarly]) settled
  obtain ⟨told, -⟩ := (past off).1 (stoppedEarly.take 7) (stoppedEarly.drop 7) _ rfl rfl
  exact ⟨fresh, rfl, inTurn, settled, off, rfl, told⟩

end SnippetStudio.Session
