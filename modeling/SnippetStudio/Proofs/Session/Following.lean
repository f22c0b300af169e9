import SnippetStudio.Proofs.Session.StartUp

/-!
# Following the buffer

Every change of the buffer begins a render of the new text at once, so an engine that nobody else gives
a snippet wants what the buffer was changed to last (`source_after`).  The first render is an
exception: its text is that of the start, but it begins when it takes its first step, and the buffer
may have changed by then.

* `first_taken`          a first render that does not wait any more has taken its first step;
* `Desk.Rendered`        what a desk wants at the end is rendered, or its error is recorded;
* `follows_buffer_iff`   **the preview follows the buffer from the first step of the first render on**.
-/

namespace SnippetStudio

namespace Preview

/-- what a desk wants at the end of a run is what it has rendered there, or failed to -/
structure Desk.Rendered (setup : Setup) (d d' : Desk) (text : String) : Prop where
  wanted : d'.engine.source = some text
  done : ∃ ms n, d' = d.after setup ms ∧
    ⟨n, d'.engine.version, text, .begins⟩ ∈ d.history setup ms ∧
    (d'.engine.error = none ∧ d'.engine.lastRendered = some text ∨
      ∃ f, d'.engine.error = some f ∧ Recorded f d'.engine.version (d.moments setup ms))

theorem Desk.rendered {setup : Setup} {d : Desk} {ms : List Move} (idle : d.Idle)
    (goesOn : ∀ m ∈ ms, m.goesOn = true) (rest : ∀ n, (d.after setup ms).calls.find? n = none)
    (returned : ∀ a ∈ d.history setup ms, a.deed.failed = false) {a : Act}
    (made : a ∈ d.history setup ms) : ∃ text, d.Rendered setup (d.after setup ms) text := by
  obtain ⟨n, text, settled⟩ := settled_at_rest setup idle goesOn rest returned made
  refine ⟨text, settled.wanted, ms, n, rfl, settled.begun, ?_⟩
  cases settled.shows with
  | snippet error rendered => exact .inl ⟨error, rendered⟩
  | failure error =>
    exact .inr ⟨_, error, recorded_after setup idle error settled.begun rfl⟩

end Preview

namespace Session

open Preview (Desk Signal Setup Result Reply)

section

variable {setup : Setup} {s s₁ : Session} {m : Move} {n : Nat} {dm : Option Preview.Move}
  {y : Session × List Signal} {d : Desk} {dms : List Preview.Move} {told : List Signal}
  {ms : List Move} {text : String}

/-- nobody fails -/
def Fine (signals : List Signal) : Prop := ∀ k f, .returned k (.error f) ∉ signals

/-- what the engine wants after a move that is not the first step of the first render -/
theorem source_of_move (hs : s.Running) (ho : s.desk.Orderly) (opens : Opens s m s₁ n dm)
    (books : Books s₁ n (play setup s.desk dm) y) (late : s.waiting n = none) (fine : Fine y.2) :
    y.1.desk.engine.source = if y.1.buffer.text = s.buffer.text then s.desk.engine.source
      else some y.1.buffer.text := by
  obtain ⟨desk, buffer, -⟩ := books.keeps
  rw [desk, buffer]
  cases opens with
  | aside text =>
    rw [if_pos text]
    rfl
  | @edits c b text =>
    rw [if_neg text]
    rcases Desk.render_begins setup hs.free b.text with ⟨wanted, -⟩ | ⟨f, failed⟩
    · exact wanted
    · exact absurd (books.raises failed) (fine _ f)
  | @commands c follows =>
    rw [if_pos (by rfl)]
    rcases Desk.source_step (Desk.move_step setup ho (.start s.next c)) with
      same | ⟨k, c', source, e, renders, wanted⟩
    · exact same
    · cases e
      cases c with
      | refresh => exact wanted.trans renders.symm
      | render => cases follows
      | _ => cases renders
  | first h =>
    rw [waiting_eq_some.mpr h] at late
    cases late
  | joined =>
    rw [if_pos rfl]
    rfl
  | answers | resumes =>
    rw [if_pos rfl]
    rcases Desk.source_step (Desk.move_step setup ho _) with same | ⟨k, c', source, e, -⟩
    · exact same
    · cases e

/-- a move, when nobody waits for his first step -/
theorem move_awake (h : Followed setup d dms s told) (idle : d.Idle) (follows : m.follows = true)
    (awake : ∀ k, s.waiting k = none) (fine : Fine (s.move setup m).2) :
    (∀ k, (s.move setup m).1.waiting k = none) ∧
      (s.move setup m).1.desk.engine.source =
        (s.changes setup [m]).getLast?.or s.desk.engine.source := by
  simp only [changes, List.append_nil]
  rcases move_step h.running follows with nothing | ⟨s₁, n, dm, opens, books⟩
  · rw [nothing, if_pos rfl]
    exact ⟨awake, rfl⟩
  · have ho : s.desk.Orderly := by
      rw [h.tracks.desk]
      exact Desk.orderly_after setup idle.orderly dms
    refine ⟨fun k => ?_, ?_⟩
    · rw [waiting_step opens books, awake, ite_self]
    · rw [source_of_move h.running ho opens books (awake n) fine]
      split <;> rfl

/-- **The engine wants what the buffer was changed to last.** -/
theorem source_after (h : Followed setup d dms s told) (idle : d.Idle)
    (follows : ∀ m ∈ ms, m.follows = true) (awake : ∀ k, s.waiting k = none)
    (fine : Fine (s.signals setup ms)) :
    (s.after setup ms).desk.engine.source =
      (s.changes setup ms).getLast?.or s.desk.engine.source := by
  induction ms generalizing s dms told with
  | nil => rfl
  | cons m ms ih =>
    have now := follows m (List.mem_cons_self ..)
    obtain ⟨awake', wanted⟩ := move_awake h idle now awake
      fun k f hf => fine k f (List.mem_append_left _ hf)
    obtain ⟨dm, h'⟩ := followed_move h now
    have rest := ih h' (fun m' hm => follows m' (List.mem_cons_of_mem _ hm)) awake'
      fun k f hf => fine k f (List.mem_append_right _ hf)
    have split : s.changes setup (m :: ms) =
        s.changes setup [m] ++ changes setup (s.move setup m).1 ms := by
      simp only [changes, List.append_nil]
    show (after setup (s.move setup m).1 ms).desk.engine.source = _
    rw [rest, wanted, split, List.getLast?_append, Option.or_assoc]

/-! ## The first render -/

/-- the first render waits for its first step, and nobody else waits for one -/
def Awaits (s : Session) (n : Nat) (text : String) : Prop :=
  ∀ k, s.waiting k = if k = n then some text else none

/-- **A first render that does not wait any more has taken its first step.** -/
theorem first_taken (hs : s.Running) (follows : ∀ m ∈ ms, m.follows = true)
    (awaits : s.Awaits n text) (taken : (s.after setup ms).waiting n = none) :
    ∃ pre post, ms = pre ++ .resume n :: post ∧ (s.after setup pre).Awaits n text := by
  induction ms generalizing s with
  | nil =>
    have waits := awaits n
    rw [if_pos rfl] at waits
    rw [after, run, waits] at taken
    cases taken
  | cons m ms ih =>
    have now := follows m (List.mem_cons_self ..)
    by_cases first : m = .resume n
    · rw [first]
      exact ⟨[], ms, rfl, awaits⟩
    · have awaits' : (s.move setup m).1.Awaits n text := by
        rcases move_step hs now with nothing | ⟨s₁, k, dm, opens, books⟩
        · rw [nothing]
          exact awaits
        · have other : k ≠ n := by
            rintro rfl
            exact first (opens.takes hs ((awaits k).trans (if_pos rfl)))
          intro j
          rw [waiting_step opens books, awaits]
          split
          · next own => rw [own, if_neg other]
          · rfl
      obtain ⟨pre, post, split, awaits'⟩ := ih (running_move hs now)
        (fun m' hm => follows m' (List.mem_cons_of_mem _ hm)) awaits' taken
      exact ⟨m :: pre, post, by rw [split]; rfl, awaits'⟩

/-- the first render begins, whatever the text of the buffer may be by now -/
theorem first_begins (h : Followed setup d dms s told) (awaits : s.Awaits n text)
    (fine : Fine (s.move setup (.resume n)).2) :
    (s.move setup (.resume n)).1.buffer = s.buffer ∧
      (s.move setup (.resume n)).1.desk.engine.source = some text ∧
      (∀ k, (s.move setup (.resume n)).1.waiting k = none) ∧
      ∃ dms' a, Followed setup d dms' (s.move setup (.resume n)).1
        (told ++ (s.move setup (.resume n)).2) ∧ a ∈ d.history setup dms' := by
  have waits := waiting_eq_some.mp ((awaits n).trans (if_pos rfl))
  have opens : Opens s (.resume n) s n (some (.start n (.render text))) := .first waits
  have books : Books s n (play setup s.desk (some (.start n (.render text))))
      (s.move setup (.resume n)) := by
    rw [move_resume h.running]
    exact resume_first h.running waits
  obtain ⟨desk, buffer, -⟩ := books.keeps
  rcases Desk.render_begins setup (h.running.away waits rfl) text with
    ⟨wanted, begins⟩ | ⟨f, failed⟩
  · refine ⟨buffer, by rw [desk]; exact wanted, fun k => ?_, _,
      ⟨n, s.desk.engine.version + 1, text, .begins⟩, h.step opens books, ?_⟩
    · rw [waiting_step opens books, awaits]
      split <;> rfl
    · rw [Option.toList_some, Desk.history_append, ← h.tracks.desk]
      refine List.mem_append_right _ ?_
      simpa [Desk.history, Desk.moments] using begins
  · exact absurd (books.raises failed) (fine _ f)

/-- a run from the first step of the first render to the end of everything -/
theorem rendered_from (h : Followed setup d dms s told) (idle : d.Idle) (awaits : s.Awaits n text)
    (follows : ∀ m ∈ ms, m.follows = true)
    (rest : ∀ k, (s.after setup (.resume n :: ms)).activities.find? k = none)
    (fine : Fine (told ++ s.signals setup (.resume n :: ms))) :
    d.Rendered setup (s.after setup (.resume n :: ms)).desk
      ((s.changes setup (.resume n :: ms)).getLast?.getD text) := by
  have first : Fine (s.move setup (.resume n)).2 := fun k f hf =>
    fine k f (List.mem_append_right _ (List.mem_append_left _ hf))
  obtain ⟨buffer, wanted, awake, dms', a, h', begun⟩ := first_begins h awaits first
  have later : s.changes setup (.resume n :: ms) =
      changes setup (s.move setup (.resume n)).1 ms := by
    rw [changes, buffer, if_pos rfl]
    rfl
  have source := source_after h' idle follows awake fun k f hf =>
    fine k f (List.mem_append_right _ (List.mem_append_right _ hf))
  obtain ⟨more, h''⟩ := followed_run h' follows
  rw [List.append_assoc] at h''
  have gone : ∀ k, (d.after setup (dms' ++ more)).calls.find? k = none := by
    intro k
    rw [← h''.tracks.desk]
    exact h''.running.no_call fun a ha => absurd ((rest k).symm.trans ha) (Option.some_ne_none a).symm
  have returned : ∀ a ∈ d.history setup (dms' ++ more), a.deed.failed = false := by
    intro a ha
    refine Bool.eq_false_iff.mpr fun failed => ?_
    obtain ⟨f, ends⟩ := Preview.Deed.ends_of_failed failed
    obtain ⟨k, f, hf⟩ := h''.tracks.failed a ha f ends
    exact fine k f hf
  have begun' : a ∈ d.history setup (dms' ++ more) := by
    rw [Desk.history_append]
    exact List.mem_append_left _ begun
  obtain ⟨text', rendered⟩ := Desk.rendered idle h''.tracks.goesOn gone returned begun'
  rw [← h''.tracks.desk] at rendered
  have e : (s.changes setup (.resume n :: ms)).getLast?.getD text = text' := by
    have last := rendered.wanted
    rw [source, wanted, ← later, Option.or_some] at last
    exact Option.some.inj last
  rw [e]
  exact rendered

/-- **The preview follows the buffer from the first step of the first render on.**  When everything that
was begun after the start is over, and nobody failed, the preview shows the last change since that
step, or the text of the start if there was none.  It shows the text of the buffer just if there was a
change, or if the buffer held the text of the start when the step was taken. -/
theorem follows_buffer_iff (setup : Setup) (fresh : s.Fresh) (a b : Reply)
    (follows : ∀ m ∈ ms, m.follows = true)
    (rest : ∀ n, (s.after setup (startUp s.next a b ++ ms)).activities.find? n = none)
    (fine : Fine (s.signals setup (startUp s.next a b ++ ms))) :
    ∃ pre post, ms = pre ++ .resume (s.next + 1) :: post ∧
      let early := s.after setup (startUp s.next a b ++ pre)
      let late := s.after setup (startUp s.next a b ++ ms)
      let edits := early.changes setup (.resume (s.next + 1) :: post)
      early.waiting (s.next + 1) = some s.buffer.text ∧
      s.desk.Rendered setup late.desk (edits.getLast?.getD s.buffer.text) ∧
      (late.desk.engine.source = some late.buffer.text ↔
        edits ≠ [] ∨ early.buffer.text = s.buffer.text) := by
  obtain ⟨⟨dms, h⟩, -⟩ := launched setup fresh a b
  have awaits : (s.after setup (startUp s.next a b)).Awaits (s.next + 1) s.buffer.text := by
    intro k
    rw [waiting, find?_startUp fresh]
    split <;> rfl
  have taken : (after setup (s.after setup (startUp s.next a b)) ms).waiting (s.next + 1) =
      none := by
    rw [waiting, ← after_append, rest]
    rfl
  obtain ⟨pre, post, rfl, awaits⟩ := first_taken h.running follows awaits taken
  rw [← after_append] at awaits
  obtain ⟨more, h⟩ := followed_run h fun m hm => follows m (List.mem_append_left _ hm)
  rw [← signals_append, ← after_append] at h
  rw [← List.append_assoc, after_append] at rest
  rw [← List.append_assoc, signals_append] at fine
  have rendered := rendered_from h fresh.desk awaits
    (fun m hm => follows m (List.mem_append_right _ (List.mem_cons_of_mem _ hm))) rest fine
  have split : s.after setup (startUp s.next a b ++ (pre ++ .resume (s.next + 1) :: post)) =
      after setup (s.after setup (startUp s.next a b ++ pre)) (.resume (s.next + 1) :: post) := by
    rw [← after_append, List.append_assoc]
  refine ⟨pre, post, rfl, ?_⟩
  dsimp only
  rw [split]
  refine ⟨(awaits _).trans (if_pos rfl), rendered, ?_⟩
  rw [rendered.wanted, text_after, Option.some.injEq]
  cases last : (changes setup (s.after setup (startUp s.next a b ++ pre))
    (.resume (s.next + 1) :: post)).getLast? with
  | none =>
    have none := List.getLast?_eq_none_iff.mp last
    simp [none, eq_comm]
  | some t =>
    have some : changes setup (s.after setup (startUp s.next a b ++ pre))
        (.resume (s.next + 1) :: post) ≠ [] := by
      intro e
      rw [e] at last
      cases last
    simp [some]

end

/-- not the failure of a call -/
def isFine : Signal → Bool
  | .returned _ (.error _) => false
  | _ => true

/-- a session before its start, whose text was edited once -/
def unstarted : Session where
  buffer := { surface := .memory { texts := [Examples.button, "a"], place := 1, inside := by decide } }
  components := 0
  example_ := "button"

/-- an edit before the first render takes its first step -/
def overtaken : List Move :=
  [.start (.edit (.set "b")), .resume 1, .answer 2 (.ok {}), .answer 2 (.ok { code := some .null }),
    .answer 1 (.ok {}), .answer 1 (.ok { code := some .null }), .answer 1 (.ok {}),
    .answer 1 (.ok {})]

theorem follows_buffer_iff_overtaken :
    unstarted.Fresh ∧ (∀ m ∈ overtaken, m.follows = true) ∧
    (∀ n, (unstarted.after default (startUp 0 {} {} ++ overtaken)).activities.find? n = none) ∧
    Fine (unstarted.signals default (startUp 0 {} {} ++ overtaken)) ∧
    unstarted.desk.Rendered default
      (unstarted.after default (startUp 0 {} {} ++ overtaken)).desk "a" ∧
    (unstarted.after default (startUp 0 {} {} ++ overtaken)).buffer.text = "b" := by
  have fresh : unstarted.Fresh :=
    ⟨Desk.idle_engine {}, rfl, rfl, rfl, rfl, fun _ => rfl⟩
  have follows : ∀ m ∈ overtaken, m.follows = true := by
    have all : overtaken.all Move.follows = true := rfl
    exact List.all_eq_true.mp all
  have rest :
      ∀ n, (unstarted.after default (startUp 0 {} {} ++ overtaken)).activities.find? n = none := by
    have none : (unstarted.after default (startUp 0 {} {} ++ overtaken)).activities = {} := rfl
    intro n
    rw [none]
    exact Roster.find?_empty n
  have fine : Fine (unstarted.signals default (startUp 0 {} {} ++ overtaken)) := by
    have all : (unstarted.signals default (startUp 0 {} {} ++ overtaken)).all isFine = true := by
      decide +kernel
    intro k f hf
    cases List.all_eq_true.mp all _ hf
  have edited : (unstarted.after default (startUp 0 {} {} ++ overtaken)).buffer.text = "b" := rfl
  have stale : (unstarted.after default (startUp 0 {} {} ++ overtaken)).desk.engine.source =
      some "a" := rfl
  refine ⟨fresh, follows, rest, fine, ?_, edited⟩
  obtain ⟨pre, post, -, -, rendered, -⟩ :=
    follows_buffer_iff default fresh {} {} follows rest fine
  have shown := Option.some.inj (rendered.wanted.symm.trans stale)
  rwa [shown] at rendered

end Session

end SnippetStudio
