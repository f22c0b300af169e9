import SnippetStudio.Proofs.Preview.Escape
import SnippetStudio.Proofs.Preview.Wanted
import SnippetStudio.Proofs.Session.Following

/-!
# What a session tells of its snippet

The snapshot of a session has one field for the snippet, and the engine has the last word on it: what is told
is the snippet that the engine was asked for last, whatever the buffer holds.

* `Begins`              a move by which a render begins, and the text that it renders;
* `source_begin`, `source_went`   what a move does to the snippet asked for;
* `source_move`         it is that of the render that begins, if one begins, and stays otherwise;
* `snapshot_tells_buffer_iff`   **the snapshot tells the buffer just when the last render is of its text**.
-/

namespace SnippetStudio.Session

open Preview (Desk Signal Setup Result)

variable {setup : Setup} {s : Session} {m : Move} {n : Nat} {text : String}

/-! ## Moves by which a render begins -/

/-- a call at the desk goes on by a move -/
inductive Goes (setup : Setup) (d : Desk) (n : Nat) : Move → Desk × List Signal → Prop
  | answers (o : Preview.Outcome) : Goes setup d n (.answer n o) (d.answer setup n o)
  | resumes : Goes setup d n (.resume n) (d.resume n)

/-- a move by which a render begins -/
inductive Begins (setup : Setup) (s : Session) : Move → String → Prop
  /-- the buffer is changed while the engine listens -/
  | edits {c : Command} (changed : (s.move setup (.start c)).1.buffer.text ≠ s.buffer.text)
      (listens : s.buffer.listeners ≠ []) (awake : s.desk.engine.initialized = true) :
      Begins setup s (.start c) (s.move setup (.start c)).1.buffer.text
  /-- the engine is asked for a snippet, or for the last one again -/
  | commands {c : Preview.Command} {text : String} (renders : c.renders s.desk.engine text)
      (awake : s.desk.engine.initialized = true) : Begins setup s (.start (.engine c)) text
  /-- the first render takes its first step -/
  | first {n : Nat} {text : String} (waits : s.activities.find? n = some (.first text))
      (goes : s.isDoomed n = false) (awake : s.desk.engine.initialized = true) :
      Begins setup s (.resume n) text
  /-- the engine is registered once more, and is told a text again -/
  | again {m : Move} {n : Nat} {a : Announcement Follower} {told : Bool} {x : Desk × List Signal}
      {result : Result} (waits : s.activities.find? n = some (.announcing a told))
      (listens : a.listeners ≠ []) (goes : s.isDoomed n = false) (step : Goes setup s.desk n m x)
      (returned : returned? x.2 n = some (.ok result)) (awake : x.1.engine.initialized = true) :
      Begins setup s m a.text

/-! ## What a move does to the snippet asked for -/

theorem desk_last (s : Session) (n : Nat) (x : Desk × List Signal) :
    (s.last n x).1.desk = x.1 ∧ (s.last n x).1.buffer = s.buffer := by
  simp only [last]
  split
  · exact ⟨rfl, rfl⟩
  · next result _ =>
    obtain ⟨desk, buffer, -⟩ := finish_keeps { s with desk := x.1 } n result
    exact ⟨desk, buffer⟩

/-- the first listener that is told begins a render, or fails -/
theorem source_tell (s : Session) (n : Nat) (result : Bool) (text : String) (ls : List Follower) :
    (s.tell n result text ls).1.desk.engine.source =
      if ls ≠ [] ∧ s.desk.engine.initialized = true then some text else s.desk.engine.source := by
  cases ls with
  | nil =>
    rw [if_neg fun h => h.1 rfl, tell, (finish_keeps s n _).1]
  | cons l ls =>
    cases awake : s.desk.engine.initialized with
    | true =>
      have asked : returned? (s.desk.start n (.render text)).2 n = none := by
        simp [Desk.start, awake, Desk.startRender_signals, returned?]
      simp only [tell, asked]
      show (s.desk.start n (.render text)).1.engine.source = _
      rw [Desk.source_render, awake]
      simp
    | false =>
      have refused : s.desk.start n (.render text) = s.desk.refuse n .render := by
        simp [Desk.start, awake]
      simp only [tell, refused, Desk.refuse, returned?, List.findSome?]
      simp [(finish_keeps _ n _).1]

theorem buffer_tell (s : Session) (n : Nat) (result : Bool) (text : String) (ls : List Follower) :
    (s.tell n result text ls).1.buffer = s.buffer := by
  induction ls generalizing s with
  | nil => exact (finish_keeps s n _).2.1
  | cons l ls ih =>
    simp only [tell]
    split
    · rfl
    · exact (finish_keeps _ n _).2.1
    · exact ih _

theorem buffer_announce (s : Session) (n : Nat) (e : Edit) :
    (s.announce n e).1.buffer = (s.buffer.edit e).buffer := by
  simp only [announce]
  split
  · exact (finish_keeps _ n _).2.1
  · exact buffer_tell _ n _ _ _

theorem source_announce (s : Session) (n : Nat) (e : Edit) :
    (s.announce n e).1.desk.engine.source =
      if (s.announce n e).1.buffer.text ≠ s.buffer.text ∧ s.buffer.listeners ≠ [] ∧
          s.desk.engine.initialized = true
      then some (s.announce n e).1.buffer.text else s.desk.engine.source := by
  rw [buffer_announce]
  obtain ⟨-, ⟨same, silent⟩ | ⟨changed, announced⟩⟩ := s.buffer.edit_announcement e
  · rw [if_neg fun h => h.1 same]
    simp only [announce, silent]
    rw [(finish_keeps _ n _).1]
  · simp only [announce, announced]
    rw [source_tell]
    simp [changed]

/-- the text of the buffer and the snippet asked for stay what they are -/
def Leaves (s s' : Session) : Prop :=
  s'.buffer.text = s.buffer.text ∧ s'.desk.engine.source = s.desk.engine.source

theorem leaves_finish (s : Session) (n : Nat) (result : Except Fault Result) :
    s.Leaves (s.finish n result).1 := by
  obtain ⟨desk, buffer, -⟩ := finish_keeps s n result
  exact ⟨congrArg Buffer.text buffer, by rw [desk]⟩

theorem leaves_close (s : Session) (n : Nat) : s.Leaves (s.close n).1 := by
  have down : (s.desk.start n .shutdown).1.engine.source = s.desk.engine.source :=
    Desk.source_start s.desk n (by intro t h; cases h)
  exact ⟨rfl, down⟩

theorem leaves_stop (s : Session) (n : Nat) : s.Leaves (s.stop n).1 := by
  have off : s.unsubscribe.buffer.text = s.buffer.text ∧ s.unsubscribe.desk = s.desk := by
    unfold unsubscribe
    split <;> exact ⟨rfl, rfl⟩
  have closed := leaves_close s.unsubscribe n
  simp only [stop]
  split
  · exact ⟨off.1, congrArg (·.engine.source) off.2⟩
  · exact ⟨closed.1.trans off.1, closed.2.trans (congrArg (·.engine.source) off.2)⟩

theorem leaves_begin (s : Session) (n : Nat) {c : Command}
    (h : c = .start ∨ c = .stop ∨ c = .wait) : s.Leaves (s.begin n c).1 := by
  rcases h with rfl | rfl | rfl
  · simp only [begin]
    split
    · exact leaves_finish s n _
    · exact ⟨rfl, rfl⟩
  · exact leaves_stop s n
  · simp only [begin]
    split
    · exact leaves_finish s n _
    · exact leaves_finish s n _
    · exact ⟨rfl, rfl⟩

/-- a change begins a render if the engine listens; else nothing does but a command for the engine -/
theorem source_begin (s : Session) (n : Nat) (c : Command) :
    (s.begin n c).1.desk.engine.source =
      if (s.begin n c).1.buffer.text ≠ s.buffer.text ∧ s.buffer.listeners ≠ [] ∧
          s.desk.engine.initialized = true
      then some (s.begin n c).1.buffer.text
      else match c with
        | .engine c => (s.desk.start n c).1.engine.source
        | _ => s.desk.engine.source := by
  have aside (h : s.Leaves (s.begin n c).1) : (s.begin n c).1.desk.engine.source =
      if (s.begin n c).1.buffer.text ≠ s.buffer.text ∧ s.buffer.listeners ≠ [] ∧
          s.desk.engine.initialized = true
      then some (s.begin n c).1.buffer.text else s.desk.engine.source := by
    rw [if_neg fun k => k.1 h.1]
    exact h.2
  cases c with
  | start => exact aside (leaves_begin s n (.inl rfl))
  | stop => exact aside (leaves_begin s n (.inr (.inl rfl)))
  | wait => exact aside (leaves_begin s n (.inr (.inr rfl)))
  | edit e => exact source_announce s n e
  | loadExample name =>
    cases found : Examples.get name with
    | error f =>
      have ended : s.begin n (.loadExample name) = s.finish n (.error f) := by
        simp only [begin, found]
      refine aside ?_
      rw [ended]
      exact leaves_finish s n _
    | ok text =>
      have set : s.begin n (.loadExample name) = s.announce n (.set text) := by
        simp only [begin, found]
      rw [set]
      exact source_announce s n _
  | engine c =>
    obtain ⟨desk, buffer⟩ := desk_last (s.put n .plain) n (s.desk.start n c)
    have same : (s.begin n (.engine c)).1.buffer.text = s.buffer.text := congrArg Buffer.text buffer
    rw [if_neg fun k => k.1 same]
    exact congrArg (·.engine.source) desk

/-- an announcement that goes on begins a render of its text, if there is somebody else to tell -/
theorem source_again {a : Announcement Follower} {told : Bool} {x : Desk × List Signal}
    {result : Result} (waits : s.activities.find? n = some (.announcing a told))
    (returned : returned? x.2 n = some (.ok result)) : (s.went n x).1.desk.engine.source =
      if a.listeners ≠ [] ∧ x.1.engine.initialized = true then some a.text
      else x.1.engine.source := by
  simp only [went, waits, returned]
  exact source_tell { s with desk := x.1 } n told a.text a.listeners

theorem source_went {x : Desk × List Signal} (other : ∀ a told result,
    s.activities.find? n = some (.announcing a told) → returned? x.2 n ≠ some (.ok result)) :
    (s.went n x).1.desk.engine.source = x.1.engine.source := by
  simp only [went]
  split
  · next waits returned => exact absurd returned (other _ _ _ waits)
  · show (launch { s with desk := x.1 } n).1.desk.engine.source = _
    rw [(launch_view _ n).1]
  · show (finish { s with desk := x.1, started := false } n (.ok .nothing)).1.desk.engine.source = _
    rw [(finish_keeps _ n _).1]
  · rw [(desk_last s n x).1]

/-! ## The snippet asked for, move by move -/

/-- a call at the desk goes on, and leaves the snippet asked for as it is unless a text is told again -/
theorem goes_begins (goes : s.isDoomed n = false) {x : Desk × List Signal}
    (step : Goes setup s.desk n m x) : (s.went n x).1.desk.engine.source = s.desk.engine.source ∨
      ∃ text, Begins setup s m text := by
  have source : x.1.engine.source = s.desk.engine.source := by
    cases step with
    | answers o => exact Desk.source_answer setup s.desk n o
    | resumes => exact Desk.source_resume s.desk n
  by_cases again : ∃ a told result, s.activities.find? n = some (.announcing a told) ∧
      returned? x.2 n = some (.ok result) ∧ a.listeners ≠ [] ∧ x.1.engine.initialized = true
  · obtain ⟨a, told, result, waits, returned, listens, awake⟩ := again
    exact .inr ⟨a.text, .again waits listens goes step returned awake⟩
  · by_cases told : ∃ a told result, s.activities.find? n = some (.announcing a told) ∧
        returned? x.2 n = some (.ok result)
    · obtain ⟨a, told, result, waits, returned⟩ := told
      rw [source_again waits returned, if_neg fun h => again ⟨a, told, result, waits, returned, h⟩]
      exact .inl source
    · rw [source_went fun a b r waits returned => told ⟨a, b, r, waits, returned⟩]
      exact .inl source

theorem source_answer (setup : Setup) (n : Nat) (o : Preview.Outcome)
    (goes : s.isDoomed n = false) :
    (s.answer setup n o).1.desk.engine.source = s.desk.engine.source ∨
      ∃ text, Begins setup s (.answer n o) text := by
  simp only [answer]
  split
  · next opening =>
    cases o with
    | error f => exact .inl (leaves_finish s n _).2
    | ok reply =>
      refine .inl ?_
      have other : ∀ a told result, (s.put n .rooting).activities.find? n =
          some (.announcing a told) →
            returned? (s.desk.start n .makeRoot).2 n ≠ some (.ok result) := by
        intro a told result waits
        rw [put, Roster.find?_put_self] at waits
        cases waits
      show ((s.put n .rooting).went n (s.desk.start n .makeRoot)).1.desk.engine.source = _
      rw [source_went other]
      exact Desk.source_start _ n (by intro t h; cases h)
  · exact goes_begins goes (.answers o)
  · exact .inl rfl

theorem source_resume (setup : Setup) (n : Nat) (goes : s.isDoomed n = false) :
    (s.resume n).1.desk.engine.source = s.desk.engine.source ∨
      ∃ text, Begins setup s (.resume n) text := by
  simp only [resume]
  split
  · next text waits =>
    cases awake : s.desk.engine.initialized with
    | true => exact .inr ⟨text, .first waits goes awake⟩
    | false =>
      rw [(desk_last (s.put n .plain) n _).1, Desk.source_render, awake]
      exact .inl rfl
  · exact .inl (leaves_finish s n _).2
  · split
    · exact .inl rfl
    · exact .inl (leaves_close s n).2
  · exact goes_begins goes .resumes
  · exact .inl rfl

theorem source_cancel (s : Session) (n : Nat) :
    (s.cancel n).1.desk.engine.source = s.desk.engine.source := by
  simp only [cancel]
  split
  · exact (leaves_finish s n _).2
  · have other : ∀ a told result, s.activities.find? n = some (.announcing a told) →
        returned? (s.desk.cancel n).2 n ≠ some (.ok result) := fun a told result _ returned =>
      Desk.returned_cancel s.desk n result (returned_of_some returned)
    rw [source_went other]
    exact Desk.source_cancel s.desk n
  · rfl

/-- **A move by which no render begins leaves the snippet asked for as it is.** -/
theorem source_move (setup : Setup) (s : Session) (m : Move) :
    (s.move setup m).1.desk.engine.source = s.desk.engine.source ∨
      ∃ text, Begins setup s m text := by
  cases m with
  | start c =>
    by_cases edits : (s.move setup (.start c)).1.buffer.text ≠ s.buffer.text ∧
        s.buffer.listeners ≠ [] ∧ s.desk.engine.initialized = true
    · exact .inr ⟨_, .edits edits.1 edits.2.1 edits.2.2⟩
    · have source := (source_begin { s with next := s.next + 1 } s.next c).trans (if_neg edits)
      cases c with
      | engine c =>
        by_cases same : (s.desk.start s.next c).1.engine.source = s.desk.engine.source
        · exact .inl (source.trans same)
        · obtain ⟨awake, text, renders⟩ := Desk.renders_of_source s.desk s.next same
          exact .inr ⟨text, .commands renders awake⟩
      | _ => exact .inl source
  | answer n o =>
    cases goes : s.isDoomed n with
    | true => simp [move, goes]
    | false =>
      simp only [move, goes]
      exact source_answer setup n o goes
  | resume n =>
    cases goes : s.isDoomed n with
    | true => simp [move, goes]
    | false =>
      simp only [move, goes]
      exact source_resume setup n goes
  | cancel n => exact .inl (source_cancel s n)

/-- **The snippet asked for is that of the render that begins.** -/
theorem Begins.source (h : Begins setup s m text) :
    (s.move setup m).1.desk.engine.source = some text := by
  cases h with
  | @edits c changed listens awake =>
    exact (source_begin { s with next := s.next + 1 } s.next c).trans
      (if_pos ⟨changed, listens, awake⟩)
  | @commands c text renders awake =>
    show ((({ s with next := s.next + 1 } : Session).put s.next .plain).last s.next
      (s.desk.start s.next c)).1.desk.engine.source = _
    rw [(desk_last _ _ _).1]
    exact Desk.source_of_renders s.desk s.next renders awake
  | @first n text waits goes awake =>
    simp only [move, goes, resume, waits]
    show ((s.put n .plain).last n (s.desk.start n (.render text))).1.desk.engine.source = _
    rw [(desk_last _ _ _).1, Desk.source_render, if_pos awake]
  | @again m n a told x result waits listens goes step returned awake =>
    have went : s.move setup m = s.went n x := by
      cases step with
      | answers o => simp [move, goes, answer, waits]
      | resumes => simp [move, goes, resume, waits]
    rw [went, source_again waits returned, if_pos ⟨listens, awake⟩]

/-! ## Runs -/

/-- no render begins in a run -/
def Rests (setup : Setup) (s : Session) : List Move → Prop
  | [] => True
  | m :: ms => (∀ text, ¬Begins setup s m text) ∧ Rests setup (s.move setup m).1 ms

/-- at the end of a run the snippet asked for is that of the last render that began, or what it was -/
theorem source_run (setup : Setup) (s : Session) (ms : List Move) (text : String) :
    (s.after setup ms).desk.engine.source = some text ↔
      s.desk.engine.source = some text ∧ Rests setup s ms ∨
        ∃ pre m post, ms = pre ++ m :: post ∧ Begins setup (s.after setup pre) m text ∧
          Rests setup ((s.after setup pre).move setup m).1 post := by
  induction ms generalizing s with
  | nil =>
    refine ⟨fun h => .inl ⟨h, trivial⟩, ?_⟩
    rintro (⟨h, -⟩ | ⟨pre, m, post, split, -⟩)
    · exact h
    · simp at split
  | cons m ms ih =>
    refine (ih (s.move setup m).1).trans ⟨?_, ?_⟩
    · rintro (⟨source, rests⟩ | ⟨pre, k, post, rfl, begins, rests⟩)
      · by_cases begins : ∃ x, Begins setup s m x
        · obtain ⟨x, begins⟩ := begins
          cases Option.some.inj (begins.source.symm.trans source)
          exact .inr ⟨[], m, ms, rfl, begins, rests⟩
        · have same := (source_move setup s m).resolve_right begins
          exact .inl ⟨same.symm.trans source, fun x hx => begins ⟨x, hx⟩, rests⟩
      · exact .inr ⟨m :: pre, k, post, rfl, begins, rests⟩
    · rintro (⟨source, none, rests⟩ | ⟨pre, k, post, split, begins, rests⟩)
      · have same := (source_move setup s m).resolve_right fun ⟨x, hx⟩ => none x hx
        exact .inl ⟨same.trans source, rests⟩
      · cases pre with
        | nil =>
          cases split
          exact .inl ⟨begins.source, rests⟩
        | cons _ pre =>
          cases split
          exact .inr ⟨pre, k, post, rfl, begins, rests⟩

/-- the engine has the last word on the snippet, also where it has none -/
theorem snapshot_source (s : Session) : Json.get? "source" s.snapshot =
    some ((s.desk.engine.source.map Json.Tree.str).getD .null) := rfl

/-- **What the snapshot tells of the snippet.**  Before anybody has asked the engine for a snippet, and in
every run from there: the snapshot tells the text that the buffer has just when the last render that began is
of this text.  As long as none has begun it tells nothing; and it goes on telling what was rendered last
when the buffer is changed with nobody to follow it. -/
theorem snapshot_tells_buffer_iff (setup : Setup) {s : Session}
    (unasked : s.desk.engine.source = none) (ms : List Move) :
    Json.get? "source" (s.after setup ms).snapshot = some (.str (s.after setup ms).buffer.text) ↔
      ∃ pre m post, ms = pre ++ m :: post ∧
        Begins setup (s.after setup pre) m (s.after setup ms).buffer.text ∧
        Rests setup ((s.after setup pre).move setup m).1 post := by
  have told : Json.get? "source" (s.after setup ms).snapshot =
        some (.str (s.after setup ms).buffer.text) ↔
      (s.after setup ms).desk.engine.source = some (s.after setup ms).buffer.text := by
    rw [snapshot_source]
    cases (s.after setup ms).desk.engine.source with
    | none => simp
    | some text => simp
  rw [told, source_run, unasked]
  simp

/-- before its start a session tells no snippet, though its buffer has a text; it does so from the first
step of the first render on -/
theorem snapshot_tells_buffer_iff_unstarted :
    unstarted.desk.engine.source = none ∧ unstarted.buffer.text = "a" ∧
      Json.get? "source" (unstarted.after default []).snapshot ≠ some (.str "a") ∧
      Json.get? "source" (unstarted.after default (startUp 0 {} {} ++ [.resume 1])).snapshot =
        some (.str "a") := by
  refine ⟨rfl, rfl, fun told => ?_, ?_⟩
  · obtain ⟨pre, m, post, split, -⟩ := (snapshot_tells_buffer_iff default rfl []).mp told
    simp at split
  · have first : Begins default (unstarted.after default (startUp 0 {} {})) (.resume 1) "a" :=
      .first rfl rfl rfl
    exact (snapshot_tells_buffer_iff default (s := unstarted) rfl _).mpr
      ⟨_, _, [], rfl, first, trivial⟩

end SnippetStudio.Session
