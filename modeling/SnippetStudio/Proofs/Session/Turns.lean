import SnippetStudio.Proofs.Preview.Wanted
import SnippetStudio.Proofs.Session.Step

/-!
# A call at the desk, from one turn to the next

A call that has had its turn still waits at the desk, or it has returned and is gone: never both, and never
neither (`Left`).  As long as it is not one that makes the root or closes the page, there is a root after
the turn if there was one before (`Turn`).

* `turn_start`, `turn_answer`, `turn_resume`, `turn_cancel`   what one kind of move does.
-/

namespace SnippetStudio

namespace Preview

/-- neither makes the root nor closes the page -/
def Command.works : Command → Bool
  | .makeRoot | .shutdown => false
  | _ => true

def Call.works : Call → Bool
  | .makeRoot | .shutdown => false
  | _ => true

end Preview

namespace Session

open Preview (Desk Signal Setup Result Call)

variable {d : Desk} {n : Nat} {x : Desk × List Signal} {c : Call}

/-! ## What has returned -/

theorem returned_append (signals more : List Signal) (n : Nat) :
    returned? (signals ++ more) n = (returned? signals n).or (returned? more n) :=
  List.findSome?_append

@[simp] theorem returned_said (lines : List String) (n : Nat) :
    returned? (lines.map Signal.said) n = none := by
  induction lines with
  | nil => rfl
  | cons line lines ih => exact ih

theorem returned_said_append (lines : List String) (signals : List Signal) (n : Nat) :
    returned? (lines.map Signal.said ++ signals) n = returned? signals n := by
  rw [returned_append, returned_said, Option.none_or]

/-- a call that is over is gone, and returns just once -/
theorem returned_leave (d : Desk) (n : Nat) (result : Except Fault Result) :
    returned? (d.leave n result).2 n = some result ∧ (d.leave n result).1.calls.find? n = none := by
  have calls : (d.leave n result).1.calls = d.calls.drop n := by
    rw [Desk.leave_fst, Desk.calls_without]
  refine ⟨?_, by rw [calls, Roster.find?_drop_self]⟩
  have own : returned? [.returned n result] n = some result := by simp [returned?]
  simp only [Desk.leave, returned_append]
  split
  · unfold Desk.pass
    split
    · exact own
    · exact own
  · exact own

/-! ## What is left of a call -/

/-- the call waits, or it has returned and is gone -/
inductive Left (n : Nat) (x : Desk × List Signal) : Prop
  | waits {c : Call} (call : x.1.calls.find? n = some c) (works : c.works = true)
      (silent : returned? x.2 n = none)
  | returned {result : Except Fault Result} (gone : x.1.calls.find? n = none)
      (told : returned? x.2 n = some result)

theorem Left.said (h : Left n x) (lines : List String) :
    Left n (x.1, lines.map Signal.said ++ x.2) := by
  cases h with
  | waits call works silent =>
    exact .waits call works ((returned_said_append lines x.2 n).trans silent)
  | returned gone told => exact .returned gone ((returned_said_append lines x.2 n).trans told)

theorem left_put (d : Desk) (signals : List Signal) (works : c.works = true)
    (silent : returned? signals n = none) : Left n (d.put n c, signals) :=
  .waits (Roster.find?_put_self _ n c) works silent

theorem left_leave (d : Desk) (n : Nat) (result : Except Fault Result) :
    Left n (d.leave n result) :=
  .returned (returned_leave d n result).2 (returned_leave d n result).1

theorem left_refused (free : d.calls.find? n = none) (result : Except Fault Result) :
    Left n (d, [.returned n result]) := by
  have told : returned? [.returned n result] n = some result := by simp [returned?]
  exact .returned free told

theorem left_settleHeld (d : Desk) (n : Nat) (t : Preview.Turn) : Left n (d.settleHeld n t) := by
  unfold Desk.settleHeld
  split
  · exact (left_put _ [.asked n _] rfl rfl).said t.lines
  · exact (left_put _ [.paused n] rfl rfl).said t.lines
  · exact left_put _ _ rfl (returned_said t.lines n)
  · exact (left_leave { d with engine := t.engine } n _).said t.lines
  · exact (left_leave { d with engine := t.engine } n _).said t.lines

theorem left_settle (d : Desk) (n : Nat) (t : Preview.Turn) : Left n (d.settle n t) := by
  unfold Desk.settle
  split
  · dsimp only
    split
    · exact (left_settleHeld { d with engine := t.engine, holder := some n } n _).said t.lines
    · exact .waits (Roster.find?_put_self _ n _) rfl (returned_said t.lines n)
  · exact left_settleHeld d n t

/-! ## Turns -/

/-- a turn of a call that leaves the root alone -/
structure Turn (d : Desk) (n : Nat) (x : Desk × List Signal) : Prop where
  others : ∀ k, k ≠ n → x.1.calls.find? k = d.calls.find? k
  initialized : x.1.engine.initialized = d.engine.initialized
  left : Left n x

theorem initialized_startRender (d : Desk) (n : Nat) (source : String) :
    (d.startRender n source).1.engine.initialized = d.engine.initialized :=
  ((Preview.Render.keeps_poll _ _).trans (Desk.keeps_settle d n _)).initialized

theorem turn_start (free : d.calls.find? n = none) {c : Preview.Command} (works : c.works = true) :
    Turn d n (d.start n c) := by
  refine ⟨(Desk.answers_start free c).others, ?_, ?_⟩
  · cases c with
    | render source =>
      simp only [Desk.start]
      split
      · exact initialized_startRender d n source
      · rfl
    | refresh =>
      simp only [Desk.start]
      split
      · rfl
      · split
        · rfl
        · exact initialized_startRender d n _
    | html | screenshot =>
      simp only [Desk.start]
      split <;> rfl
    | makeRoot | shutdown => cases works
  · cases c with
    | render source =>
      simp only [Desk.start]
      split
      · exact left_settle _ n _
      · exact left_refused free _
    | refresh =>
      simp only [Desk.start]
      split
      · exact left_refused free _
      · split
        · exact (left_refused free _).said ["[preview] Nothing to refresh yet"]
        · next source _ =>
          exact (left_settle { d with engine := d.engine.request source } n _).said
            [if d.engine.lastRendered = some source then
                "[preview] Refresh: source unchanged, re-running"
              else "[preview] Refresh: retrying source that has not rendered yet"]
    | html | screenshot =>
      simp only [Desk.start]
      split
      · exact left_put d _ rfl rfl
      · exact left_refused free _
    | makeRoot | shutdown => cases works

theorem turn_answer (setup : Setup) (call : d.calls.find? n = some c) (works : c.works = true)
    (o : Preview.Outcome) : Turn d n (d.answer setup n o) := by
  have leaves (result : Except Fault Result) : Turn d n (d.leave n result) :=
    ⟨(Desk.answers_leave d n result).others, by rw [Desk.engine_leave], left_leave d n result⟩
  cases c with
  | makeRoot | shutdown => cases works
  | render r =>
    simp only [Desk.answer, call]
    split
    · exact ⟨fun _ _ => rfl, rfl, .waits call works rfl⟩
    · exact ⟨fun _ _ => rfl, rfl, .waits call works rfl⟩
    · exact ⟨(Desk.answers_settle d n _).others,
        ((Preview.Render.keeps_answer _ _ _ _).trans (Desk.keeps_settle d n _)).initialized,
        left_settle d n _⟩
  | html | screenshot =>
    cases o with
    | error f =>
      simp only [Desk.answer, call]
      exact leaves _
    | ok reply =>
      simp only [Desk.answer, call]
      exact leaves _

theorem turn_resume (call : d.calls.find? n = some c) (works : c.works = true) :
    Turn d n (d.resume n) := by
  refine ⟨(Desk.answers_resume d n).others, (d.keeps_resume n).initialized, ?_⟩
  have waits : Left n (d, []) := .waits call works rfl
  simp only [Desk.resume]
  split
  · split
    · exact left_settle d n _
    · split
      · exact left_settleHeld { d with holder := some n } n _
      · exact waits
    · exact waits
  · exact waits

theorem turn_cancel (call : d.calls.find? n = some c) : Turn d n (d.cancel n) ∧
    returned? (d.cancel n).2 n = some (.error .cancelled) := by
  have cancelled : d.cancel n = d.leave n (.error .cancelled) := by simp only [Desk.cancel, call]
  rw [cancelled]
  exact ⟨⟨(Desk.answers_leave d n _).others, by rw [Desk.engine_leave], left_leave d n _⟩,
    (returned_leave d n _).1⟩

end Session

end SnippetStudio
