import SnippetStudio.Proofs.Session.Transitions

/-!
# Starts and stops in turn

A session goes from phase to phase as long as a start or a stop waits for the one before it to end, nobody
else makes the root or closes the page, and closing the page does not fail (`Allows`).  Everything else may
happen at any time: edits, renders and whatever they wait for, and a page that cannot be loaded.

* `shift_answer`, `shift_resume`, `shift_allowed`   what one kind of move does;
* `shift_move`                                      **an allowed move takes a session from phase to phase**.
-/

namespace SnippetStudio.Session

open Preview (Desk Setup Outcome)

variable {setup : Setup} {s : Session} {p : Phase} {m : Move} {n : Nat}

/-- no start and no stop is under way -/
def Settled (s : Session) : Prop := ∀ n, s.stage? n = none

/-- a start or a stop begins when none is under way, nobody else makes the root or closes the page, the
page can be closed, and the first render alone is cancelled, by the stop that waits for it -/
def Allows (s : Session) : Move → Prop
  | .start .start | .start .stop => s.Settled
  | .start (.engine c) => c.works = true
  | .answer n (.error _) => s.stage? n ≠ some .closing
  | .cancel n => s.isDoomed n = true
  | _ => True

theorem Phase.of_under {g : Stage} (h : p.under = some (n, g)) :
    match g with
    | .opening => p = .opening n
    | .rooting => p = .rooting n
    | .stopping => p = .stopping n
    | .closing => ∃ started, p = .closing n started := by
  cases p with
  | off | on => cases h
  | opening | rooting | stopping => cases h; rfl
  | closing => cases h; exact ⟨_, rfl⟩

theorem Kept.at_rest (hs : s.Kept p) (settled : s.Settled) : p.under = none := by
  cases under : p.under with
  | none => rfl
  | some u =>
    have stage := settled u.1
    rw [hs.stage, Phase.stage?, under, Option.bind_some, if_pos rfl] at stage
    cases stage

theorem Kept.settled (hs : s.Kept p) (rest : p.under = none) : s.Settled := by
  intro k
  rw [hs.stage, Phase.stage?, rest]
  rfl

/-- the activity of a start or a stop -/
def Stage.activity : Stage → Activity
  | opening => .opening
  | rooting => .rooting
  | stopping => .stopping
  | closing => .closing

theorem find?_of_stage {g : Stage} (h : s.stage? n = some g) :
    s.activities.find? n = some g.activity := by
  obtain ⟨a, ha, stage⟩ := Option.bind_eq_some_iff.mp h
  rw [ha]
  cases a <;> cases stage <;> rfl

theorem shift_answer (hs : s.Kept p) {o : Outcome} (allowed : s.Allows (.answer n o)) :
    ∃ p', Next p (.answer n o) p' ∧ Shift s p' (s.answer setup n o) := by
  have aside (shift : Shift s p (s.answer setup n o)) :
      ∃ p', Next p (.answer n o) p' ∧ Shift s p' (s.answer setup n o) := ⟨p, .stays (by simp), shift⟩
  cases h : s.activities.find? n with
  | none =>
    refine aside ?_
    simp only [answer, h]
    exact shift_nothing hs
  | some a =>
    have has := hs.sound.has h
    cases a with
    | opening =>
      obtain rfl : p = .opening n := Phase.of_under (hs.under h rfl)
      exact shift_opening hs h o
    | rooting =>
      obtain rfl : p = .rooting n := Phase.of_under (hs.under h rfl)
      exact shift_rooting hs h o
    | closing =>
      obtain ⟨started, rfl⟩ : ∃ started, p = .closing n started := Phase.of_under (hs.under h rfl)
      cases o with
      | ok r => exact ⟨.off, .closed, (shift_closing setup hs h r).1⟩
      | error f =>
        refine absurd ?_ allowed
        rw [stage?, h]
        rfl
    | plain =>
      obtain ⟨c, call, works⟩ := has
      refine aside ?_
      simp only [answer, h]
      exact shift_went hs h rfl (turn_answer setup call works o)
    | announcing b told =>
      obtain ⟨listeners, c, call, works⟩ := has
      refine aside ?_
      simp only [answer, h]
      exact shift_went hs h (List.isEmpty_iff.mpr listeners) (turn_answer setup call works o)
    | first | joining | joined | stopping =>
      have free : s.desk.calls.find? n = none := has
      refine aside ?_
      simp only [answer, h]
      exact shift_away hs (by simp [Desk.answer, free])

theorem shift_resume (hs : s.Kept p) (n : Nat) :
    ∃ p', Next p (.resume n) p' ∧ Shift s p' (s.resume n) := by
  have aside (shift : Shift s p (s.resume n)) :
      ∃ p', Next p (.resume n) p' ∧ Shift s p' (s.resume n) := ⟨p, .stays (by simp), shift⟩
  cases h : s.activities.find? n with
  | none =>
    refine aside ?_
    simp only [resume, h]
    exact shift_nothing hs
  | some a =>
    have has := hs.sound.has h
    cases a with
    | stopping =>
      obtain rfl : p = .stopping n := Phase.of_under (hs.under h rfl)
      obtain ⟨p', next, shift, -⟩ := shift_stopping hs h
      exact ⟨p', next, shift⟩
    | first text =>
      have turn := turn_start (n := n) has (c := .render text) rfl
      refine aside ?_
      simp only [resume, h]
      exact shift_goes hs h rfl
        (plainly_put turn.left fun f hf own => (hs.sound.first_of_find h hf own).1)
        turn.others turn.initialized
    | joined result =>
      refine aside ?_
      simp only [resume, h]
      exact shift_goes hs h rfl (plainly_finish has result) (fun _ _ => rfl) rfl
    | plain =>
      obtain ⟨c, call, works⟩ := has
      refine aside ?_
      simp only [resume, h]
      exact shift_went hs h rfl (turn_resume call works)
    | announcing b told =>
      obtain ⟨listeners, c, call, works⟩ := has
      refine aside ?_
      simp only [resume, h]
      exact shift_went hs h (List.isEmpty_iff.mpr listeners) (turn_resume call works)
    | opening | joining =>
      have free : s.desk.calls.find? n = none := has
      refine aside ?_
      simp only [resume, h]
      exact shift_away hs (by simp [Desk.resume, free])
    | rooting =>
      have call : s.desk.calls.find? n = some .makeRoot := has
      refine aside ?_
      simp only [resume, h]
      exact shift_away hs (by simp [Desk.resume, call])
    | closing =>
      have call : s.desk.calls.find? n = some .shutdown := has
      refine aside ?_
      simp only [resume, h]
      exact shift_away hs (by simp [Desk.resume, call])

theorem shift_allowed (hs : s.Kept p) {c : Command} (allowed : s.Allows (.start c)) :
    ∃ p', Next p (.start c) p' ∧ Shift s p' (s.took.begin s.next c) := by
  cases c with
  | start =>
    have rest := hs.at_rest allowed
    cases p with
    | off => exact ⟨_, .opens, shift_start hs⟩
    | on => exact ⟨_, .stays (by simp), shift_started hs⟩
    | _ => cases rest
  | stop =>
    have rest := hs.at_rest allowed
    by_cases going : ∃ f, s.first = some f ∧ f.ended = none
    · obtain ⟨f, hf, going⟩ := going
      cases p with
      | off =>
        have none : s.first.map First.doomed = none := congrArg Marks.doomed hs.marks
        rw [hf] at none
        cases none
      | on => exact ⟨_, .stops, (shift_stops hs hf going).1⟩
      | _ => cases rest
    · exact ⟨_, .closes rest, shift_closes hs rest fun f hf none => going ⟨f, hf, none⟩⟩
  | wait => exact ⟨p, .stays (by simp), shift_wait hs⟩
  | edit e => exact ⟨p, .stays (by simp), shift_announce hs e⟩
  | loadExample name =>
    simp only [begin]
    split
    · exact ⟨p, .stays (by simp), shift_finish hs rfl _⟩
    · exact ⟨p, .stays (by simp), shift_announce hs _⟩
  | engine c => exact ⟨p, .stays (by simp), shift_command hs allowed⟩

theorem isDoomed_eq_true : s.isDoomed n = true ↔
    ∃ f, s.first = some f ∧ f.doomed = true ∧ f.number = n := by
  unfold isDoomed
  cases s.first with
  | none => simp
  | some f => simp

/-- nobody is cancelled but by a stop that waits -/
theorem Kept.not_doomed (hs : s.Kept p) (spared : p.marks.doomed ≠ some true) (n : Nat) :
    s.isDoomed n = false := by
  refine Bool.eq_false_iff.mpr fun doomed => spared ?_
  obtain ⟨f, hf, doomed, -⟩ := isDoomed_eq_true.mp doomed
  have marks : s.first.map First.doomed = p.marks.doomed := congrArg Marks.doomed hs.marks
  rw [← marks, hf, Option.map_some, doomed]

/-- **A move that is allowed takes a session from phase to phase.** -/
theorem shift_move (setup : Setup) (hs : s.Kept p) (allowed : s.Allows m) :
    ∃ p', Next p m p' ∧ Shift s p' (s.move setup m) := by
  have nothing {m : Move} (other : m ≠ .start .stop) : ∃ p', Next p m p' ∧ Shift s p' (s, []) :=
    ⟨p, .stays other, shift_nothing hs⟩
  cases m with
  | start c => exact shift_allowed hs allowed
  | answer n o =>
    simp only [move]
    split
    · exact nothing (by simp)
    · exact shift_answer hs allowed
  | resume n =>
    simp only [move]
    split
    · exact nothing (by simp)
    · exact shift_resume hs n
  | cancel n =>
    obtain ⟨f, hf, -, rfl⟩ := isDoomed_eq_true.mp allowed
    cases ended : f.ended with
    | none => exact ⟨p, .stays (by simp), (shift_cancel hs hf ended).1⟩
    | some result =>
      have fits := (hs.sound.first f hf).2
      cases h : s.activities.find? f.number with
      | none =>
        have same : s.move setup (.cancel f.number) = (s, []) := by simp only [move, cancel, h]
        rw [same]
        exact nothing (by simp)
      | some a =>
        rw [h] at fits
        rw [fits.1] at ended
        cases ended

end SnippetStudio.Session
