import SnippetStudio.Proofs.Session.Running

/-!
# How a session starts

A session that is started loads its page and makes the root (`startUp`).  When the start returns, the
engine follows the buffer, and the first render is on its way with the text of that moment, but has
not taken its first step.

* `tracks_rooted`   the desk makes the root, and nobody fails;
* `find?_startUp`   nothing but the first render is under way when the start has returned;
* `launched`        **a session that has started runs**.
-/

namespace SnippetStudio.Session

open Preview (Desk Signal Setup Result Reply)

variable {setup : Setup} {s s' : Session}

/-- nothing has begun, or everything is over -/
structure Fresh (s : Session) : Prop where
  desk : s.desk.Idle
  initialized : s.desk.engine.initialized = false
  listeners : s.buffer.listeners = []
  started : s.started = false
  first : s.first = none
  activities : ∀ n, s.activities.find? n = none

/-- a start whose page is loaded, and whose root is made -/
def startUp (n : Nat) (a b : Reply) : List Move :=
  [.start .start, .answer n (.ok a), .answer n (.ok b)]

/-- the session while its root is being made -/
def rooted (s : Session) : Session :=
  { (s.took.put s.next .opening).put s.next .rooting with desk := s.desk.put s.next .makeRoot }

theorem move_opening (fresh : s.Fresh) : s.move setup (.start .start) =
    (s.took.put s.next .opening, [.asked s.next (.start s.components)]) := by
  simp [move, begin, took, fresh.started]

theorem move_loaded (fresh : s.Fresh) (a : Reply) :
    (s.took.put s.next .opening).move setup (.answer s.next (.ok a)) =
      (s.rooted, [.asked s.next .createRoot]) := by
  simp [move, isDoomed, rooted, took, put, fresh.first, answer, went, Desk.start,
    fresh.initialized, Desk.askOnce, returned?, last]

theorem after_opening (fresh : s.Fresh) (a : Reply) :
    s.after setup [.start .start, .answer s.next (.ok a)] = s.rooted := by
  simp only [after, run, move_opening fresh, move_loaded fresh]

theorem returned_rooted (fresh : s.Fresh) (created : Bool) :
    returned? (s.rooted.desk.initialized s.next created).2 s.next = some (.ok .nothing) := by
  have free : s.rooted.desk.holder = none := fresh.desk.holder
  cases created <;> simp [Desk.initialized, Desk.leave, free, returned?]

theorem answer_rooted (s : Session) (b : Reply) : s.rooted.desk.answer setup s.next (.ok b) =
    s.rooted.desk.initialized s.next b.ok := by
  have call : s.rooted.desk.calls.find? s.next = some .makeRoot := Roster.find?_put_self ..
  simp only [Desk.answer, call]

theorem move_rooted (fresh : s.Fresh) (b : Reply) :
    s.rooted.move setup (.answer s.next (.ok b)) =
      let x := s.rooted.desk.initialized s.next b.ok
      let y := { s.rooted with desk := x.1 }.launch s.next
      (y.1, passed x.2 ++ y.2) := by
  have root : s.rooted.activities.find? s.next = some .rooting := Roster.find?_put_self ..
  have calm : s.rooted.isDoomed s.next = false := by
    simp [isDoomed, rooted, took, put, fresh.first]
  simp only [move, calm, answer, root, answer_rooted, went, returned_rooted fresh]
  rfl

theorem launch_view (s : Session) (n : Nat) :
    (s.launch n).1.desk = s.desk ∧ (s.launch n).1.buffer = s.buffer.subscribe .render ∧
      (s.launch n).1.started = true ∧ (s.launch n).1.next = s.next + 1 ∧
      (s.launch n).1.first.map First.doomed = some false ∧
      ∃ g, Activity.Keeps g ∧ ∀ k, (s.launch n).1.activities.find? k =
        if k = n then none
        else (if k = s.next then some (.first s.buffer.text) else s.activities.find? k).map g := by
  let s' : Session := { (s.subscribe.put s.next (.first s.buffer.text)) with
    first := some { number := s.next }, next := s.next + 1, started := true }
  have e : (s.launch n).1 = (s'.finish n (.ok .nothing)).1 := rfl
  obtain ⟨desk, buffer, started, next, first, -⟩ := finish_keeps s' n (.ok .nothing)
  obtain ⟨g, keeps, view⟩ := finish_view s' n (.ok .nothing)
  rw [e]
  refine ⟨desk, buffer, started, next, first, g, keeps, fun k => (view k).trans ?_⟩
  show _ = if k = n then none else _
  have put : s'.activities.find? k =
      if k = s.next then some (.first s.buffer.text) else s.activities.find? k :=
    Roster.find?_put _ k s.next _
  rw [put]

/-- a move at the desk in which nobody fails -/
theorem Tracks.calm {d : Desk} {dms : List Preview.Move} {dm : Preview.Move} {told : List Signal}
    (h : Tracks setup d dms s told) (goesOn : dm.goesOn = true)
    (desk : s'.desk = (s.desk.move setup dm).1)
    (calm : ∀ n f, .returned n (.error f) ∉ (s.desk.move setup dm).2) :
    Tracks setup d (dms ++ [dm]) s' told := by
  have only : ∀ m ∈ some dm, m.goesOn = true := by
    rintro m hm
    cases hm
    exact goesOn
  have step : Tracks setup d (dms ++ [dm]) s' (told ++ []) :=
    h.step only desk fun n f hf => absurd hf (calm n f)
  rwa [List.append_nil] at step

theorem tracks_rooted (fresh : s.Fresh) (b : Reply) (told : List Signal)
    (desk : s'.desk = (s.rooted.desk.initialized s.next b.ok).1) :
    Tracks setup s.desk [.start s.next .makeRoot, .answer s.next (.ok b)] s' told := by
  have start : s.desk.move setup (.start s.next .makeRoot) =
      (s.rooted.desk, [.asked s.next .createRoot]) := by
    simp [Desk.move, fresh.desk.calls, Desk.start, fresh.initialized, Desk.askOnce, rooted]
  have answer : s.rooted.desk.move setup (.answer s.next (.ok b)) =
      s.rooted.desk.initialized s.next b.ok := answer_rooted s b
  have unbegun : Tracks setup s.desk [] s told :=
    ⟨fun _ hm => absurd hm List.not_mem_nil, rfl, fun _ ha => absurd ha List.not_mem_nil⟩
  have opened : Tracks setup s.desk [.start s.next .makeRoot] s.rooted told := by
    refine unbegun.calm rfl (by rw [start]) fun n f hf => ?_
    rw [start] at hf
    cases List.mem_singleton.mp hf
  refine opened.calm rfl (by rw [answer, desk]) fun n f hf => ?_
  rw [answer] at hf
  have answers := Desk.answers_initialized s.rooted.desk s.next b.ok
  obtain ⟨_, only⟩ := answers.returned
  obtain rfl := (only n _ hf).1
  cases (ends_of_returned answers (returned_rooted fresh b.ok)).2 f hf

theorem calls_rooted (fresh : s.Fresh) (b : Reply) (k : Nat) :
    (s.rooted.desk.initialized s.next b.ok).1.calls.find? k = none := by
  have answers := Desk.answers_initialized s.rooted.desk s.next b.ok
  by_cases own : k = s.next
  · rw [own]
    exact (ends_of_returned answers (returned_rooted fresh b.ok)).1
  · rw [answers.others k own]
    show (s.desk.calls.put s.next .makeRoot).find? k = none
    rw [Roster.find?_put_of_ne _ _ own, fresh.desk.calls]

theorem after_startUp (fresh : s.Fresh) (a b : Reply) : s.after setup (startUp s.next a b) =
    ({ s.rooted with desk := (s.rooted.desk.initialized s.next b.ok).1 }.launch s.next).1 := by
  show s.after setup ([.start .start, .answer s.next (.ok a)] ++ [.answer s.next (.ok b)]) = _
  rw [after_append, after_opening fresh]
  show (s.rooted.move setup (.answer s.next (.ok b))).1 = _
  rw [move_rooted fresh]

theorem find?_startUp (fresh : s.Fresh) (a b : Reply) (k : Nat) :
    (s.after setup (startUp s.next a b)).activities.find? k =
      if k = s.next + 1 then some (.first s.buffer.text) else none := by
  have others : k ≠ s.next → s.rooted.activities.find? k = none := by
    intro hk
    show ((s.activities.put s.next .opening).put s.next .rooting).find? k = none
    rw [Roster.find?_put_of_ne _ _ hk, Roster.find?_put_of_ne _ _ hk, fresh.activities]
  obtain ⟨-, -, -, -, -, g, keeps, view⟩ :=
    launch_view { s.rooted with desk := (s.rooted.desk.initialized s.next b.ok).1 } s.next
  rw [after_startUp fresh, view]
  by_cases own : k = s.next
  · rw [if_pos own, if_neg (by omega)]
  · rw [if_neg own]
    show Option.map g (if k = s.next + 1 then some (.first s.buffer.text) else _) = _
    split
    · exact congrArg some (Activity.eq_first (keeps (.first s.buffer.text)).2.2)
    · show (s.rooted.activities.find? k).map g = none
      rw [others own]
      rfl

variable (setup) in
/-- **When a session has started, it runs at a desk that was idle**, and holds the text that it held. -/
theorem launched (fresh : s.Fresh) (a b : Reply) :
    (∃ dms, Followed setup s.desk dms (s.after setup (startUp s.next a b))
      (s.signals setup (startUp s.next a b))) ∧
    (s.after setup (startUp s.next a b)).buffer.text = s.buffer.text := by
  obtain ⟨desk, buffer, started, next, first, -⟩ :=
    launch_view { s.rooted with desk := (s.rooted.desk.initialized s.next b.ok).1 } s.next
  rw [← after_startUp fresh a b] at desk buffer started next first
  refine ⟨⟨_, ⟨started, ?_, ?_, fun k c hc => ?_, fun k hk => ?_, fun k c hc => ?_⟩,
    tracks_rooted fresh b _ desk⟩, by rw [buffer]; rfl⟩
  · rw [buffer]
    show s.buffer.listeners ++ [.render] = _
    rw [fresh.listeners]
    rfl
  · obtain ⟨f, hf, doomed⟩ := Option.map_eq_some_iff.mp first
    exact ⟨f, hf, doomed⟩
  · rw [find?_startUp fresh] at hc
    split at hc
    · cases hc
      rfl
    · cases hc
  · have bound : s.next + 1 + 1 ≤ k := by
      rw [next] at hk
      exact hk
    rw [find?_startUp fresh, if_neg (by omega)]
  · rw [desk, calls_rooted fresh] at hc
    cases hc

end SnippetStudio.Session
