import SnippetStudio.Proofs.Preview.Versions

/-!
# One call at a time

A move is about one call.  The calls of others stay as they are, and if anybody returns it is that call,
which is then no longer under way.

* `Moment.returned_of_failed`  a render that fails is a call that returns with the failure;
* `Desk.Answers`               what a move does to the calls, one lemma for each part of a move;
* `Desk.source_step`           the snippet asked for last changes when a render begins;
* `Desk.render_begins`         a render begins at once, or is refused.
-/

namespace SnippetStudio.Preview

/-- the call that a move is about -/
def Move.call : Move → Nat
  | .start n _ | .answer n _ | .resume n | .cancel n => n

theorem Desk.deed_of_heard {d : Desk} {m : Move} {a : Act} (ha : a ∈ d.heard m) :
    ∃ p o, a.deed = .hears p o := by
  cases m with
  | answer n o =>
    simp only [heard] at ha
    split at ha
    · split at ha
      · rw [List.mem_singleton.mp ha]
        exact ⟨_, o, rfl⟩
      · cases ha
    · cases ha
  | _ => cases ha

theorem Desk.deed_of_begun {d d' : Desk} {m : Move} {a : Act} (ha : a ∈ d.begun d' m) :
    a.deed = .begins := by
  cases m with
  | start n c =>
    simp only [begun] at ha
    split at ha
    · rw [List.mem_singleton.mp ha]
      rfl
    · cases ha
  | _ => cases ha

theorem Moment.returned_of_failed {k : Moment} {a : Act} (ha : a ∈ k.acts) {f : Fault}
    (failed : a.deed = .ends (.error f)) : .returned a.call (.error f) ∈ k.signals := by
  rcases List.mem_append.mp ha with ha | ha
  · rcases List.mem_append.mp ha with ha | ha
    · obtain ⟨p, o, heard⟩ := Desk.deed_of_heard ha
      rw [failed] at heard
      cases heard
    · have begun := Desk.deed_of_begun ha
      rw [failed] at begun
      cases begun
  · obtain ⟨g, hg, told⟩ := List.mem_filterMap.mp ha
    cases g with
    | returned n result =>
      obtain ⟨r, -, rfl⟩ := Option.map_eq_some_iff.mp told
      cases failed
      exact hg
    | asked n q =>
      obtain ⟨r, -, rfl⟩ := Option.map_eq_some_iff.mp told
      cases failed
    | _ => cases told

namespace Desk

variable {s : Setup} {d d' : Desk} {m : Move} {n : Nat} {acts : List Act} {calls : Roster Call}

/-! ## The calls of others -/

/-- nobody returns -/
def Calm (signals : List Signal) : Prop := ∀ k result, .returned k result ∉ signals

theorem calm_said (lines : List String) : Calm (lines.map Signal.said) := by
  intro k result hx
  obtain ⟨line, -, e⟩ := List.mem_map.mp hx
  cases e

theorem calm_asked (n : Nat) (q : Request) : Calm [.asked n q] := by
  intro k result hx
  cases List.mem_singleton.mp hx

theorem calm_paused (n : Nat) : Calm [.paused n] := by
  intro k result hx
  cases List.mem_singleton.mp hx

/-- what a move about a call leaves of the calls, and what it can return -/
structure Answers (calls : Roster Call) (n : Nat) (x : Desk × List Signal) : Prop where
  others : ∀ k, k ≠ n → x.1.calls.find? k = calls.find? k
  returned : ∃ result, ∀ k result', .returned k result' ∈ x.2 →
    k = n ∧ result' = result ∧ x.1.calls.find? n = none

theorem Answers.of_calm {x : Desk × List Signal}
    (others : ∀ k, k ≠ n → x.1.calls.find? k = calls.find? k) (calm : Calm x.2) :
    Answers calls n x :=
  ⟨others, .ok .nothing, fun k result hx => absurd hx (calm k result)⟩

theorem Answers.said {x : Desk × List Signal} (h : Answers calls n x) (lines : List String) :
    Answers calls n (x.1, lines.map Signal.said ++ x.2) := by
  obtain ⟨result, returned⟩ := h.returned
  refine ⟨h.others, result, fun k result' hx => ?_⟩
  rcases List.mem_append.mp hx with hx | hx
  · exact absurd hx (calm_said lines k result')
  · exact returned k result' hx

theorem answers_nothing (d : Desk) (n : Nat) : Answers d.calls n (d, []) :=
  .of_calm (fun _ _ => rfl) fun _ _ hx => by cases hx

theorem answers_refused (free : d.calls.find? n = none) (result : Except Fault Result) :
    Answers d.calls n (d, [.returned n result]) := by
  refine ⟨fun _ _ => rfl, result, fun k result' hx => ?_⟩
  cases List.mem_singleton.mp hx
  exact ⟨rfl, rfl, free⟩

theorem answers_put (d : Desk) (n : Nat) (c : Call) {signals : List Signal} (calm : Calm signals) :
    Answers d.calls n (d.put n c, signals) :=
  .of_calm (fun _ hk => Roster.find?_put_of_ne _ _ hk) calm

theorem answers_leave (d : Desk) (n : Nat) (result : Except Fault Result) :
    Answers d.calls n (d.leave n result) := by
  have calls : (d.leave n result).1.calls = d.calls.drop n := by rw [leave_fst, calls_without]
  have gone : (d.leave n result).1.calls.find? n = none := by
    rw [calls]
    exact Roster.find?_drop_self _ n
  refine ⟨fun k hk => ?_, result, fun k result' hx => ?_⟩
  · rw [calls]
    exact Roster.find?_drop_of_ne _ hk
  · simp only [leave] at hx
    rcases List.mem_append.mp hx with hx | hx
    · split at hx
      · simp only [pass] at hx
        split at hx
        · cases hx
        · cases List.mem_singleton.mp hx
      · cases hx
    · cases List.mem_singleton.mp hx
      exact ⟨rfl, rfl, gone⟩

theorem answers_settleHeld (d : Desk) (n : Nat) (t : Turn) :
    Answers d.calls n (d.settleHeld n t) := by
  unfold settleHeld
  split
  · exact (answers_put { d with engine := t.engine } n _ (calm_asked n _)).said t.lines
  · exact (answers_put { d with engine := t.engine } n _ (calm_paused n)).said t.lines
  · exact answers_put { d with engine := t.engine } n _ (calm_said t.lines)
  · exact (answers_leave { d with engine := t.engine } n _).said t.lines
  · exact (answers_leave { d with engine := t.engine } n _).said t.lines

theorem answers_enter (d : Desk) (n : Nat) (r : Render) (w : Work) :
    Answers d.calls n (d.enter n r w) :=
  answers_settleHeld { d with holder := some n } n _

theorem answers_settle (d : Desk) (n : Nat) (t : Turn) : Answers d.calls n (d.settle n t) := by
  unfold settle
  split
  · dsimp only
    split
    · exact (answers_enter { d with engine := t.engine } n t.render _).said t.lines
    · exact .of_calm (fun k hk => Roster.find?_put_of_ne _ _ hk) (calm_said t.lines)
  · exact answers_settleHeld d n t

theorem answers_askOnce (d : Desk) (n : Nat) (c : Call) (q : Request) :
    Answers d.calls n (d.askOnce n c q) :=
  answers_put d n c (calm_asked n q)

theorem answers_start (free : d.calls.find? n = none) (c : Command) :
    Answers d.calls n (d.start n c) := by
  cases c with
  | makeRoot =>
    simp only [start]
    split
    · exact (answers_refused free _).said ["[preview] Already initialized, keeping the existing root"]
    · exact answers_askOnce d n _ _
  | render source =>
    simp only [start]
    split
    · exact answers_settle { d with engine := d.engine.request source } n _
    · exact answers_refused free _
  | refresh =>
    simp only [start]
    split
    · exact answers_refused free _
    · split
      · exact (answers_refused free _).said ["[preview] Nothing to refresh yet"]
      · next source hs =>
        exact Answers.said (x := d.startRender n source) (answers_settle d n _)
          [if d.engine.lastRendered = some source then
              "[preview] Refresh: source unchanged, re-running"
            else "[preview] Refresh: retrying source that has not rendered yet"]
  | shutdown =>
    exact answers_askOnce
      { d with engine := { d.engine with initialized := false, version := d.engine.version + 1 } }
      n _ _
  | html =>
    simp only [start]
    split
    · exact answers_askOnce d n _ _
    · exact answers_refused free _
  | screenshot =>
    simp only [start]
    split
    · exact answers_askOnce d n _ _
    · exact answers_refused free _

theorem answers_initialized (d : Desk) (n : Nat) (created : Bool) :
    Answers d.calls n (d.initialized n created) := by
  have left := answers_leave { d with engine := { d.engine with initialized := true } } n
    (.ok .nothing)
  cases created with
  | true => exact left.said ["[preview] Mount root ready"]
  | false =>
    exact left.said
      ["[preview] Host already had a root, reusing it", "[preview] Mount root ready"]

theorem answers_answer (s : Setup) (d : Desk) (n : Nat) (o : Outcome) :
    Answers d.calls n (d.answer s n o) := by
  simp only [answer]
  split
  · exact answers_nothing d n
  · split
    · exact answers_nothing d n
    · exact answers_nothing d n
    · exact answers_settle d n _
  · exact answers_leave d n _
  · exact answers_initialized d n _
  · exact answers_leave d n _
  · exact answers_leave d n _
  · exact answers_leave d n _

theorem answers_resume (d : Desk) (n : Nat) : Answers d.calls n (d.resume n) := by
  simp only [resume]
  split
  · split
    · exact answers_settle d n _
    · split
      · exact answers_enter d n _ _
      · exact answers_nothing d n
    · exact answers_nothing d n
  · exact answers_nothing d n

/-- **A move leaves the calls of others alone**, and returns nothing but its own. -/
theorem answers_move (s : Setup) (d : Desk) (m : Move) : Answers d.calls m.call (d.move s m) := by
  cases m with
  | start n c =>
    simp only [move]
    split
    · exact answers_nothing d n
    · next free => exact answers_start (Option.not_isSome_iff_eq_none.mp free) c
  | answer n o => exact answers_answer s d n o
  | resume n => exact answers_resume d n
  | cancel n =>
    simp only [move, cancel]
    split
    · exact answers_nothing d n
    · exact answers_leave d n _

/-! ## The snippet asked for last -/

/-- **The snippet asked for last changes when a render begins, and at no other step.** -/
theorem source_step (step : Step s d m d' acts) : d'.engine.source = d.engine.source ∨
    ∃ n c source, m = .start n c ∧ c.renders d.engine source ∧ d'.engine.source = some source := by
  cases step with
  | aside ha =>
    obtain ⟨i, v, he, -⟩ := ha.engine
    exact .inl (by rw [he])
  | @begins n c source free initialized renders => exact .inr ⟨n, c, source, rfl, renders, rfl⟩
  | _ => exact .inl (by simp [Desk.put, Engine.mounted])

theorem startRender_fst (d : Desk) (n : Nat) (source : String) :
    (d.startRender n source).1 = d.newest n source := by
  simp [startRender, settle, settleHeld, Render.poll, Render.ask, Engine.supersedes,
    Engine.request, newest, put]

theorem render_begins (s : Setup) (free : d.calls.find? n = none) (source : String) :
    (d.move s (.start n (.render source))).1.engine.source = some source ∧
        ⟨n, d.engine.version + 1, source, .begins⟩ ∈ (d.moment s (.start n (.render source))).acts ∨
      ∃ f, .returned n (.error f) ∈ (d.move s (.start n (.render source))).2 := by
  have e : d.move s (.start n (.render source)) = d.start n (.render source) := by
    simp [move, free]
  simp only [moment, e, start]
  split
  · refine .inl ⟨by rw [startRender_fst]; rfl, ?_⟩
    refine List.mem_append_left _ (List.mem_append_right _ ?_)
    rw [startRender_fst, begun_newest free]
    exact List.mem_singleton_self _
  · exact .inr ⟨_, List.mem_singleton_self _⟩

end Desk

end SnippetStudio.Preview
