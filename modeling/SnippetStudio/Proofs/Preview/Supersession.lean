import SnippetStudio.Proofs.Preview.Versions

/-!
# Older renders have no say

A render that a newer one, or a shutdown, has overtaken goes on where it waits, finds that its
version is not the newest, and ends.  It does not poll, it does not change the page, and it leaves
the recorded error alone.

* `Moment.Fresh`     whatever is asked of the page, or becomes of the error, is the newest render's
                     doing;
* `Recorded f v ks`  the error `f` was recorded by the render of version `v`, and stands since;
* `Desk.older_have_no_say`  every run is like that.
-/

namespace SnippetStudio.Preview

/-- the render forgets the error, or records one and shows it -/
inductive Act.Sets (a : Act) : Option Failure → Prop
  | forgets (h : a.deed = .asks .compilerReady) : a.Sets none
  | records {f : Failure} (h : a.deed = .asks (.showError f.stage f.message)) : a.Sets (some f)

/-- polls, changes of the page and changes of the error come from the newest render -/
structure Moment.Fresh (k : Moment) : Prop where
  asked : ∀ n q, .asked n q ∈ k.signals → q.isStage = true →
    ∃ r, k.after.render? n = some r ∧ r.act n (.asks q) ∈ k.acts ∧
      r.version = k.after.engine.version
  error : k.after.engine.error ≠ k.before.engine.error →
    ∃ a ∈ k.acts, a.version = k.after.engine.version ∧ a.Sets k.after.engine.error

/-- the render of a version recorded the error when it was not there, and it stands since -/
def Recorded (f : Failure) (version : Nat) (ks : List Moment) : Prop :=
  ∃ pre k post, ks = pre ++ k :: post ∧ k.before.engine.error ≠ some f ∧
    (∀ j ∈ k :: post, j.after.engine.error = some f) ∧
    ∃ a ∈ k.acts, a.version = version ∧ a.Sets (some f)

namespace Desk

variable {s : Setup} {d d' : Desk} {m : Move} {n : Nat} {r : Render} {acts : List Act}

/-- the error changes by an act of the newest render -/
theorem step_error (step : Step s d m d' acts) (h : d'.engine.error ≠ d.engine.error) :
    ∃ a ∈ acts, a.version = d'.engine.version ∧ a.Sets d'.engine.error := by
  cases step with
  | aside ha =>
    obtain ⟨i, v, he, -⟩ := ha.engine
    rw [he] at h
    exact absurd rfl h
  | begins => exact ⟨_, List.mem_cons_of_mem _ (List.mem_singleton_self _), rfl, .forgets rfl⟩
  | polls hr at_ current => exact ⟨_, List.mem_singleton_self _, current, .forgets rfl⟩
  | reports enters current =>
    exact ⟨_, List.mem_append_right _ (List.mem_singleton_self _), current, .records rfl⟩
  | fails hr at_ bad current =>
    exact ⟨_, List.mem_cons_of_mem _ (List.mem_singleton_self _), current, .records rfl⟩
  | _ => exact absurd (by simp [Desk.put, Engine.mounted]) h

theorem fresh_of_mem (ho : d.Orderly) {ms : List Move} {k : Moment} (hk : k ∈ d.moments s ms) :
    k.Fresh where
  asked n q asked stage := by
    obtain ⟨r, hr, ha⟩ := asked_act hk asked stage
    exact ⟨r, hr, ha, step_stage (steps ho hk).2 _ ha stage⟩
  error h := step_error (steps ho hk).2 h

/-- an error is there from before the first render, or was recorded by a render that no other is
newer than -/
def Standing (d₀ d : Desk) (ks : List Moment) : Prop :=
  ∀ f, d.engine.error = some f →
    (d₀.engine.error = some f ∧ ks.flatMap Moment.acts = [] ∧ ∀ n, d.render? n = none) ∨
    ∃ v, Recorded f v ks ∧ (∀ b ∈ ks.flatMap Moment.acts, b.version ≤ v) ∧
      ∀ n r, d.render? n = some r → r.version ≤ v

theorem standing_of_eq {d₀ : Desk} {ks : List Moment} (hs : Standing d₀ d ks)
    (step : Step s d m (d.move s m).1 (d.moment s m).acts)
    (same : (d.move s m).1.engine.error = d.engine.error) :
    Standing d₀ (d.move s m).1 (ks ++ [d.moment s m]) := by
  intro f hf
  have known : (∀ b ∈ (d.moment s m).acts, ∃ n r, d.render? n = some r ∧ r.version = b.version) ∧
      ∀ n x, (d.move s m).1.render? n = some x →
        ∃ r, d.render? n = some r ∧ r.version = x.version := by
    constructor
    · intro b hb
      obtain ⟨r, hr, hv, -⟩ | gives := step_by step b hb
      · exact ⟨_, r, hr, hv⟩
      · rw [gives.forgets] at hf
        cases hf
    · intro n x hx
      obtain ⟨r, hr, hv, -⟩ | ⟨gives, -⟩ := step_render step hx
      · exact ⟨r, hr, hv⟩
      · rw [gives.forgets] at hf
        cases hf
  rcases hs f (same ▸ hf) with ⟨start, empty, no⟩ | ⟨v, recorded, newest, bound⟩
  · refine .inl ⟨start, ?_, fun n => ?_⟩
    · rw [acts_concat, empty, List.nil_append, List.eq_nil_iff_forall_not_mem]
      intro b hb
      obtain ⟨n, r, hr, -⟩ := known.1 b hb
      rw [no] at hr
      cases hr
    · cases hx : (d.move s m).1.render? n with
      | none => rfl
      | some x =>
        obtain ⟨r, hr, -⟩ := known.2 n x hx
        rw [no] at hr
        cases hr
  · obtain ⟨pre, k, post, rfl, was, since, a, ha, hv, sets⟩ := recorded
    refine .inr ⟨v, ⟨pre, k, post ++ [d.moment s m], by simp, was, fun j hj => ?_, a, ha, hv, sets⟩,
      fun b hb => ?_, fun n x hx => ?_⟩
    · rw [← List.cons_append] at hj
      rcases List.mem_append.mp hj with hj | hj
      · exact since j hj
      · rw [List.mem_singleton.mp hj]
        exact hf
    · rw [acts_concat] at hb
      rcases List.mem_append.mp hb with hb | hb
      · exact newest b hb
      · obtain ⟨n, r, hr, hv⟩ := known.1 b hb
        rw [← hv]
        exact bound n r hr
    · obtain ⟨r, hr, hv⟩ := known.2 n x hx
      rw [← hv]
      exact bound n r hr

theorem standing_of_ne {d₀ : Desk} (ho : d.Orderly) (hd : d.Numbered) {ks : List Moment}
    (known : ∀ b ∈ ks.flatMap Moment.acts, b.version ≤ d.engine.version)
    (new : (d.move s m).1.engine.error ≠ d.engine.error) :
    Standing d₀ (d.move s m).1 (ks ++ [d.moment s m]) := by
  have step := move_step s ho m
  obtain ⟨a, ha, hv, sets⟩ := step_error step new
  intro f hf
  rw [hf] at new sets
  refine .inr
    ⟨_, ⟨ks, d.moment s m, [], rfl, fun h => new h.symm, fun j hj => ?_, a, ha, rfl, sets⟩, ?_, ?_⟩
  · rw [List.mem_singleton.mp hj]
    exact hf
  · rw [hv, acts_concat]
    exact step_known hd step known
  · rw [hv]
    exact (numbered_step hd step).bound

theorem standing_after (s : Setup) (idle : d.Idle) (ms : List Move) :
    Standing d (d.after s ms) (d.moments s ms) := by
  have h : (d.after s ms).Numbered ∧
      (∀ b ∈ (d.moments s ms).flatMap Moment.acts, b.version ≤ (d.after s ms).engine.version) ∧
      Standing d (d.after s ms) (d.moments s ms) := by
    refine run_steps (P := fun d' ks => d'.Numbered ∧
      (∀ b ∈ ks.flatMap Moment.acts, b.version ≤ d'.engine.version) ∧ Standing d d' ks) idle.orderly
      ?_ ?_
    · refine ⟨idle.numbered, fun b hb => ?_, fun f hf => .inl ⟨hf, rfl, idle.render?⟩⟩
      cases hb
    · rintro m - d' ks ho step ⟨hd, known, hs⟩
      refine ⟨numbered_step hd step, ?_, ?_⟩
      · rw [acts_concat]
        exact step_known hd step known
      · by_cases same : (d'.move s m).1.engine.error = d'.engine.error
        · exact standing_of_eq hs step same
        · exact standing_of_ne ho hd known same
  exact h.2.2

/-- a render that was overtaken while it paused ends when the pause is over -/
theorem resume_of_late (h : d.render? n = some r) (at_ : r.point = .pause)
    (late : r.version ≠ d.engine.version) :
    (d.moment s (.resume n)).acts = [r.act n (.ends (.ok .nothing))] ∧
      (d.moment s (.resume n)).after = d.without n := by
  obtain ⟨h1, h2⟩ := poll_late h late
  have hm : d.move s (.resume n) = d.settle n (r.poll d.engine) := by
    simp only [move, resume, render?_eq_some.mp h, at_]
  simp only [moment, hm]
  exact ⟨h2, h1⟩

/-- a shutdown gives out a version -/
theorem version_of_shutdown (free : d.calls.find? n = none) :
    (d.after s [.start n .shutdown]).engine.version = d.engine.version + 1 := by
  simp [after, run, move, free, start, askOnce, put]

/-- **Older renders have no say**: only the newest polls, changes the page, or the recorded error;
an error that stands was recorded by the newest of all; a render that was overtaken by another or by
a shutdown stops polling and starts nothing any more. -/
theorem older_have_no_say (s : Setup) (ms : List Move) :
    (∀ k ∈ moments s {} ms, k.Fresh) ∧
    (∀ f, (after s {} ms).engine.error = some f →
      ∃ v, Recorded f v (moments s {} ms) ∧ ∀ b ∈ history s {} ms, b.version ≤ v) ∧
    (∀ n r, (after s {} ms).render? n = some r → r.version ≠ (after s {} ms).engine.version →
      r.point = .pause →
      ((after s {} ms).moment s (.resume n)).acts = [r.act n (.ends (.ok .nothing))] ∧
        (after s {} (ms ++ [.resume n])).calls.find? n = none) ∧
    (∀ ms', ∀ a ∈ history s (after s {} ms) ms', a.deed.isStage = true →
      (after s {} ms).engine.version ≤ a.version) ∧
    (∀ n ms', (after s {} ms).calls.find? n = none →
      ∀ a ∈ history s (after s {} (ms ++ [.start n .shutdown])) ms', a.deed.isStage = true →
        ∀ b ∈ history s {} ms, b.version < a.version) := by
  have idle : Idle {} := idle_engine {}
  have ho := orderly_after s idle.orderly ms
  refine ⟨fun k hk => fresh_of_mem idle.orderly hk, fun f hf => ?_, fun n r hr late at_ => ?_,
    fun ms' => ?_, fun n ms' free a ha stage b hb => ?_⟩
  · rcases standing_after s idle ms f hf with ⟨start, -⟩ | ⟨v, recorded, newest, -⟩
    · cases start
    · exact ⟨v, recorded, newest⟩
  · obtain ⟨h1, h2⟩ := resume_of_late (s := s) hr at_ late
    refine ⟨h1, ?_⟩
    rw [after_append]
    show ((after s {} ms).moment s (.resume n)).after.calls.find? n = none
    rw [h2, calls_without, Roster.find?_drop_self]
  · exact version_of_stage s ms' ho
  · have h1 := version_of_act s ms idle.orderly idle.numbered b hb
    have h2 := version_of_stage s ms' (orderly_after s idle.orderly _) a ha stage
    rw [after_append, version_of_shutdown free] at h2
    omega

end Desk

end SnippetStudio.Preview
