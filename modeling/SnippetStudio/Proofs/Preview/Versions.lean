import SnippetStudio.Proofs.Preview.Order

/-!
# Versions

Versions only grow (`step_version`).  A render keeps its version and its snippet from its first step
on (`step_render`), no version was given to two renders (`Numbered`), and no act has a version that
was not given out (`version_of_act`).

`step_stage` is what the rest builds on: whoever polls or changes the page is the newest render at
that moment, so nobody does who is older than the run (`version_of_stage`).
-/

namespace SnippetStudio.Preview

namespace Desk

variable {s : Setup} {d d' : Desk} {m : Move} {n : Nat} {r : Render} {acts : List Act}

theorem Enters.render? {w : Work} (enters : d.Enters m n r w acts) : d.render? n = some r := by
  cases enters with
  | atOnce h => exact h
  | inTurn h => exact h

/-! ## what a step does to versions -/

theorem step_version (step : Step s d m d' acts) : d.engine.version ≤ d'.engine.version := by
  cases step with
  | aside h =>
    obtain ⟨i, v, he, rfl | ⟨rfl, -⟩⟩ := h.engine
    · exact Nat.le_of_eq (by rw [he])
    · rw [he]
      exact Nat.le_succ _
  | begins => exact Nat.le_succ _
  | _ => simp [Desk.put, Engine.mounted]

theorem render_of_put {k : Nat} {x r' : Render} (hr : d.render? n = some r)
    (h : (if k = n then some r' else d.render? k) = some x)
    (hv : r'.version = r.version) (hs : r'.source = r.source) :
    ∃ r, d.render? k = some r ∧ r.version = x.version ∧ r.source = x.source := by
  split at h
  · next e =>
    cases h
    exact ⟨r, e ▸ hr, hv.symm, hs.symm⟩
  · exact ⟨x, h, rfl, rfl⟩

theorem render_of_without {k : Nat} {x : Render}
    (h : (if k = n then none else d.render? k) = some x) :
    ∃ r, d.render? k = some r ∧ r.version = x.version ∧ r.source = x.source := by
  split at h
  · cases h
  · exact ⟨x, h, rfl, rfl⟩

/-- a version is given out to a render, and the last error is forgotten -/
structure Gives (d d' : Desk) (version : Nat) : Prop where
  new : version = d.engine.version + 1
  given : d'.engine.version = version
  forgets : d'.engine.error = none

/-- a render after a step was under way before it, or is the newest -/
theorem step_render (step : Step s d m d' acts) {k : Nat} {x : Render} (h : d'.render? k = some x) :
    (∃ r, d.render? k = some r ∧ r.version = x.version ∧ r.source = x.source) ∨
      d.Gives d' x.version ∧ ∀ j, j ≠ k → d'.render? j = d.render? j := by
  cases step with
  | aside ha =>
    rw [ha.render?] at h
    exact .inl ⟨x, h, rfl, rfl⟩
  | @begins n c source free initialized renders =>
    rw [render?_newest] at h
    split at h
    · next e =>
      cases h
      refine .inr ⟨⟨rfl, rfl, rfl⟩, fun j hj => ?_⟩
      rw [render?_newest, if_neg (e ▸ hj)]
    · exact .inl ⟨x, h, rfl, rfl⟩
  | transforms hr | waits hr | queues hr | polls hr | mounts hr | fails hr =>
    simp only [render?_mk, render?_put_render] at h
    exact .inl (render_of_put hr h rfl rfl)
  | evaluates enters | reports enters =>
    simp only [render?_mk, render?_put_render] at h
    exact .inl (render_of_put enters.render? h rfl rfl)
  | givesUp | yields | mounted | returns | raises | cancels =>
    simp only [render?_without, render?_mk] at h
    exact .inl (render_of_without h)

/-! ## what an act can be -/

/-- an act of a step: who does it, and what the render was allowed to do it by -/
inductive Does (s : Setup) (d : Desk) (m : Move) (d' : Desk) : Act → Prop
  | begins {n v : Nat} {c : Command} {source : String} (gives : d.Gives d' v) (start : m = .start n c)
      (renders : c.renders d.engine source) : Does s d m d' ⟨n, v, source, .begins⟩
  | starts {n v : Nat} {source : String} (gives : d.Gives d' v) :
      Does s d m d' ⟨n, v, source, .asks .compilerReady⟩
  | hears {n : Nat} {r : Render} {p : Point} {o : Outcome} (h : d.render? n = some r)
      (at_ : r.point = p) (answer : m = .answer n o) : Does s d m d' (r.act n (.hears p o))
  | polls {n : Nat} {r : Render} (h : d.render? n = some r)
      (current : r.version = d'.engine.version) : Does s d m d' (r.act n (.asks .compilerReady))
  | transforms {n : Nat} {r : Render} (h : d.render? n = some r) :
      Does s d m d' (r.act n (.asks (.transform (s.wrap r.source).text)))
  | touches {n : Nat} {r r' : Render} {q : Request} (h : d.render? n = some r)
      (current : r.version = d'.engine.version) (h' : d'.render? n = some r')
      (works : r'.point.works = true) : Does s d m d' (r.act n (.asks q))
  | ends {n : Nat} {r : Render} (h : d.render? n = some r) :
      Does s d m d' (r.act n (.ends (.ok .nothing)))
  | raises {n : Nat} {r : Render} {reply : Reply} {f : Fault} (h : d.render? n = some r)
      (at_ : r.point = .instantiate ∨ r.point = .mount) (answer : m = .answer n (.ok reply))
      (bad : reply.ok = false) (unreadable : Diagnostic.runtimeMessage reply.error = .error f) :
      Does s d m d' (r.act n (.ends (.error f)))
  | cancels {n : Nat} {r : Render} (h : d.render? n = some r) (cancel : m = .cancel n) :
      Does s d m d' (r.act n (.ends (.error .cancelled)))

theorem Enters.does {w : Work} (enters : d.Enters m n r w acts) : ∀ a ∈ acts, Does s d m d' a := by
  cases enters with
  | atOnce h => exact List.forall_mem_singleton.mpr (.hears h rfl rfl)
  | inTurn h => exact List.forall_mem_nil _

/-- **Every act of a step is one of these.** -/
theorem step_does (step : Step s d m d' acts) : ∀ a ∈ acts, Does s d m d' a := by
  have put : ∀ (n : Nat) (r : Render), (d.put n (.render r)).render? n = some r :=
    fun n r => (render?_put_render d n n r).trans (if_pos rfl)
  cases step with
  | aside h => exact List.forall_mem_nil _
  | @begins n c source free initialized renders =>
    have gives : d.Gives (d.newest n source) (d.engine.version + 1) := ⟨rfl, rfl, rfl⟩
    exact List.forall_mem_cons.mpr ⟨.begins gives rfl renders, List.forall_mem_singleton.mpr (.starts gives)⟩
  | transforms h at_ =>
    exact List.forall_mem_cons.mpr ⟨.hears h at_ rfl, List.forall_mem_singleton.mpr (.transforms h)⟩
  | waits h | queues h => exact List.forall_mem_singleton.mpr (.hears h rfl rfl)
  | polls h at_ current => exact List.forall_mem_singleton.mpr (.polls h current)
  | givesUp h => exact List.forall_mem_singleton.mpr (.ends h)
  | evaluates enters current | reports enters current =>
    exact List.forall_mem_append.mpr ⟨enters.does,
      List.forall_mem_singleton.mpr (.touches enters.render? current (put _ _) rfl)⟩
  | yields enters =>
    exact List.forall_mem_append.mpr
      ⟨enters.does, List.forall_mem_singleton.mpr (.ends enters.render?)⟩
  | mounts h at_ ok current =>
    exact List.forall_mem_cons.mpr ⟨.hears h at_ rfl,
      List.forall_mem_singleton.mpr (.touches h current (put _ _) rfl)⟩
  | fails h at_ bad current =>
    exact List.forall_mem_cons.mpr ⟨.hears h rfl rfl,
      List.forall_mem_singleton.mpr (.touches h current (put _ _) rfl)⟩
  | mounted h at_ =>
    exact List.forall_mem_cons.mpr ⟨.hears h at_ rfl, List.forall_mem_singleton.mpr (.ends h)⟩
  | returns h =>
    exact List.forall_mem_cons.mpr ⟨.hears h rfl rfl, List.forall_mem_singleton.mpr (.ends h)⟩
  | raises h at_ bad unreadable =>
    exact List.forall_mem_cons.mpr ⟨.hears h rfl rfl,
      List.forall_mem_singleton.mpr (.raises h at_ rfl bad unreadable)⟩
  | cancels h => exact List.forall_mem_singleton.mpr (.cancels h rfl)

/-- an act is done by a render that was under way, or by the newest when it begins -/
theorem step_by (step : Step s d m d' acts) : ∀ a ∈ acts,
    (∃ r, d.render? a.call = some r ∧ r.version = a.version ∧ r.source = a.source) ∨
      d.Gives d' a.version := by
  intro a ha
  cases step_does step a ha with
  | begins gives | starts gives => exact .inr gives
  | hears h | polls h | transforms h | touches h | ends h | raises h | cancels h =>
    exact .inl ⟨_, h, rfl, rfl⟩

theorem sourced_of_mem (ho : d.Orderly) {ms : List Move} {k : Moment} (hk : k ∈ d.moments s ms) : k.Sourced := by
  intro a ha begins
  cases step_does (steps ho hk).2 a ha with
  | begins gives start renders => exact ⟨_, start, renders, gives.new⟩
  | starts | hears | polls | transforms | touches | ends | raises | cancels => cases begins

/-- **Whoever polls or changes the page is the newest render.** -/
theorem step_stage (step : Step s d m d' acts) :
    ∀ a ∈ acts, a.deed.isStage = true → a.version = d'.engine.version := by
  intro a ha stage
  cases step_does step a ha with
  | starts gives => exact gives.given.symm
  | polls h current | touches h current => exact current
  | begins | hears | transforms | ends | raises | cancels => cases stage

/-! ## who has which version -/

/-- the versions of renders were given out, each to one render -/
structure Numbered (d : Desk) : Prop where
  bound : ∀ n r, d.render? n = some r → r.version ≤ d.engine.version
  apart : ∀ n k r x, d.render? n = some r → d.render? k = some x → r.version = x.version → n = k

theorem Idle.numbered (h : d.Idle) : d.Numbered where
  bound n r hr := by rw [h.render?] at hr; cases hr
  apart n k r x hr := by rw [h.render?] at hr; cases hr

theorem numbered_step (hd : d.Numbered) (step : Step s d m d' acts) : d'.Numbered := by
  have grows := step_version step
  constructor
  · intro n r hr
    obtain ⟨x, hx, hv, -⟩ | ⟨gives, -⟩ := step_render step hr
    · have hb := hd.bound n x hx
      omega
    · exact Nat.le_of_eq gives.given.symm
  · intro n k r x hr hx h
    obtain ⟨r0, hr0, hrv, -⟩ | ⟨gives, rest⟩ := step_render step hr
    · obtain ⟨x0, hx0, hxv, -⟩ | ⟨gives, rest⟩ := step_render step hx
      · exact hd.apart n k r0 x0 hr0 hx0 (by rw [hrv, hxv, h])
      · have hb := hd.bound n r0 hr0
        have hn := gives.new
        omega
    · by_cases e : n = k
      · exact e
      · rw [rest k fun h' => e h'.symm] at hx
        have hb := hd.bound k x hx
        have hn := gives.new
        omega

/-- no act has a version that was not given out -/
theorem step_act (hd : d.Numbered) (step : Step s d m d' acts) :
    ∀ a ∈ acts, a.version ≤ d'.engine.version := by
  intro a ha
  obtain ⟨r, hr, hv, -⟩ | gives := step_by step a ha
  · have hb := hd.bound _ r hr
    have grows := step_version step
    omega
  · exact Nat.le_of_eq gives.given.symm

theorem step_known (hd : d.Numbered) (step : Step s d m d' acts) {h : List Act}
    (known : ∀ b ∈ h, b.version ≤ d.engine.version) :
    ∀ b ∈ h ++ acts, b.version ≤ d'.engine.version := by
  intro b hb
  rcases List.mem_append.mp hb with hb | hb
  · exact Nat.le_trans (known b hb) (step_version step)
  · exact step_act hd step b hb

/-! ## runs -/

variable (s) (ms : List Move)

theorem version_after (ho : d.Orderly) : d.engine.version ≤ (d.after s ms).engine.version := by
  induction ms generalizing d with
  | nil => exact Nat.le_refl _
  | cons m ms ih =>
    have step := move_step s ho m
    exact Nat.le_trans (step_version step) (ih (orderly_step ho step))

/-- no act of a run has a version that was not given out -/
theorem version_of_act (ho : d.Orderly) (hd : d.Numbered) :
    ∀ a ∈ d.history s ms, a.version ≤ (d.after s ms).engine.version := by
  induction ms generalizing d with
  | nil =>
    intro a ha
    cases ha
  | cons m ms ih =>
    intro a ha
    have step := move_step s ho m
    rcases List.mem_append.mp ha with ha | ha
    · exact Nat.le_trans (step_act hd step a ha) (version_after s ms (orderly_step ho step))
    · exact ih (orderly_step ho step) (numbered_step hd step) a ha

/-- who polls or changes the page in a run is not older than the run -/
theorem version_of_stage (ho : d.Orderly) :
    ∀ a ∈ d.history s ms, a.deed.isStage = true → d.engine.version ≤ a.version := by
  induction ms generalizing d with
  | nil =>
    intro a ha
    cases ha
  | cons m ms ih =>
    intro a ha hs
    have step := move_step s ho m
    have grows := step_version step
    rcases List.mem_append.mp ha with ha | ha
    · rw [step_stage step a ha hs]
      exact grows
    · exact Nat.le_trans grows (ih (orderly_step ho step) a ha hs)

end Desk

end SnippetStudio.Preview
