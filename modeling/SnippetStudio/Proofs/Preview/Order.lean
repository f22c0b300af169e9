import SnippetStudio.Proofs.Preview.Moves

/-!
# Who has the page

The order at a desk is kept by every step (`orderly_step`), so every run that starts with nothing
under way (`Idle`) stays orderly (`orderly_after`), and every one of its moves is a step (`steps`).

* `Orderly.put`, `Orderly.goes`  a render that neither comes to the page nor leaves it;
* `Orderly.enqueue`              a render that has to wait for the page;
* `Orderly.enter`                a render that gets the page;
* `Orderly.without`              a call that is over.
-/

namespace SnippetStudio.Preview

namespace Desk

variable {s : Setup} {d d' : Desk} {m : Move} {n : Nat} {r : Render} {acts : List Act}

/-! ## the order -/

/-- nothing is under way -/
structure Idle (d : Desk) : Prop where
  calls (n : Nat) : d.calls.find? n = none
  holder : d.holder = none
  queue : d.queue = []

theorem Idle.render? (h : d.Idle) (n : Nat) : d.render? n = none := by
  simp only [Desk.render?, h.calls n]

theorem idle_engine (e : Engine) : Idle { engine := e } := ⟨fun _ => rfl, rfl, rfl⟩

theorem Idle.orderly (h : d.Idle) : d.Orderly where
  holder_render n e := by rw [h.holder] at e; cases e
  works_holds n r e := by rw [h.render?] at e; cases e
  queue_render n e := by rw [h.queue] at e; cases e
  queue_mem n r w e := by rw [h.render?] at e; cases e
  queue_nodup := by rw [h.queue]; exact List.nodup_nil
  free _ := h.queue

theorem Orderly.engine (ho : d.Orderly) (e : Engine) : Orderly { d with engine := e } :=
  ⟨ho.holder_render, ho.works_holds, ho.queue_render, ho.queue_mem, ho.queue_nodup, ho.free⟩

/-- a render that does not come to the page, nor leaves it -/
theorem Orderly.put (ho : d.Orderly) {r' : Render} (e : Engine)
    (works : (∃ r, d.render? n = some r ∧ r.point.works = true) ↔ r'.point.works = true)
    (old : ∀ r w, d.render? n = some r → r.point ≠ .queue w) (new : ∀ w, r'.point ≠ .queue w) :
    Orderly { d.put n (.render r') with engine := e } := by
  have held : d.holder = some n → r'.point.works = true := by
    intro h
    obtain ⟨r, hr, hw | ⟨w, hw⟩⟩ := ho.holder_render n h
    · exact works.mp ⟨r, hr, hw⟩
    · exact absurd hw (old r w hr)
  have view : ∀ k, render? { d.put n (.render r') with engine := e } k
      = if k = n then some r' else d.render? k :=
    fun k => render?_put_render d n k r'
  refine ⟨fun k hk => ?_, fun k x hx hw => ?_, fun k hk => ?_, fun k x w hx hw => ?_,
    ho.queue_nodup, ho.free⟩
  · rw [view]
    by_cases h : k = n
    · rw [if_pos h]
      exact ⟨r', rfl, .inl (held (h ▸ hk))⟩
    · rw [if_neg h]
      exact ho.holder_render k hk
  · rw [view] at hx
    by_cases h : k = n
    · rw [if_pos h] at hx
      cases hx
      obtain ⟨r, hr, hw'⟩ := works.mpr hw
      exact h ▸ ho.works_holds n r hr hw'
    · rw [if_neg h] at hx
      exact ho.works_holds k x hx hw
  · obtain ⟨hne, x, w, hx, hw⟩ := ho.queue_render k hk
    have h : k ≠ n := fun h => old x w (h ▸ hx) hw
    refine ⟨hne, x, w, ?_, hw⟩
    rw [view, if_neg h]
    exact hx
  · rw [view] at hx
    by_cases h : k = n
    · rw [if_pos h] at hx
      cases hx
      exact absurd hw (new w)
    · rw [if_neg h] at hx
      exact ho.queue_mem k x w hx hw

theorem Orderly.enqueue (ho : d.Orderly) {w : Work} {k : Nat} (h : d.render? n = some r)
    (compiles : r.point.compiles = true) (held : d.holder = some k) :
    Orderly { d.put n (.render { r with point := .queue w }) with queue := d.queue ++ [n] } := by
  have idle := Point.works_of_compiles compiles
  have away := Point.ne_queue (Point.awaits_of_compiles compiles)
  have hne : d.holder ≠ some n := by
    intro e
    obtain ⟨x, hx, hw | ⟨w, hw⟩⟩ := ho.holder_render n e
    · rw [h] at hx
      cases hx
      rw [idle] at hw
      cases hw
    · rw [h] at hx
      cases hx
      exact away w hw
  have hnq : n ∉ d.queue := by
    intro e
    obtain ⟨-, x, w, hx, hw⟩ := ho.queue_render n e
    rw [h] at hx
    cases hx
    exact away w hw
  have view :
      ∀ j, render? { d.put n (.render { r with point := .queue w }) with queue := d.queue ++ [n] } j
      = if j = n then some { r with point := .queue w } else d.render? j :=
    fun j => render?_put_render d n j { r with point := .queue w }
  refine ⟨fun j hj => ?_, fun j x hx hw => ?_, fun j hj => ?_, fun j x w' hx hw => ?_, ?_,
    fun e => ?_⟩
  · have hjn : j ≠ n := fun e => hne (e ▸ hj)
    rw [view, if_neg hjn]
    exact ho.holder_render j hj
  · rw [view] at hx
    by_cases e : j = n
    · rw [if_pos e] at hx
      cases hx
      cases hw
    · rw [if_neg e] at hx
      exact ho.works_holds j x hx hw
  · rw [view]
    rcases List.mem_append.mp hj with hj | hj
    · have hjn : j ≠ n := fun e => hnq (e ▸ hj)
      rw [if_neg hjn]
      exact ho.queue_render j hj
    · rw [List.mem_singleton.mp hj, if_pos rfl]
      exact ⟨hne, _, w, rfl, rfl⟩
  · rw [view] at hx
    by_cases e : j = n
    · exact .inr (List.mem_append_right _ (by rw [e]; exact List.mem_singleton_self n))
    · rw [if_neg e] at hx
      exact (ho.queue_mem j x w' hx hw).imp id (List.mem_append_left _)
  · exact List.nodup_append.mpr ⟨ho.queue_nodup, List.pairwise_singleton _ n,
      fun a ha b hb e => hnq (by rw [← List.mem_singleton.mp hb, ← e]; exact ha)⟩
  · rw [show d.holder = none from e] at held
    cases held

/-- nobody else has the page when a render gets it -/
theorem Enters.alone {w : Work} (enters : d.Enters m n r w acts) :
    ∀ k, d.holder = some k → k = n := by
  intro k hk
  cases enters with
  | atOnce h compiles wants free =>
    rw [free] at hk
    cases hk
  | inTurn h at_ held =>
    rw [held] at hk
    exact (Option.some.inj hk).symm

/-- one render at most is at work on the page -/
theorem Orderly.idle (ho : d.Orderly) (alone : ∀ k, d.holder = some k → k = n) {k : Nat}
    {x : Render} (hx : d.render? k = some x) (hk : k ≠ n) : x.point.works = false := by
  cases hw : x.point.works with
  | false => rfl
  | true => exact absurd (alone k (ho.works_holds k x hx hw)) hk

theorem Orderly.alone (ho : d.Orderly) (h : d.render? n = some r) (works : r.point.works = true) :
    ∀ k, d.holder = some k → k = n := by
  intro k hk
  rw [ho.works_holds n r h works] at hk
  exact (Option.some.inj hk).symm

theorem Orderly.enter (ho : d.Orderly) {w : Work} {r' : Render} (e : Engine)
    (enters : d.Enters m n r w acts) (works : r'.point.works = true) :
    Orderly { d.put n (.render r') with engine := e, holder := some n } := by
  have view : ∀ j, render? { d.put n (.render r') with engine := e, holder := some n } j
      = if j = n then some r' else d.render? j :=
    fun k => render?_put_render d n k r'
  have alone := enters.alone
  have hnq : n ∉ d.queue := by
    cases enters with
    | atOnce h compiles wants free =>
      rw [ho.free free]
      exact List.not_mem_nil
    | inTurn h at_ held => exact fun hn => (ho.queue_render n hn).1 held
  have waits : ∀ j x w, d.render? j = some x → x.point = .queue w → j ≠ n → j ∈ d.queue := by
    intro j x w hx hw hj
    rcases ho.queue_mem j x w hx hw with h | h
    · exact absurd (alone j h) hj
    · exact h
  refine ⟨fun j hj => ?_, fun j x hx hw => ?_, fun j hj => ?_, fun j x w' hx hw => ?_,
    ho.queue_nodup, fun h => by cases h⟩
  · cases hj
    rw [view, if_pos rfl]
    exact ⟨r', rfl, .inl works⟩
  · rw [view] at hx
    by_cases h : j = n
    · rw [h]
    · rw [if_neg h] at hx
      exact absurd (alone j (ho.works_holds j x hx hw)) h
  · have h : j ≠ n := fun h => hnq (h ▸ hj)
    rw [view, if_neg h]
    exact ⟨fun h' => h (Option.some.inj h').symm, (ho.queue_render j hj).2⟩
  · rw [view] at hx
    by_cases h : j = n
    · exact .inl (by rw [h])
    · rw [if_neg h] at hx
      exact .inr (waits j x w' hx hw h)

/-- the page of a call that is over goes to the first in the queue -/
theorem without_of_holder (held : d.holder = some n) (idle : n ∉ d.queue) :
    d.without n =
    { d with calls := d.calls.drop n, holder := d.queue.head?, queue := d.queue.tail } := by
  have hf : d.queue.filter (· != n) = d.queue := by
    rw [List.filter_eq_self]
    intro k hk
    simpa using fun e : k = n => idle (e ▸ hk)
  simp only [Desk.without, held, hf, if_true, pass]
  cases d.queue <;> rfl

theorem Orderly.without (ho : d.Orderly) (n : Nat) : Orderly (d.without n) := by
  have view := render?_without d n
  by_cases held : d.holder = some n
  · have idle : n ∉ d.queue := fun h => (ho.queue_render n h).1 held
    have ne : ∀ j ∈ d.queue, j ≠ n := fun j hj e => idle (e ▸ hj)
    have waits : ∀ j ∈ d.queue, ∃ r w, (d.without n).render? j = some r ∧ r.point = .queue w := by
      intro j hj
      rw [view, if_neg (ne j hj)]
      exact (ho.queue_render j hj).2
    rw [without_of_holder held idle] at view waits ⊢
    refine ⟨fun j hj => ?_, fun j x hx hw => ?_, fun j hj => ?_, fun j x w hx hw => ?_,
      ho.queue_nodup.tail, fun h => ?_⟩
    · obtain ⟨x, w, hx, hw⟩ := waits j (List.mem_of_mem_head? hj)
      exact ⟨x, hx, .inr ⟨w, hw⟩⟩
    · rw [view] at hx
      split at hx
      · cases hx
      · next h =>
        have h' := ho.works_holds j x hx hw
        rw [held] at h'
        exact absurd (Option.some.inj h').symm h
    · refine ⟨fun h => ?_, waits j (List.mem_of_mem_tail hj)⟩
      have nodup := ho.queue_nodup
      cases hq : d.queue with
      | nil =>
        rw [hq] at hj
        cases hj
      | cons k q =>
        rw [hq] at nodup hj h
        cases h
        exact (List.nodup_cons.mp nodup).1 hj
    · rw [view] at hx
      split at hx
      · cases hx
      · next h =>
        rcases ho.queue_mem j x w hx hw with h' | h'
        · rw [held] at h'
          exact absurd (Option.some.inj h').symm h
        · cases hq : d.queue with
          | nil =>
            rw [hq] at h'
            cases h'
          | cons k q =>
            rw [hq] at h'
            exact (List.mem_cons.mp h').imp (fun e => by rw [e]; rfl) id
    · show d.queue.tail = []
      rw [List.head?_eq_none_iff.mp h]
      rfl
  · have hd :
      d.without n = { d with calls := d.calls.drop n, queue := d.queue.filter (· != n) } := by
      simp [Desk.without, held]
    rw [hd] at view ⊢
    refine ⟨fun j hj => ?_, fun j x hx hw => ?_, fun j hj => ?_, fun j x w hx hw => ?_,
      ho.queue_nodup.filter _, fun h => ?_⟩
    · have h : j ≠ n := fun h => held (h ▸ hj)
      rw [view, if_neg h]
      exact ho.holder_render j hj
    · rw [view] at hx
      split at hx
      · cases hx
      · exact ho.works_holds j x hx hw
    · obtain ⟨hj, h⟩ := List.mem_filter.mp hj
      have h : j ≠ n := by simpa using h
      rw [view, if_neg h]
      exact ho.queue_render j hj
    · rw [view] at hx
      split at hx
      · cases hx
      · next h =>
        exact (ho.queue_mem j x w hx hw).imp id fun h' => List.mem_filter.mpr ⟨h', by simpa using h⟩
    · show d.queue.filter (· != n) = []
      rw [ho.free h]
      rfl

theorem Orderly.aside (ho : d.Orderly) (h : d.Aside m d') : d'.Orderly where
  holder_render n e := by rw [h.render?]; exact ho.holder_render n (h.holder ▸ e)
  works_holds n r e hw := by rw [h.holder]; exact ho.works_holds n r (h.render? n ▸ e) hw
  queue_render n e := by rw [h.holder, h.render?]; exact ho.queue_render n (h.queue ▸ e)
  queue_mem n r w e hw := by rw [h.holder, h.queue]; exact ho.queue_mem n r w (h.render? n ▸ e) hw
  queue_nodup := by rw [h.queue]; exact ho.queue_nodup
  free e := by rw [h.queue]; exact ho.free (h.holder ▸ e)

/-- a render goes on without coming to the page, leaving it, or having to wait for it -/
theorem Orderly.goes (ho : d.Orderly) {r' : Render} (e : Engine) (h : d.render? n = some r)
    (works : r.point.works = r'.point.works) (old : ∀ w, r.point ≠ .queue w)
    (new : ∀ w, r'.point ≠ .queue w) : Orderly { d.put n (.render r') with engine := e } := by
  refine ho.put e ⟨?_, fun hw => ⟨r, h, works ▸ hw⟩⟩ (fun x w hx => ?_) new
  · rintro ⟨x, hx, hw⟩
    rw [h] at hx
    cases hx
    exact works ▸ hw
  · rw [h] at hx
    cases hx
    exact old w

/-- **Every step keeps the order.** -/
theorem orderly_step (ho : d.Orderly) (step : Step s d m d' acts) : d'.Orderly := by
  cases step with
  | aside h => exact ho.aside h
  | @begins n c source free initialized renders =>
    have hn : d.render? n = none := by simp only [Desk.render?, free]
    refine ho.put _ ⟨?_, fun hw => by cases hw⟩ (fun r w hr => ?_) (fun w e => by cases e)
    · rintro ⟨r, hr, -⟩
      rw [hn] at hr
      cases hr
    · rw [hn] at hr
      cases hr
  | transforms h at_ ok =>
    exact ho.goes d.engine h (by rw [at_]; rfl) (fun w e => by rw [at_] at e; cases e)
      (fun w e => by cases e)
  | @waits n r o h compiles =>
    exact ho.goes d.engine h (Point.works_of_compiles compiles)
      (Point.ne_queue (Point.awaits_of_compiles compiles)) (fun w e => by cases e)
  | queues h compiles wants held => exact ho.enqueue h compiles held
  | polls h at_ current =>
    exact ho.goes _ h (by rw [at_]; rfl) (fun w e => by rw [at_] at e; cases e)
      (fun w e => by cases e)
  | givesUp h at_ late => exact ho.without _
  | evaluates enters current => exact ho.enter d.engine enters rfl
  | reports enters current => exact ho.enter _ enters rfl
  | yields enters late => exact ho.without _
  | mounts h at_ ok current =>
    exact ho.goes d.engine h (by rw [at_]; rfl) (fun w e => by rw [at_] at e; cases e)
      (fun w e => by cases e)
  | @fails n r o f h at_ bad current =>
    have works : r.point.works = true ∧ r.point.awaits = true := by
      rcases at_ with e | e <;> rw [e] <;> exact ⟨rfl, rfl⟩
    exact ho.goes _ h works.1 (Point.ne_queue works.2) (fun w e => by cases e)
  | mounted h at_ ok => exact (ho.engine _).without _
  | returns h works late bad => exact ho.without _
  | raises h at_ bad unreadable => exact ho.without _
  | cancels h => exact ho.without _

theorem orderly_after (s : Setup) (ho : d.Orderly) (ms : List Move) : (d.after s ms).Orderly := by
  induction ms generalizing d with
  | nil => exact ho
  | cons m ms ih => exact ih (orderly_step ho (move_step s ho m))

/-- **Every moment of a run is a step from an orderly desk.** -/
theorem steps (ho : d.Orderly) {ms : List Move} {k : Moment} (hk : k ∈ d.moments s ms) :
    k.before.Orderly ∧ Step s k.before k.move k.after k.acts := by
  induction ms generalizing d with
  | nil => cases hk
  | cons m ms ih =>
    have step := move_step s ho m
    rcases List.mem_cons.mp hk with rfl | hk
    · exact ⟨ho, step⟩
    · exact ih (orderly_step ho step) hk

theorem mem_moments {k : Moment} {ms : List Move} (hk : k ∈ d.moments s ms) :
    k = k.before.moment s k.move := by
  induction ms generalizing d with
  | nil => cases hk
  | cons m ms ih =>
    rcases List.mem_cons.mp hk with rfl | hk
    · rfl
    · exact ih hk

/-- **A poll, and whatever changes the page, is an act of a render.** -/
theorem asked_act {k : Moment} {ms : List Move} (hk : k ∈ d.moments s ms) {q : Request}
    (asked : .asked n q ∈ k.signals) (stage : q.isStage = true) :
    ∃ r, k.after.render? n = some r ∧ r.act n (.asks q) ∈ k.acts := by
  have hm := mem_moments hk
  obtain ⟨r, hr⟩ : ∃ r, k.after.render? n = some r := by
    rw [hm] at asked ⊢
    exact asked_render s k.before k.move n q asked stage
  refine ⟨r, hr, List.mem_append_right _ (List.mem_filterMap.mpr ⟨_, asked, ?_⟩)⟩
  simp only [told, hr, Option.map_some]

/-- **What holds at the start of a run and is kept by its steps holds at its end.** -/
theorem run_steps {P : Desk → List Moment → Prop} (ho : d.Orderly) {ms : List Move} (start : P d [])
    (step : ∀ m ∈ ms, ∀ d ks, d.Orderly → Step s d m (d.move s m).1 (d.moment s m).acts → P d ks →
      P (d.move s m).1 (ks ++ [d.moment s m])) :
    P (d.after s ms) (d.moments s ms) := by
  have h : (d.after s ms).Orderly ∧ P (d.after s ms) (d.moments s ms) := by
    refine run_induction s (P := fun d ks => d.Orderly ∧ P d ks) ⟨ho, start⟩
      fun m hm d ks ⟨ho, hp⟩ => ?_
    have now := move_step s ho m
    exact ⟨orderly_step ho now, step m hm d ks ho now hp⟩
  exact h.2

end Desk

end SnippetStudio.Preview
