import SnippetStudio.Proofs.Preview.Visits

/-!
# What has been mounted

The engine counts the snippets that the page has mounted and keeps the last of them.  Both change
when the page answers a mount with yes (`Act.isMounting`), and at no other moment: not when a stage
fails or comes too late, not by polls, and not by calls of another kind.

* `step_mountings`  a step mounts nothing and leaves both alone, or mounts one snippet;
* `Counted`         the invariant: the engine tells of the mountings so far;
* `Desk.renders_mountings`  **the engine's account is that of the page**.
-/

namespace SnippetStudio.Preview

/-- the page has mounted a snippet -/
def Act.isMounting (a : Act) : Bool :=
  match a.deed with
  | .hears .mount o => isDone o
  | _ => false

def mountings (h : List Act) : List Act := h.filter Act.isMounting

theorem mountings_append (h k : List Act) : mountings (h ++ k) = mountings h ++ mountings k :=
  List.filter_append ..

theorem mountings_sublist (h : List Act) : (mountings h).Sublist h := List.filter_sublist

theorem Render.not_isMounting (r : Render) (n : Nat) {o : Outcome}
    (h : r.point = .mount → isDone o = false) : (r.act n (.hears r.point o)).isMounting = false := by
  show (match (Deed.hears r.point o) with
    | .hears .mount o => isDone o
    | _ => false) = false
  cases hp : r.point with
  | mount => exact h hp
  | _ => rfl

namespace Desk

variable {s : Setup} {d d' : Desk} {m : Move} {n : Nat} {r : Render} {acts h : List Act}
    {bs : List Block}

/-- a step that mounts nothing -/
structure Unmounted (d d' : Desk) (acts : List Act) : Prop where
  none : mountings acts = []
  renders : d'.engine.renders = d.engine.renders
  lastRendered : d'.engine.lastRendered = d.engine.lastRendered

/-- a step that mounts the snippet of a render -/
structure MountedBy (d : Desk) (m : Move) (d' : Desk) (acts : List Act) (n : Nat) (r : Render)
    (reply : Reply) : Prop where
  render? : d.render? n = some r
  at_ : r.point = .mount
  ok : reply.ok = true
  move : m = .answer n (.ok reply)
  one : mountings acts = [r.act n (.hears .mount (.ok reply))]
  engine : d'.engine = d.engine.mounted r.source
  left (k : Nat) : d'.render? k = if k = n then none else d.render? k

/-- what is heard on the way to the page is no mounting -/
theorem Enters.mountings {w : Work} (enters : d.Enters m n r w acts) : mountings acts = [] := by
  cases enters with
  | atOnce h compiles =>
    refine List.filter_cons_of_neg ?_
    rw [r.not_isMounting n fun e => by rw [e] at compiles; cases compiles]
    exact Bool.false_ne_true
  | inTurn => rfl

/-- **A step mounts nothing, or one snippet.** -/
theorem step_mountings (step : Step s d m d' acts) :
    Unmounted d d' acts ∨ ∃ n r reply, MountedBy d m d' acts n r reply := by
  have heard : ∀ {n : Nat} {r : Render} {o : Outcome} {deed : Deed},
      (r.point = .mount → isDone o = false) → (r.act n deed).isMounting = false →
      mountings [r.act n (.hears r.point o), r.act n deed] = [] := by
    intro n r o deed h hd
    refine List.filter_eq_nil_iff.mpr fun a ha => ?_
    rcases List.mem_cons.mp ha with rfl | ha
    · rw [r.not_isMounting n h]
      exact Bool.false_ne_true
    · rw [List.mem_singleton.mp ha, hd]
      exact Bool.false_ne_true
  have compiling : ∀ {n : Nat} {r : Render} {o : Outcome}, r.point.compiles = true →
      mountings [r.act n (.hears r.point o)] = [] := by
    intro n r o compiles
    refine List.filter_cons_of_neg ?_
    rw [r.not_isMounting n fun e => by rw [e] at compiles; cases compiles]
    exact Bool.false_ne_true
  cases step with
  | aside ha =>
    obtain ⟨i, v, engine, -⟩ := ha.engine
    exact .inl ⟨rfl, by rw [engine], by rw [engine]⟩
  | begins | transforms | polls | mounts => exact .inl ⟨rfl, rfl, rfl⟩
  | waits h compiles | queues h compiles => exact .inl ⟨compiling compiles, rfl, rfl⟩
  | givesUp => exact .inl ⟨rfl, by rw [engine_without], by rw [engine_without]⟩
  | evaluates enters | reports enters =>
    refine .inl ⟨?_, rfl, rfl⟩
    rw [mountings_append, enters.mountings]
    rfl
  | yields enters =>
    refine .inl ⟨?_, by rw [engine_without], by rw [engine_without]⟩
    rw [mountings_append, enters.mountings]
    rfl
  | fails h at_ bad => exact .inl ⟨heard (fun _ => bad) rfl, rfl, rfl⟩
  | @mounted n r reply h at_ ok =>
    refine .inr ⟨n, r, reply, h, at_, ok, rfl, ?_, by rw [engine_without], fun k => ?_⟩
    · have yes : (r.act n (.hears .mount (.ok reply))).isMounting = true := ok
      rw [mountings, List.filter_cons_of_pos yes]
      rfl
    · rw [render?_without, render?_mk]
  | returns h works late bad =>
    exact .inl ⟨heard bad rfl, by rw [engine_without], by rw [engine_without]⟩
  | raises h at_ bad =>
    exact .inl ⟨heard (fun _ => bad) rfl, by rw [engine_without], by rw [engine_without]⟩
  | cancels => exact .inl ⟨rfl, by rw [engine_without], by rw [engine_without]⟩

/-- the engine tells of the mountings so far -/
structure Counted (d : Desk) (h : List Act) : Prop where
  renders : d.engine.renders = (mountings h).length
  lastRendered : d.engine.lastRendered = (mountings h).getLast?.map Act.source
  sorted : (mountings h).Pairwise fun a b => a.version < b.version
  /-- the render had begun, and had asked for the mount -/
  asked : ∀ a ∈ mountings h, ⟨a.call, a.version, a.source, .begins⟩ ∈ h ∧
    [⟨a.call, a.version, a.source, .asks .mount⟩, a].Sublist h
  /-- whoever is still under way has mounted nothing -/
  new : ∀ n r, d.render? n = some r → ∀ a ∈ mountings h, a.version ≠ r.version

theorem Idle.counted (idle : d.Idle) (renders : d.engine.renders = 0)
    (last : d.engine.lastRendered = none) : Counted d [] where
  renders := renders
  lastRendered := last
  sorted := .nil
  asked a ha := by cases ha
  new n r hr := by rw [idle.render?] at hr; cases hr

/-- who changes the page does so in one of the visits -/
theorem Visited.block (hv : d.Visited s h bs) {a : Act} (ha : a ∈ h) (touch : a.deed.isTouch = true) :
    ∃ b ∈ bs, b.version = a.version := by
  have mem : a ∈ Preview.touches h := List.mem_filter.mpr ⟨ha, touch⟩
  rw [hv.touches] at mem
  obtain ⟨b, hb, hab⟩ := List.mem_flatMap.mp mem
  obtain ⟨q, -, rfl⟩ := List.mem_map.mp hab
  exact ⟨b, hb, rfl⟩

theorem Counted.block (hc : Counted d h) (hv : d.Visited s h bs) {a : Act} (ha : a ∈ mountings h) :
    ∃ b ∈ bs, b.version = a.version :=
  hv.block (a := ⟨a.call, a.version, a.source, .asks .mount⟩)
    ((hc.asked a ha).2.subset (List.mem_cons_self ..)) rfl

theorem Counted.unmounted (hc : Counted d h) (hv : d.Visited s h bs) (step : Step s d m d' acts)
    (u : Unmounted d d' acts) : Counted d' (h ++ acts) := by
  have same : mountings (h ++ acts) = mountings h := by
    rw [mountings_append, u.none, List.append_nil]
  have grows := List.sublist_append_left h acts
  refine ⟨by rw [same, u.renders]; exact hc.renders,
    by rw [same, u.lastRendered]; exact hc.lastRendered, by rw [same]; exact hc.sorted,
    fun a ha => ?_, fun n x hx a ha => ?_⟩
  · rw [same] at ha
    obtain ⟨begun, asked⟩ := hc.asked a ha
    exact ⟨grows.subset begun, asked.trans grows⟩
  · rw [same] at ha
    obtain ⟨r, hr, hv', -⟩ | ⟨gives, -⟩ := step_render step hx
    · rw [← hv']
      exact hc.new n r hr a ha
    · obtain ⟨b, hb, e⟩ := hc.block hv ha
      have bound := hv.bound b hb
      have given := gives.new
      omega

/-- a render mounts its snippet: it is the newest of those that did -/
theorem Counted.mounted (hc : Counted d h) (hd : d.Numbered) (hv : d.Visited s h bs) {reply : Reply}
    (by_ : MountedBy d m d' acts n r reply) : Counted d' (h ++ acts) := by
  have more : mountings (h ++ acts) = mountings h ++ [r.act n (.hears .mount (.ok reply))] := by
    rw [mountings_append, by_.one]
  have grows := List.sublist_append_left h acts
  obtain ⟨pre, code, rfl⟩ := (hv.place n r by_.render?).mounted by_.at_
  have last : r.block n (.mounted code) ∈ pre ++ [r.block n (.mounted code)] :=
    List.mem_append_right _ (List.mem_singleton_self _)
  obtain ⟨_, -, -, trace⟩ := (hv.backed _ last).code code rfl
  obtain ⟨_, -, request⟩ := (hv.backed _ last).mount code rfl rfl
  refine ⟨?_, ?_, ?_, fun a ha => ?_, fun k x hx a ha => ?_⟩
  · rw [more, by_.engine, List.length_append, ← hc.renders]
    rfl
  · rw [more, by_.engine, List.getLast?_concat]
    rfl
  · rw [more]
    refine List.pairwise_append.mpr ⟨hc.sorted, List.pairwise_singleton _ _, fun a ha b hb => ?_⟩
    rw [List.mem_singleton.mp hb]
    show a.version < r.version
    obtain ⟨b, hb, e⟩ := hc.block hv ha
    have ne := hc.new n r by_.render? a ha
    rcases List.mem_append.mp hb with hb | hb
    · rw [← e]
      exact (List.pairwise_append.mp hv.sorted).2.2 b hb _ (List.mem_singleton_self _)
    · rw [List.mem_singleton.mp hb] at e
      exact absurd e.symm ne
  · rw [more] at ha
    rcases List.mem_append.mp ha with ha | ha
    · obtain ⟨begun, asked⟩ := hc.asked a ha
      exact ⟨grows.subset begun, asked.trans grows⟩
    · rw [List.mem_singleton.mp ha]
      have told : [r.act n (.hears .mount (.ok reply))].Sublist acts := by
        rw [← by_.one]
        exact mountings_sublist acts
      have first : [r.act n (.asks .mount)].Sublist h :=
        (List.sublist_append_right [_, _] [r.act n (.asks .mount)]).trans request
      exact ⟨List.mem_append_left _ (trace.subset (List.mem_cons_self ..)), first.append told⟩
  · rw [more] at ha
    rw [by_.left] at hx
    split at hx
    · cases hx
    · next hk =>
      rcases List.mem_append.mp ha with ha | ha
      · exact hc.new k x hx a ha
      · rw [List.mem_singleton.mp ha]
        exact fun e => hk (hd.apart k n x r hx by_.render? e.symm)

/-- **Every step keeps the account.** -/
theorem counted_step (hd : d.Numbered) (hv : d.Visited s h bs) (hc : Counted d h)
    (step : Step s d m d' acts) : Counted d' (h ++ acts) := by
  rcases step_mountings step with u | ⟨n, r, reply, by_⟩
  · exact hc.unmounted hv step u
  · exact hc.mounted hd hv by_

theorem counted_after (s : Setup) (idle : d.Idle) (hc : Counted d []) (ms : List Move) :
    Counted (d.after s ms) (d.history s ms) := by
  have hp : (d.after s ms).Numbered ∧
      (∃ bs, (d.after s ms).Visited s ((d.moments s ms).flatMap Moment.acts) bs) ∧
      Counted (d.after s ms) ((d.moments s ms).flatMap Moment.acts) := by
    refine run_steps (P := fun d ks => d.Numbered ∧
      (∃ bs, d.Visited s (ks.flatMap Moment.acts) bs) ∧ Counted d (ks.flatMap Moment.acts))
      idle.orderly ⟨idle.numbered, ⟨[], visited_idle s idle⟩, hc⟩ ?_
    rintro m - d ks ho step ⟨hd, ⟨bs, hv⟩, hc⟩
    rw [acts_concat]
    exact ⟨numbered_step hd step, visited_step ho hd hv step, counted_step hd hv hc step⟩
  exact hp.2.2

theorem mounting_of_answer {k : Moment} {reply : Reply} (hr : k.before.render? n = some r)
    (at_ : r.point = .mount) (answer : k.move = .answer n (.ok reply)) (ok : reply.ok = true) :
    r.act n (.hears .mount (.ok reply)) ∈ mountings k.acts := by
  have heard : k.before.heard k.move = [r.act n (.hears .mount (.ok reply))] := by
    simp [heard, answer, hr, at_, Point.awaits]
  refine List.mem_filter.mpr ⟨?_, ok⟩
  rw [Moment.acts, heard]
  exact List.mem_append_left _ (List.mem_append_left _ (List.mem_singleton_self _))

/-- **The engine's account is that of the page**: it has counted the mounts that the page answered
with yes, and keeps the snippet of the last; each of them was asked for by a render of a version of
its own, which had the snippet that its call asked for.  The account changes at such an answer, to a
render that waits for its mount, and at no other moment of the run. -/
theorem renders_mountings (s : Setup) (ms : List Move) :
    (after s {} ms).engine.renders = (mountings (history s {} ms)).length ∧
    (after s {} ms).engine.lastRendered =
      (mountings (history s {} ms)).getLast?.map Act.source ∧
    ((mountings (history s {} ms)).Pairwise fun a b => a.version < b.version) ∧
    (∀ a ∈ mountings (history s {} ms),
      ⟨a.call, a.version, a.source, .begins⟩ ∈ history s {} ms ∧
      [⟨a.call, a.version, a.source, .asks .mount⟩, a].Sublist (history s {} ms)) ∧
    (∀ k ∈ moments s {} ms, k.Sourced) ∧
    ∀ k ∈ moments s {} ms,
      (mountings k.acts = [] ∧ k.after.engine.renders = k.before.engine.renders ∧
        k.after.engine.lastRendered = k.before.engine.lastRendered ∧
        ∀ n r reply, k.before.render? n = some r → r.point = .mount →
          k.move = .answer n (.ok reply) → reply.ok = false) ∨
      ∃ n r reply, k.before.render? n = some r ∧ r.point = .mount ∧
        k.move = .answer n (.ok reply) ∧ reply.ok = true ∧
        mountings k.acts = [r.act n (.hears .mount (.ok reply))] ∧
        k.after.engine.renders = k.before.engine.renders + 1 ∧
        k.after.engine.lastRendered = some r.source := by
  have idle : Idle {} := idle_engine {}
  have hc := counted_after s idle (idle.counted rfl rfl) ms
  refine ⟨hc.renders, hc.lastRendered, hc.sorted, hc.asked, fun k => sourced_of_mem idle.orderly, fun k hk => ?_⟩
  rcases step_mountings (steps idle.orderly hk).2 with u | ⟨n, r, reply, by_⟩
  · refine .inl ⟨u.none, u.renders, u.lastRendered, fun n r reply hr at_ answer => ?_⟩
    cases ok : reply.ok with
    | false => rfl
    | true =>
      have mem := mounting_of_answer hr at_ answer ok
      rw [u.none] at mem
      cases mem
  · refine .inr ⟨n, r, reply, by_.render?, by_.at_, by_.move, by_.ok, by_.one, ?_, ?_⟩
    · rw [by_.engine]
      rfl
    · rw [by_.engine]
      rfl

end Desk

end SnippetStudio.Preview
