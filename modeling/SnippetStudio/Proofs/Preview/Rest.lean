import SnippetStudio.Proofs.Preview.Supersession
import SnippetStudio.Proofs.Preview.Visits

/-!
# The last call wins

When no call is under way any more, the engine's state and the page are those of the newest render,
in whatever order the calls came and went, as long as none was cancelled, none failed itself and the
preview was not shut down.

* `Underway`   what holds while the newest render goes on;
* `Settled`    what it leaves behind: its snippet is shown, or its error is;
* `Course`     the invariant: before the first render, while the newest goes on, after it;
* `Desk.last_call_wins`  **at rest the newest render is settled**.
-/

namespace SnippetStudio.Preview

/-- neither a cancellation nor a shutdown -/
def Move.goesOn : Move → Bool
  | .cancel _ | .start _ .shutdown => false
  | _ => true

/-- a call failed itself -/
def Deed.failed : Deed → Bool
  | .ends (.error _) => true
  | _ => false

theorem Deed.ends_of_failed {deed : Deed} (h : deed.failed = true) :
    ∃ f, deed = .ends (.error f) := by
  cases deed with
  | ends result =>
    cases result with
    | error f => exact ⟨f, rfl⟩
    | ok r => cases h
  | _ => cases h

/-- the last change of the page -/
def lastTouch (h : List Act) : Option Act := (touches h).getLast?

theorem lastTouch_append (h k : List Act) (none : touches k = []) :
    lastTouch (h ++ k) = lastTouch h := by
  rw [lastTouch, touches_append, none, List.append_nil, lastTouch]

theorem lastTouch_concat (h k : List Act) {a : Act} (touch : touches k = [a]) :
    lastTouch (h ++ k) = some a := by
  rw [lastTouch, touches_append, touch, List.getLast?_concat]

/-- what a render of the newest version leaves behind -/
inductive Shows (e : Engine) (h : List Act) (n : Nat) (source : String) : Prop
  /-- its snippet was mounted last, and the page said so -/
  | snippet {reply : Reply} (error : e.error = none) (rendered : e.lastRendered = some source)
      (last : lastTouch h = some ⟨n, e.version, source, .asks .mount⟩) (ok : reply.ok = true)
      (trace : [⟨n, e.version, source, .asks .mount⟩,
        ⟨n, e.version, source, .hears .mount (.ok reply)⟩].Sublist h)
  /-- its error was shown last -/
  | failure {f : Failure} (error : e.error = some f)
      (last : lastTouch h = some ⟨n, e.version, source, .asks (.showError f.stage f.message)⟩)

theorem Shows.mono {e e' : Engine} {h k : List Act} {n : Nat} {source : String}
    (shows : Shows e h n source) (version : e'.version = e.version) (error : e'.error = e.error)
    (rendered : e'.lastRendered = e.lastRendered)
    (none : touches k = []) : Shows e' (h ++ k) n source := by
  cases shows with
  | snippet none' rendered' last ok trace =>
    refine .snippet (by rw [error]; exact none') (by rw [rendered]; exact rendered') ?_ ok ?_
    · rw [lastTouch_append h k none, version]
      exact last
    · rw [version]
      exact trace.trans (List.sublist_append_left h k)
  | failure error' last =>
    refine .failure (by rw [error]; exact error') ?_
    rw [lastTouch_append h k none, version]
    exact last

namespace Desk

/-- while the newest render goes on -/
structure Underway (d : Desk) (h : List Act) (n : Nat) (r : Render) : Prop where
  begun : r.act n .begins ∈ h
  wanted : d.engine.source = some r.source
  error : r.point ≠ .panel → d.engine.error = none
  mount : r.point = .mount → lastTouch h = some (r.act n (.asks .mount))
  panel : r.point = .panel → ∃ f, d.engine.error = some f ∧
    lastTouch h = some (r.act n (.asks (.showError f.stage f.message)))

structure Settled (d : Desk) (h : List Act) (n : Nat) (source : String) : Prop where
  begun : ⟨n, d.engine.version, source, .begins⟩ ∈ h
  wanted : d.engine.source = some source
  shows : Shows d.engine h n source
  /-- all that are left are older, and away from the page -/
  older : ∀ k x, d.render? k = some x → x.version ≠ d.engine.version
  idle : ∀ k x, d.render? k = some x → x.point.works = false

/-- how far the newest render has come -/
inductive Course (d : Desk) (h : List Act) : Prop
  | unbegun (none : ∀ n, d.render? n = none) (empty : h = [])
  | underway {n : Nat} {r : Render} (hr : d.render? n = some r)
      (current : r.version = d.engine.version) (u : Underway d h n r)
  | settled {n : Nat} {source : String} (settled : Settled d h n source)
  | raised {a : Act} (mem : a ∈ h) (failed : a.deed.failed = true)

variable {s : Setup} {d d' : Desk} {m : Move} {n : Nat} {r : Render} {acts h : List Act}

/-- the newest render that is under way is the one that the course is about -/
theorem Course.current (hc : Course d h) (hd : d.Numbered) (hr : d.render? n = some r)
    (current : r.version = d.engine.version) :
    Underway d h n r ∨ ∃ a ∈ h, a.deed.failed = true := by
  cases hc with
  | unbegun none =>
    rw [none] at hr
    cases hr
  | @underway n' r' hr' current' u =>
    have e : n' = n := hd.apart n' n r' r hr' hr (by rw [current', current])
    subst e
    rw [hr'] at hr
    cases hr
    exact .inl u
  | settled settled => exact absurd current (settled.older n r hr)
  | raised mem failed => exact .inr ⟨_, mem, failed⟩

/-- a step of an older render, or of none: it changes nothing that the newest has done -/
theorem Course.other (hc : Course d h)
    (unbegun : (∀ n, d.render? n = none) → (∀ n, d'.render? n = none) ∧ acts = [])
    (version : d'.engine.version = d.engine.version) (source : d'.engine.source = d.engine.source)
    (error : d'.engine.error = d.engine.error)
    (rendered : (∀ k x, d.render? k = some x → x.point.works = false) →
      d'.engine.lastRendered = d.engine.lastRendered)
    (keeps : ∀ k x, d.render? k = some x → x.version = d.engine.version → d'.render? k = some x)
    (others : ∀ k x, d'.render? k = some x →
      d.render? k = some x ∨ x.version ≠ d.engine.version ∧ x.point.works = false)
    (none : touches acts = []) : Course d' (h ++ acts) := by
  cases hc with
  | unbegun no empty =>
    obtain ⟨no', none⟩ := unbegun no
    exact .unbegun no' (by rw [empty, none]; rfl)
  | underway hr current u =>
    refine .underway (keeps _ _ hr current) (by rw [version]; exact current)
      ⟨List.mem_append_left _ u.begun, by rw [source]; exact u.wanted, ?_, ?_, ?_⟩
    · rw [error]
      exact u.error
    · rw [lastTouch_append h acts none]
      exact u.mount
    · rw [lastTouch_append h acts none, error]
      exact u.panel
  | settled settled =>
    refine .settled ⟨?_, by rw [source]; exact settled.wanted,
      settled.shows.mono version error (rendered settled.idle) none, fun k x hx => ?_,
      fun k x hx => ?_⟩
    · rw [version]
      exact List.mem_append_left _ settled.begun
    · rw [version]
      rcases others k x hx with hx | ⟨late, -⟩
      · exact settled.older k x hx
      · exact late
    · rcases others k x hx with hx | ⟨-, idle⟩
      · exact settled.idle k x hx
      · exact idle
  | raised mem failed => exact .raised (List.mem_append_left _ mem) failed

theorem Course.aside (hc : Course d h) (goesOn : m.goesOn = true) (ha : d.Aside m d') :
    Course d' (h ++ []) := by
  obtain ⟨i, v, engine, rfl | ⟨-, n, rfl⟩⟩ := ha.engine
  · refine hc.other (fun no => ⟨fun n => ?_, rfl⟩) (by rw [engine]) (by rw [engine])
      (by rw [engine]) (fun _ => by rw [engine]) (fun k x hx _ => ?_) (fun k x hx => .inl ?_) rfl
    · rw [ha.render?, no]
    · rw [ha.render?, hx]
    · rw [← ha.render?, hx]
  · cases goesOn

/-- an older render goes on, away from the page -/
theorem Course.other_put (hc : Course d h) {r' : Render} (hr : d.render? n = some r)
    (late : r.version ≠ d.engine.version)
    (view : ∀ k, d'.render? k = if k = n then some r' else d.render? k)
    (version : r'.version = r.version) (idle : r'.point.works = false)
    (engine : d'.engine = d.engine)
    (none : touches acts = []) : Course d' (h ++ acts) := by
  refine hc.other (fun no => by rw [no] at hr; cases hr) (by rw [engine]) (by rw [engine])
    (by rw [engine]) (fun _ => by rw [engine]) (fun k x hx current => ?_) (fun k x hx => ?_) none
  · have hk : k ≠ n := by
      rintro rfl
      rw [hr] at hx
      cases hx
      exact late current
    rw [view, if_neg hk]
    exact hx
  · rw [view] at hx
    split at hx
    · cases hx
      exact .inr ⟨by rw [version]; exact late, idle⟩
    · exact .inl hx

theorem Course.other_without {b : Desk} (hc : Course d h) (hr : d.render? n = some r)
    (late : r.version ≠ d.engine.version) (same : ∀ k, b.render? k = d.render? k)
    (version : b.engine.version = d.engine.version) (source : b.engine.source = d.engine.source)
    (error : b.engine.error = d.engine.error)
    (rendered : r.point.works = false → b.engine.lastRendered = d.engine.lastRendered)
    (none : touches acts = []) : Course (b.without n) (h ++ acts) := by
  refine hc.other (fun no => by rw [no] at hr; cases hr) (by rw [engine_without]; exact version)
    (by rw [engine_without]; exact source) (by rw [engine_without]; exact error) (fun idle => ?_)
    (fun k x hx current => ?_) (fun k x hx => ?_) none
  · rw [engine_without]
    exact rendered (idle n r hr)
  · have hk : k ≠ n := by
      rintro rfl
      rw [hr] at hx
      cases hx
      exact late current
    rw [render?_without, if_neg hk, same]
    exact hx
  · rw [render?_without, same] at hx
    split at hx
    · cases hx
    · exact .inl hx

theorem Course.compiles (hc : Course d h) (hd : d.Numbered) {r' : Render}
    (hr : d.render? n = some r) (current : r.version = d.engine.version) (before : r.point ≠ .panel)
    (view : ∀ k, d'.render? k = if k = n then some r' else d.render? k)
    (version : r'.version = r.version) (source : r'.source = r.source)
    (after : r'.point ≠ .panel ∧ r'.point ≠ .mount)
    (engine : d'.engine = d.engine ∨ d'.engine = { d.engine with error := none }) :
      Course d' (h ++ acts) := by
  have same : d'.engine.version = d.engine.version ∧ d'.engine.source = d.engine.source ∧
      (d.engine.error = none → d'.engine.error = none) := by
    rcases engine with e | e <;> rw [e] <;> simp
  rcases hc.current hd hr current with u | ⟨a, ha, failed⟩
  · have hr' : d'.render? n = some r' := by rw [view, if_pos rfl]
    have begun : r'.act n .begins ∈ h ++ acts := by
      rw [Render.act, version, source]
      exact List.mem_append_left _ u.begun
    exact .underway hr' (by rw [version, same.1]; exact current)
      ⟨begun, by rw [same.2.1, source]; exact u.wanted, fun _ => same.2.2 (u.error before),
        fun e => absurd e after.2, fun e => absurd e after.1⟩
  · exact .raised (List.mem_append_left _ ha) failed

theorem Course.fails (hc : Course d h) (hd : d.Numbered) {r' : Render} (hr : d.render? n = some r)
    (current : r.version = d.engine.version) {f : Failure}
    (view : ∀ k, d'.render? k = if k = n then some r' else d.render? k)
    (version : r'.version = r.version) (source : r'.source = r.source) (after : r'.point = .panel)
    (engine : d'.engine = { d.engine with error := some f })
    (touch : touches acts = [r.act n (.asks (.showError f.stage f.message))]) :
      Course d' (h ++ acts) := by
  have hr' : d'.render? n = some r' := by rw [view, if_pos rfl]
  have act : ∀ deed, r'.act n deed = r.act n deed :=
    fun deed => by rw [Render.act, Render.act, version, source]
  rcases hc.current hd hr current with u | ⟨a, ha, failed⟩
  · refine .underway hr' (by rw [version, engine]; exact current)
      ⟨?_, ?_, fun e => absurd after e, fun e => ?_, fun _ => ?_⟩
    · rw [act]
      exact List.mem_append_left _ u.begun
    · rw [engine, source]
      exact u.wanted
    · rw [after] at e
      cases e
    · refine ⟨f, by rw [engine], ?_⟩
      rw [act]
      exact lastTouch_concat h acts touch
  · exact .raised (List.mem_append_left _ ha) failed

theorem Course.mounts (hc : Course d h) (hd : d.Numbered) {o : Outcome} (hr : d.render? n = some r)
    (current : r.version = d.engine.version) (at_ : r.point = .instantiate) :
    Course (d.put n (.render { r with point := .mount }))
      (h ++ [r.act n (.hears .instantiate o), r.act n (.asks .mount)]) := by
  have hr' :
      (d.put n (.render { r with point := .mount })).render? n =
        some { r with point := .mount } := by
    rw [render?_put_render, if_pos rfl]
  rcases hc.current hd hr current with u | ⟨a, ha, failed⟩
  · exact .underway hr' current ⟨List.mem_append_left _ u.begun, u.wanted,
      fun _ => u.error (by rw [at_]; nofun), fun _ => lastTouch_concat h _ rfl, nofun⟩
  · exact .raised (List.mem_append_left _ ha) failed

/-- the page says that the newest snippet is mounted -/
theorem Underway.mounted (u : Underway d h n r) (current : r.version = d.engine.version)
    (at_ : r.point = .mount) {reply : Reply} (ok : reply.ok = true) :
    Shows (d.engine.mounted r.source)
      (h ++ [r.act n (.hears .mount (.ok reply)), r.act n (.ends (.ok .nothing))]) n r.source := by
  have last := u.mount at_
  have asked : [r.act n (.asks .mount)].Sublist h := by
    have mem : r.act n (.asks .mount) ∈ touches h := List.mem_of_getLast? last
    exact List.singleton_sublist.mpr (List.mem_filter.mp mem).1
  have act : ∀ deed, (⟨n, d.engine.version, r.source, deed⟩ : Act) = r.act n deed := fun deed => by
    rw [← current]
    rfl
  refine .snippet (u.error (by rw [at_]; nofun)) rfl ?_ ok ?_
  · rw [lastTouch_append h _ rfl]
    exact last.trans (congrArg some (act _).symm)
  · show [(⟨n, d.engine.version, r.source, .asks .mount⟩ : Act),
      ⟨n, d.engine.version, r.source, .hears .mount (.ok reply)⟩].Sublist _
    rw [act, act]
    exact asked.append (List.sublist_append_left [_] [_])

/-- the newest error is shown, or at least was asked to be -/
theorem Underway.shown (u : Underway d h n r) (current : r.version = d.engine.version)
    (at_ : r.point = .panel)
    (none : touches acts = []) : Shows d.engine (h ++ acts) n r.source := by
  obtain ⟨f, error, last⟩ := u.panel at_
  refine .failure error ?_
  rw [lastTouch_append h acts none, ← current]
  exact last

theorem Course.over (hd : d.Numbered) (ho : d.Orderly) {b : Desk} (hr : d.render? n = some r)
    (current : r.version = d.engine.version) (works : r.point.works = true) (u : Underway d h n r)
    (same : ∀ k, b.render? k = d.render? k) (version : b.engine.version = d.engine.version)
    (source : b.engine.source = d.engine.source)
    (shows : Shows b.engine (h ++ acts) n r.source) : Course (b.without n) (h ++ acts) := by
  have left : ∀ k x, (b.without n).render? k = some x → d.render? k = some x ∧ k ≠ n := by
    intro k x hx
    rw [render?_without, same] at hx
    split at hx
    · cases hx
    · next hk => exact ⟨hx, hk⟩
  have settled : Settled (b.without n) (h ++ acts) n r.source := by
    refine ⟨?_, ?_, ?_, fun k x hx => ?_, fun k x hx => ?_⟩
    · rw [engine_without, version, ← current]
      exact List.mem_append_left _ u.begun
    · rw [engine_without, source]
      exact u.wanted
    · rw [engine_without]
      exact shows
    · obtain ⟨hx, hk⟩ := left k x hx
      rw [engine_without, version, ← current]
      exact fun e => hk (hd.apart k n x r hx hr e)
    · obtain ⟨hx, hk⟩ := left k x hx
      exact ho.idle (ho.alone hr works) hx hk
  exact .settled settled

/-- **Every step keeps the course of the newest render.** -/
theorem course_step (goesOn : m.goesOn = true) (ho : d.Orderly) (hd : d.Numbered) (hc : Course d h)
    (step : Step s d m d' acts) : Course d' (h ++ acts) := by
  cases step with
  | aside ha => exact hc.aside goesOn ha
  | @begins n c source free initialized renders =>
    exact .underway ((render?_newest d n n source).trans (if_pos rfl)) rfl
      ⟨List.mem_append_right _ (List.mem_cons_self ..), rfl, fun _ => rfl, nofun, nofun⟩
  | @transforms n r reply hr at_ ok =>
    by_cases current : r.version = d.engine.version
    · exact hc.compiles hd hr current (by rw [at_]; nofun)
        (render?_put_render d n · _) rfl rfl ⟨nofun, nofun⟩ (.inl rfl)
    · exact hc.other_put hr current (render?_put_render d n · _) rfl rfl rfl rfl
  | @waits n r o hr compiles =>
    by_cases current : r.version = d.engine.version
    · exact hc.compiles hd hr current (Point.ne_panel (Point.works_of_compiles compiles))
        (render?_put_render d n · _) rfl rfl ⟨nofun, nofun⟩ (.inl rfl)
    · exact hc.other_put hr current (render?_put_render d n · _) rfl rfl rfl rfl
  | @queues n k r o w hr compiles wants held =>
    by_cases current : r.version = d.engine.version
    · exact hc.compiles hd hr current (Point.ne_panel (Point.works_of_compiles compiles))
        (render?_put_render d n · _) rfl rfl ⟨nofun, nofun⟩ (.inl rfl)
    · exact hc.other_put hr current (render?_put_render d n · _) rfl rfl rfl rfl
  | @polls n r hr at_ current =>
    exact hc.compiles hd hr current (by rw [at_]; nofun)
      (render?_put_render d n · _) rfl rfl ⟨nofun, nofun⟩ (.inr rfl)
  | givesUp hr at_ late =>
      exact hc.other_without hr late (fun k => rfl) rfl rfl rfl (fun _ => rfl) rfl
  | @evaluates m n r code heard enters current =>
    exact hc.compiles hd enters.render? current (Point.ne_panel enters.idle)
      (render?_put_render d n · _) rfl rfl ⟨nofun, nofun⟩ (.inl rfl)
  | @reports m n r f heard enters current =>
    refine hc.fails hd enters.render? current (render?_put_render d n · _) rfl rfl rfl rfl ?_
    rw [touches_append, enters.touches]
    rfl
  | yields enters late =>
    refine hc.other_without enters.render? late (fun k => rfl) rfl rfl rfl (fun _ => rfl) ?_
    rw [touches_append, enters.touches]
    rfl
  | @mounts n r reply hr at_ ok current =>
    exact hc.mounts hd hr current at_
  | @fails n r o f hr at_ bad current =>
    exact hc.fails hd hr current (render?_put_render d n · _) rfl rfl rfl rfl rfl
  | @mounted n r reply hr at_ ok =>
    by_cases current : r.version = d.engine.version
    · rcases hc.current hd hr current with u | ⟨a, ha, failed⟩
      · exact .over hd ho (b := { d with engine := d.engine.mounted r.source }) hr current
          (by rw [at_]; rfl) u (fun k => rfl) rfl rfl (u.mounted current at_ ok)
      · exact .raised (List.mem_append_left _ ha) failed
    · refine hc.other_without (b := { d with engine := d.engine.mounted r.source }) hr current
        (fun k => rfl) rfl rfl rfl (fun idle => ?_) rfl
      rw [at_] at idle
      cases idle
  | @returns n r o hr works late bad =>
    by_cases current : r.version = d.engine.version
    · have at_ : r.point = .panel := late.resolve_right fun h => h current
      rcases hc.current hd hr current with u | ⟨a, ha, failed⟩
      · exact .over hd ho hr current works u (fun k => rfl) rfl rfl (u.shown current at_ rfl)
      · exact .raised (List.mem_append_left _ ha) failed
    · exact hc.other_without hr current (fun k => rfl) rfl rfl rfl (fun _ => rfl) rfl
  | raises hr at_ bad unreadable =>
    exact .raised (List.mem_append_right _ (List.mem_cons_of_mem _ (List.mem_singleton_self _))) rfl
  | cancels hr => cases goesOn

theorem course_after (s : Setup) (idle : d.Idle) {ms : List Move}
    (goesOn : ∀ m ∈ ms, m.goesOn = true) : Course (d.after s ms) (d.history s ms) := by
  have hp : (d.after s ms).Numbered ∧
      Course (d.after s ms) ((d.moments s ms).flatMap Moment.acts) := by
    refine run_steps (P := fun d ks => d.Numbered ∧ Course d (ks.flatMap Moment.acts)) idle.orderly
      ⟨idle.numbered, .unbegun idle.render? rfl⟩ ?_
    rintro m hm d ks ho step ⟨hd, hc⟩
    rw [acts_concat]
    exact ⟨numbered_step hd step, course_step (goesOn m hm) ho hd hc step⟩
  exact hp.2

/-- when nobody is at the desk any more, the newest render is settled -/
theorem settled_at_rest (s : Setup) (idle : d.Idle) {ms : List Move}
    (goesOn : ∀ m ∈ ms, m.goesOn = true) (rest : ∀ n, (d.after s ms).calls.find? n = none)
    (returned : ∀ a ∈ d.history s ms, a.deed.failed = false) {a : Act}
    (made : a ∈ d.history s ms) :
    ∃ n source, Settled (d.after s ms) (d.history s ms) n source := by
  cases course_after s idle goesOn with
  | unbegun no empty =>
    rw [empty] at made
    cases made
  | underway hr =>
    have h := render?_eq_some.mp hr
    rw [rest] at h
    cases h
  | raised mem failed =>
    rw [returned _ mem] at failed
    cases failed
  | settled settled => exact ⟨_, _, settled⟩

/-- the last change is also the last that the page is asked for -/
theorem getLast?_changes (s : Setup) (d : Desk) (ms : List Move) {n v : Nat} {source : String}
    {q : Request} (last : lastTouch (d.history s ms) = some ⟨n, v, source, .asks q⟩) :
    (changes (d.moments s ms)).getLast? = some (n, q) := by
  obtain ⟨pre, hpre⟩ := List.getLast?_eq_some_iff.mp last
  have touch : q.isTouch = true := by
    have mem : ⟨n, v, source, .asks q⟩ ∈ touches (d.history s ms) := List.mem_of_getLast? last
    exact (List.mem_filter.mp mem).2
  have asked : [(⟨n, v, source, .asks q⟩ : Act)].filterMap Act.touch? = [(n, q)] := by
    simp [Act.touch?, touch]
  rw [changes_moments, ← filterMap_touches, hpre, List.filterMap_append, asked,
    List.getLast?_concat]

/-- an error that stands after a render has begun was recorded by the newest -/
theorem recorded_after (s : Setup) (idle : d.Idle) {ms : List Move} {f : Failure}
    (error : (d.after s ms).engine.error = some f) {a : Act} (mem : a ∈ d.history s ms)
    (newest : a.version = (d.after s ms).engine.version) :
    Recorded f (d.after s ms).engine.version (d.moments s ms) := by
  rcases standing_after s idle ms f error with ⟨-, empty, -⟩ | ⟨v, recorded, highest, -⟩
  · rw [history, empty] at mem
    cases mem
  · obtain ⟨pre, k, post, hks, was, since, b, hb, rfl, sets⟩ := recorded
    have hb' : b ∈ d.history s ms := List.mem_flatMap.mpr ⟨k, by rw [hks]; simp, hb⟩
    have given := version_of_act s ms idle.orderly idle.numbered b hb'
    have high := highest a mem
    exact ⟨pre, k, post, hks, was, since, b, hb, by omega, sets⟩

/-- **The last call wins.**  When every call has returned, and none failed, the newest render is the
one that the engine and the page tell of: its snippet, which is the one that its call has asked for, was mounted
last and no error is recorded, or its error is recorded and was shown last. -/
theorem last_call_wins (s : Setup) (e : Engine) (ms : List Move)
    (goesOn : ∀ m ∈ ms, m.goesOn = true)
    (rest : ∀ n, (after s { engine := e } ms).calls.find? n = none)
    (returned : ∀ a ∈ history s { engine := e } ms, a.deed.failed = false)
    (made : ∃ a ∈ history s { engine := e } ms, a.deed = .begins) :
    ∃ n v source, v = (after s { engine := e } ms).engine.version ∧
      ⟨n, v, source, .begins⟩ ∈ history s { engine := e } ms ∧
      (∀ k ∈ moments s { engine := e } ms, k.Sourced) ∧
      (∀ a ∈ history s { engine := e } ms, a.version ≤ v) ∧
      (after s { engine := e } ms).engine.source = some source ∧
      ((after s { engine := e } ms).engine.error = none ∧
          (after s { engine := e } ms).engine.lastRendered = some source ∧
          (changes (moments s { engine := e } ms)).getLast? = some (n, .mount) ∧
          lastTouch (history s { engine := e } ms) = some ⟨n, v, source, .asks .mount⟩ ∧
          (∃ reply : Reply, reply.ok = true ∧ [⟨n, v, source, .asks .mount⟩,
            ⟨n, v, source, .hears .mount (.ok reply)⟩].Sublist (history s { engine := e } ms)) ∨
        ∃ f, (after s { engine := e } ms).engine.error = some f ∧
          Recorded f v (moments s { engine := e } ms) ∧
          (changes (moments s { engine := e } ms)).getLast? =
            some (n, .showError f.stage f.message) ∧
          lastTouch (history s { engine := e } ms) =
            some ⟨n, v, source, .asks (.showError f.stage f.message)⟩) := by
  have idle := idle_engine e
  have newest := version_of_act s ms idle.orderly idle.numbered
  obtain ⟨a, ha, -⟩ := made
  obtain ⟨n, source, settled⟩ := settled_at_rest s idle goesOn rest returned ha
  refine ⟨n, _, source, rfl, settled.begun, fun k => sourced_of_mem idle.orderly, newest, settled.wanted, ?_⟩
  cases settled.shows with
  | snippet error rendered last ok trace =>
    exact .inl ⟨error, rendered, getLast?_changes s _ ms last, last, _, ok, trace⟩
  | failure error last =>
    exact .inr ⟨_, error, recorded_after s idle error settled.begun rfl,
      getLast?_changes s _ ms last, last⟩

/-- two renders that overlap: the older has its text after the newer has the page -/
def overtaking : List Move :=
  [.start 0 (.render "a"), .start 1 (.render "b"), .answer 0 (.ok {}), .answer 1 (.ok {}),
    .answer 1 (.ok { code := some .null }), .answer 0 (.ok { code := some .null }),
    .answer 1 (.ok {}), .answer 1 (.ok {}), .resume 0]

theorem last_call_wins_overtaking :
    (∀ m ∈ overtaking, m.goesOn = true) ∧
    (∀ n, (after default { engine := { initialized := true } } overtaking).calls.find? n = none) ∧
    (∀ a ∈ history default { engine := { initialized := true } } overtaking,
      a.deed.failed = false) ∧
    (∃ a ∈ history default { engine := { initialized := true } } overtaking, a.deed = .begins) ∧
    (after default { engine := { initialized := true } } overtaking).engine.lastRendered =
      some "b" := by
  have goesOn : ∀ m ∈ overtaking, m.goesOn = true := by decide
  have rest :
      ∀ n, (after default { engine := { initialized := true } } overtaking).calls.find? n = none :=
    fun n => rfl
  have returned : ∀ a ∈ history default { engine := { initialized := true } } overtaking,
      a.deed.failed = false := by
    have all : (history default { engine := { initialized := true } } overtaking).all
        (fun a => !a.deed.failed) = true := rfl
    intro a ha
    simpa using List.all_eq_true.mp all a ha
  have made :
      ∃ a ∈ history default { engine := { initialized := true } } overtaking, a.deed = .begins :=
    ⟨_, List.mem_cons_self .., rfl⟩
  refine ⟨goesOn, rest, returned, made, ?_⟩
  obtain ⟨n, v, source, -, -, -, -, wanted, ⟨-, rendered, -⟩ | ⟨f, error, -⟩⟩ :=
    last_call_wins default { initialized := true } overtaking goesOn rest returned made
  · rw [rendered, ← wanted]
    rfl
  · cases error

end Desk

end SnippetStudio.Preview
