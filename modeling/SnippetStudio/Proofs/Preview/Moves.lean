import SnippetStudio.Proofs.Preview.Step

/-!
# Every move is a step

`Desk.move_step`: at an orderly desk every move is one of the steps.  The turns of a render are
taken one by one (`step_enter`, `step_want`, `step_fail`, `step_answer`), then the moves.

`Desk.asked_render`: what only renders ask is asked by a render, so the acts of a moment leave
nothing out.
-/

namespace SnippetStudio.Preview

namespace Desk

variable {s : Setup} {d d' : Desk} {m : Move} {n : Nat} {r : Render}

/-! ## turns -/

/-- what signals tell, behind lines for the log -/
def saying (before : Desk) (x : Desk × List Signal) : List Act := x.2.filterMap (before.told x.1)

section
variable {t : Turn} {b : Desk}

theorem settleHeld_ask {q : Request} (hq : t.next = .ask q) :
    (d.settleHeld n t).1 = { d.put n (.render t.render) with engine := t.engine } ∧
      b.saying (d.settleHeld n t) = [t.render.act n (.asks q)] := by
  simp only [saying, settleHeld, hq, List.filterMap_append, said_told]
  refine ⟨rfl, ?_⟩
  simp [told]

theorem settleHeld_done (hn : t.next = .done) (h : b.render? n = some r) :
    (d.settleHeld n t).1 = { d with engine := t.engine }.without n ∧
      b.saying (d.settleHeld n t) = [r.act n (.ends (.ok .nothing))] := by
  simp only [saying, settleHeld, hn, List.filterMap_append, said_told, leave_told, h]
  exact ⟨leave_fst .., rfl⟩

theorem settleHeld_failed {f : Fault} (hn : t.next = .failed f) (h : b.render? n = some r) :
    (d.settleHeld n t).1 = { d with engine := t.engine }.without n ∧
      b.saying (d.settleHeld n t) = [r.act n (.ends (.error f))] := by
  simp only [saying, settleHeld, hn, List.filterMap_append, said_told, leave_told, h]
  exact ⟨leave_fst .., rfl⟩

theorem settle_of_ne_want (h : ∀ w, t.next ≠ .want w) : d.settle n t = d.settleHeld n t := by
  unfold settle
  split
  · next w hw => exact absurd hw (h w)
  · rfl

end

/-- a render that gets the page and is over at once leaves the desk as if it had not got it -/
theorem without_of_enters (ho : d.Orderly) {w : Work} {acts : List Act}
    (enters : d.Enters m n r w acts) : { d with holder := some n }.without n = d.without n := by
  cases enters with
  | atOnce h compiles wants free => simp [without, pass, free, ho.free free]
  | inTurn h at_ held => simp [without, held]

/-- a render that gets the page: it goes to work if it is the newest, and is over otherwise -/
theorem step_enter (ho : d.Orderly) {w : Work} {acts : List Act} (enters : d.Enters m n r w acts) :
    Step s d m (d.enter n r w).1 (acts ++ d.saying (d.enter n r w)) := by
  have h : d.render? n = some r := by
    cases enters with
    | atOnce h => exact h
    | inTurn h => exact h
  unfold enter
  by_cases hv : r.version = d.engine.version
  · cases w with
    | mount code =>
      have ht :
          r.enter d.engine (.mount code) = Render.ask d.engine r .instantiate (.instantiate code) :=
        if_neg (by simp [Engine.supersedes, hv])
      obtain ⟨h1, h2⟩ := settleHeld_ask (d := { d with holder := some n }) (n := n) (b := d)
        (t := r.enter d.engine (.mount code)) (by rw [ht]; rfl)
      rw [h1, h2, ht]
      exact .evaluates enters hv
    | report f =>
      have ht := Render.fail_of_current f hv
      obtain ⟨h1, h2⟩ := settleHeld_ask (d := { d with holder := some n }) (n := n) (b := d)
        (t := r.fail d.engine f) (by rw [ht]; rfl)
      show Step s d m (settleHeld { d with holder := some n } n (r.fail d.engine f)).1
        (acts ++ d.saying (settleHeld { d with holder := some n } n (r.fail d.engine f)))
      rw [h1, h2, ht]
      exact .reports enters hv
  · have ht : (r.enter d.engine w).next = .done ∧ (r.enter d.engine w).engine = d.engine := by
      cases w with
      | mount code => simp [Render.enter, Engine.supersedes, hv, Render.done]
      | report f => simp [Render.enter, Render.fail, Engine.supersedes, hv, Render.done]
    obtain ⟨h1, h2⟩ := settleHeld_done (d := { d with holder := some n }) ht.1 h
    rw [h1, h2, ht.2, without_of_enters ho enters]
    exact .yields enters hv

/-- where the render has waited does not matter once it has the page -/
theorem enter_point (d : Desk) (n : Nat) (r : Render) (p : Point) (w : Work) :
    d.enter n { r with point := p } w = d.enter n r w := by
  by_cases hv : r.version = d.engine.version
  · cases w with
    | mount code => simp [enter, Render.enter, Engine.supersedes, hv, Render.ask]
    | report f => simp [enter, Render.enter, Render.fail, Engine.supersedes, hv, Render.ask]
  · cases w with
    | mount code => simp [enter, Render.enter, Engine.supersedes, hv, settleHeld, Render.done]
    | report f =>
        simp [enter, Render.enter, Render.fail, Engine.supersedes, hv, settleHeld, Render.done]

/-- a compiling render that wants the page gets it if it is free, and waits for it otherwise -/
theorem step_want (ho : d.Orderly) {o : Outcome} {w : Work} (h : d.render? n = some r)
    (compiles : r.point.compiles = true) (wants : Wants r o w) :
    Step s d (.answer n o) (d.settle n (r.want d.engine w)).1
      (r.act n (.hears r.point o) :: d.saying (d.settle n (r.want d.engine w))) := by
  cases hh : d.holder with
  | none =>
    have hs : d.settle n (r.want d.engine w) = d.enter n r w := by
      rw [← enter_point d n r (.queue w)]
      simp only [settle, Render.want, hh]
      rfl
    rw [hs]
    exact step_enter ho (.atOnce h compiles wants hh)
  | some k =>
    have hs : d.settle n (r.want d.engine w)
        = ({ d.put n (.render { r with point := .queue w }) with queue := d.queue ++ [n] },
        []) := by
      simp only [settle, Render.want]
      split
      · next free => rw [hh] at free; cases free
      · rfl
    rw [hs]
    exact .queues h compiles wants hh

theorem wants_of_compiled {w : Wrapped} {source : String} {o : Outcome} {a : Artifact}
    (at_ : r.point = .transform) (h : compiled w source o = .ok a) : Wants r o (.mount a.code) := by
  cases o with
  | error f => cases h
  | ok reply =>
    simp only [compiled] at h
    split at h
    · next ok =>
      split at h
      · next code hc =>
        cases h
        exact .code at_ ok hc
      · cases h
    · split at h <;> cases h

theorem step_trouble (ho : d.Orderly) {o : Outcome} (h : d.render? n = some r)
    (compiles : r.point.compiles = true) (t : Trouble) :
    Step s d (.answer n o) (d.settle n (r.trouble s d.engine t)).1
      (r.act n (.hears r.point o) :: d.saying (d.settle n (r.trouble s d.engine t))) := by
  cases t with
  | notReady message =>
    have h2 : d.saying (d.settle n (r.trouble s d.engine (.notReady message))) = [] := by
      simp only [saying, settle, settleHeld, Render.trouble, Render.wait, List.filterMap_append,
        said_told]
      rfl
    rw [h2]
    exact .waits h compiles
  | failure f => exact step_want ho h compiles .trouble
  | fault f => exact step_want ho h compiles .trouble

theorem step_fail {o : Outcome} (h : d.render? n = some r)
    (at_ : r.point = .instantiate ∨ r.point = .mount) (bad : isDone o = false) (f : Failure) :
    Step s d (.answer n o) (d.settle n (r.fail d.engine f)).1
      (r.act n (.hears r.point o) :: d.saying (d.settle n (r.fail d.engine f))) := by
  have works : r.point.works = true := by
    rcases at_ with e | e <;> rw [e] <;> rfl
  by_cases hv : r.version = d.engine.version
  · have ht := Render.fail_of_current f hv
    rw [settle_of_ne_want (fun w e => by rw [ht] at e; cases e)]
    obtain ⟨h1, h2⟩ := settleHeld_ask (d := d) (n := n) (b := d) (t := r.fail d.engine f)
      (by rw [ht]; rfl)
    rw [h1, h2, ht]
    exact .fails h at_ bad hv
  · have ht := Render.fail_of_late f hv
    rw [settle_of_ne_want (fun w e => by rw [ht.1] at e; cases e)]
    obtain ⟨h1, h2⟩ := settleHeld_done (d := d) ht.1 h
    rw [h1, h2, ht.2]
    exact .returns h works (.inr hv) fun _ => bad

theorem step_failWith {reply : Reply} (h : d.render? n = some r)
    (at_ : r.point = .instantiate ∨ r.point = .mount) (bad : reply.ok = false) (stage : Stage) :
    Step s d (.answer n (.ok reply)) (d.settle n (r.failWith d.engine stage reply.error)).1
      (r.act n (.hears r.point (.ok reply)) ::
        d.saying (d.settle n (r.failWith d.engine stage reply.error))) := by
  cases hm : Diagnostic.runtimeMessage reply.error with
  | ok message =>
    have ht : r.failWith d.engine stage reply.error = r.fail d.engine { stage, message } := by
      simp only [Render.failWith, hm]
    rw [ht]
    exact step_fail h at_ (o := .ok reply) bad _
  | error f =>
    have ht :
        r.failWith d.engine stage reply.error =
        { engine := d.engine, render := r, next := .failed f } := by
      simp only [Render.failWith, hm]
    rw [ht, settle_of_ne_want (fun w e => by cases e)]
    obtain ⟨h1, h2⟩ := settleHeld_failed (d := d) (b := d)
      (t := { engine := d.engine, render := r, next := .failed f }) rfl h
    rw [h1, h2]
    exact .raises h at_ bad hm

theorem step_answer (ho : d.Orderly) (h : d.render? n = some r) (awaits : r.point.awaits = true)
    (o : Outcome) : Step s d (.answer n o) (d.settle n (r.answer s d.engine o)).1
      (r.act n (.hears r.point o) :: d.saying (d.settle n (r.answer s d.engine o))) := by
  cases hp : r.point with
  | ready =>
    have compiles : r.point.compiles = true := by rw [hp]; rfl
    cases hr : readiness o with
    | ok _ =>
      have ht : r.answer s d.engine o
          = Render.ask d.engine r .transform (.transform (s.wrap r.source).text) := by
        simp only [Render.answer, hp, hr]
      obtain ⟨reply, rfl, ok⟩ : ∃ reply, o = .ok reply ∧ reply.ok = true := by
        cases o with
        | error f => cases hr
        | ok reply =>
          simp only [readiness] at hr
          split at hr
          · next ok => exact ⟨reply, rfl, ok⟩
          · cases hr
      obtain ⟨h1, h2⟩ := settleHeld_ask (d := d) (n := n) (b := d)
        (t := Render.ask d.engine r .transform (.transform (s.wrap r.source).text)) rfl
      rw [ht, settle_of_ne_want (fun w e => by cases e), h1, h2]
      exact .transforms h hp ok
    | error t =>
      have ht : r.answer s d.engine o = r.trouble s d.engine t := by
        simp only [Render.answer, hp, hr]
      rw [ht, ← hp]
      exact step_trouble ho h compiles t
  | transform =>
    have compiles : r.point.compiles = true := by rw [hp]; rfl
    cases hr : compiled (s.wrap r.source) r.source o with
    | ok a =>
      have ht : r.answer s d.engine o = r.want d.engine (.mount a.code) := by
        simp only [Render.answer, hp, hr]
      rw [ht, ← hp]
      exact step_want ho h compiles (wants_of_compiled hp hr)
    | error t =>
      have ht : r.answer s d.engine o = r.trouble s d.engine t := by
        simp only [Render.answer, hp, hr]
      rw [ht, ← hp]
      exact step_trouble ho h compiles t
  | pause => rw [hp] at awaits; cases awaits
  | queue w => rw [hp] at awaits; cases awaits
  | instantiate =>
    cases o with
    | error f =>
      have ht : r.answer s d.engine (.error f)
          = r.fail d.engine { stage := .instantiate, message := f.full } := by
        simp only [Render.answer, hp]
      rw [ht, ← hp]
      exact step_fail h (.inl hp) rfl _
    | ok reply =>
      cases ok : reply.ok with
      | false =>
        have ht :
            r.answer s d.engine (.ok reply) = r.failWith d.engine .instantiate reply.error := by
          simp [Render.answer, hp, ok]
        rw [ht, ← hp]
        exact step_failWith h (.inl hp) ok _
      | true =>
        by_cases hv : r.version = d.engine.version
        · have ht : r.answer s d.engine (.ok reply) = Render.ask d.engine r .mount .mount := by
            simp [Render.answer, hp, ok, Engine.supersedes, hv]
          obtain ⟨h1, h2⟩ := settleHeld_ask (d := d) (n := n) (b := d)
            (t := Render.ask d.engine r .mount .mount) rfl
          rw [ht, settle_of_ne_want (fun w e => by cases e), h1, h2]
          exact .mounts h hp ok hv
        · have ht : r.answer s d.engine (.ok reply) = Render.done d.engine r := by
            simp [Render.answer, hp, ok, Engine.supersedes, hv]
          obtain ⟨h1, h2⟩ := settleHeld_done (d := d) (t := Render.done d.engine r) rfl h
          rw [ht, settle_of_ne_want (fun w e => by cases e), h1, h2, ← hp]
          exact .returns h (by rw [hp]; rfl) (.inr hv) fun e => by rw [hp] at e; cases e
  | mount =>
    cases o with
    | error f =>
      have ht :
          r.answer s d.engine (.error f) = r.fail d.engine
          { stage := .render, message := f.full } := by
        simp only [Render.answer, hp]
      rw [ht, ← hp]
      exact step_fail h (.inr hp) rfl _
    | ok reply =>
      cases ok : reply.ok with
      | false =>
        have ht : r.answer s d.engine (.ok reply)
            = r.failWith d.engine (Render.mountStage reply.error) reply.error := by
          simp [Render.answer, hp, ok]
        rw [ht, ← hp]
        exact step_failWith h (.inr hp) ok _
      | true =>
        have ht : r.answer s d.engine (.ok reply) = Render.done (d.engine.mounted r.source) r := by
          simp [Render.answer, hp, ok]
        obtain ⟨h1, h2⟩ :=
          settleHeld_done (d := d) (t := Render.done (d.engine.mounted r.source) r) rfl h
        rw [ht, settle_of_ne_want (fun w e => by cases e), h1, h2]
        exact .mounted h hp ok
  | panel =>
    have ht : (r.answer s d.engine o).next = .done ∧ (r.answer s d.engine o).engine = d.engine := by
      cases o with
      | error f => simp [Render.answer, hp, Render.done]
      | ok reply => simp [Render.answer, hp, Render.done]
    obtain ⟨h1, h2⟩ := settleHeld_done (d := d) ht.1 h
    rw [settle_of_ne_want (fun w e => by rw [ht.1] at e; cases e), h1, h2, ht.2, ← hp]
    exact .returns h (by rw [hp]; rfl) (.inl hp) fun e => by rw [hp] at e; cases e

/-! ## moves -/

theorem Aside.refl (d : Desk) (m : Move) : d.Aside m d :=
  ⟨fun _ => rfl, ⟨d.engine.initialized, d.engine.version, rfl, .inl rfl⟩, rfl, rfl⟩

theorem aside_put {c : Call} (hc : ∀ r, c ≠ .render r) (hn : d.render? n = none) :
    d.Aside m (d.put n c) := by
  refine ⟨fun k => ?_, ⟨d.engine.initialized, d.engine.version, rfl, .inl rfl⟩, rfl, rfl⟩
  simp only [render?, put, Roster.find?_put]
  by_cases h : k = n
  · rw [if_pos h, h]
    cases c with
    | render r => exact absurd rfl (hc r)
    | _ => exact hn.symm
  · rw [if_neg h]

theorem aside_without (ho : d.Orderly) (hn : d.render? n = none) (i : Bool) :
    d.Aside m ({ d with engine := { d.engine with initialized := i } }.without n) := by
  have held : d.holder ≠ some n := by
    intro e
    obtain ⟨r, hr, -⟩ := ho.holder_render n e
    rw [hn] at hr
    cases hr
  have idle : n ∉ d.queue := by
    intro e
    obtain ⟨-, r, w, hr, -⟩ := ho.queue_render n e
    rw [hn] at hr
    cases hr
  rw [without_of_idle (d := { d with engine := { d.engine with initialized := i } }) held idle]
  refine ⟨fun k => ?_, ⟨i, d.engine.version, rfl, .inl rfl⟩, rfl, rfl⟩
  show render? { d with calls := d.calls.drop n } k = _
  simp only [render?, Roster.find?_drop]
  by_cases h : k = n
  · rw [if_pos h, h]
    exact hn.symm
  · rw [if_neg h]

theorem acts_start (d d' : Desk) (n : Nat) (c : Command) (signals : List Signal) :
    Moment.acts ⟨d, .start n c, d', signals⟩
      = d.begun d' (.start n c) ++ d.saying (d', signals) := rfl

theorem begun_of_none {c : Command} (h : d'.render? n = none) : d.begun d' (.start n c) = [] := by
  simp only [begun, h]
  cases d.render? n <;> rfl

theorem step_startRender {c : Command} {source : String} (free : d.calls.find? n = none)
    (initialized : d.engine.initialized = true) (renders : c.renders d.engine source) :
    Step s d (.start n c) (d.startRender n source).1
      (d.begun (d.startRender n source).1 (.start n c) ++ d.saying (d.startRender n source)) := by
  have ht :
      Render.poll (d.engine.request source) { version := (d.engine.request source).version, source }
      = Render.ask { d.engine.request source with error := none }
          { version := d.engine.version + 1, source } .ready .compilerReady :=
    if_neg (by simp [Engine.supersedes])
  have hs : d.startRender n source
      = d.settleHeld n (Render.ask { d.engine.request source with error := none }
          { version := d.engine.version + 1, source } .ready .compilerReady) := by
    show d.settle n (Render.poll (d.engine.request source)
      { version := (d.engine.request source).version, source }) = _
    rw [ht]
    exact settle_of_ne_want (fun w e => by cases e)
  obtain ⟨h1, h2⟩ := settleHeld_ask (d := d) (n := n) (b := d)
    (t := Render.ask { d.engine.request source with error := none }
      { version := d.engine.version + 1, source } .ready .compilerReady) rfl
  rw [hs, h1, h2]
  show Step s d (.start n c) (d.newest n source) (d.begun (d.newest n source) (.start n c) ++ _)
  rw [begun_newest free]
  exact .begins free initialized renders

theorem step_start (free : d.calls.find? n = none) (c : Command) :
    Step s d (.start n c) (d.start n c).1
      (d.begun (d.start n c).1 (.start n c) ++ d.saying (d.start n c)) := by
  have hn : d.render? n = none := by simp only [render?, free]
  have nothing : ∀ x : Desk × List Signal, x.1 = d → d.saying x = [] →
      Step s d (.start n c) x.1 (d.begun x.1 (.start n c) ++ d.saying x) := by
    intro x hx hs
    rw [hx, hs, begun_of_none hn]
    exact .aside (.refl d _)
  have other : ∀ (e : Engine) (k : Call) (q : Request), (∀ r, k ≠ .render r) →
      d.Aside (.start n c) (put { d with engine := e } n k) →
      Step s d (.start n c) (put { d with engine := e } n k)
        (d.begun (put { d with engine := e } n k) (.start n c) ++
          d.saying (put { d with engine := e } n k, [.asked n q])) := by
    intro e k q hk ha
    have hn' : (put { d with engine := e } n k).render? n = none := by rw [ha.render?, hn]
    have hs : d.saying (put { d with engine := e } n k, [.asked n q]) = [] := by
      simp [saying, told, hn']
    rw [hs, begun_of_none hn']
    exact .aside ha
  cases c with
  | makeRoot =>
    simp only [start]
    split
    · exact nothing _ rfl (by simp [saying, told, hn])
    · exact other d.engine .makeRoot .createRoot (fun r e => by cases e)
        (aside_put (fun r e => by cases e) hn)
  | render source =>
    simp only [start]
    split
    · next init => exact step_startRender free init rfl
    · exact nothing _ rfl (by simp [saying, refuse, told, hn])
  | refresh =>
    simp only [start]
    split
    · exact nothing _ rfl (by simp [saying, refuse, told, hn])
    · next init =>
      split
      · exact nothing _ rfl (by simp [saying, told, hn])
      · next source hs => exact step_startRender free (by simpa using init) hs
  | shutdown =>
    have ha := aside_put (d := d) (n := n) (m := .start n .shutdown) (c := .shutdown)
      (fun r e => by cases e) hn
    refine other { d.engine with initialized := false, version := d.engine.version + 1 }
      .shutdown .stop (fun r e => by cases e)
        ⟨ha.render?, ⟨false, d.engine.version + 1, rfl, .inr ⟨rfl, n, rfl⟩⟩, rfl, rfl⟩
  | html =>
    simp only [start]
    split
    · exact other d.engine .html .html (fun r e => by cases e)
        (aside_put (fun r e => by cases e) hn)
    · exact nothing _ rfl (by simp [saying, refuse, told, hn])
  | screenshot =>
    simp only [start]
    split
    · exact other d.engine .screenshot .screenshot (fun r e => by cases e)
        (aside_put (fun r e => by cases e) hn)
    · exact nothing _ rfl (by simp [saying, refuse, told, hn])

theorem initialized_step (ho : d.Orderly) (hn : d.render? n = none) (created : Bool) :
    d.Aside m (d.initialized n created).1 ∧ d.saying (d.initialized n created) = [] := by
  constructor
  · show d.Aside m
      (leave { d with engine := { d.engine with initialized := true } } n (.ok .nothing)).1
    rw [leave_fst]
    exact aside_without ho hn true
  · have h := leave_told { d with engine := { d.engine with initialized := true } } d
      (d.initialized n created).1 n (.ok .nothing)
    simp only [hn, Option.map_none, Option.toList_none] at h
    simp only [saying]
    rw [List.filterMap_eq_nil_iff] at h ⊢
    intro x hx
    rcases List.mem_append.mp hx with hx | hx
    · cases created
      · rw [List.mem_singleton.mp hx]
        rfl
      · cases hx
    · rcases List.mem_cons.mp hx with rfl | hx
      · rfl
      · exact h x hx

theorem aside_answer (ho : d.Orderly) (hn : d.render? n = none) (o : Outcome) :
    d.Aside (.answer n o) (d.answer s n o).1 ∧ d.saying (d.answer s n o) = [] := by
  have left : ∀ result, d.Aside (.answer n o) (d.leave n result).1 ∧
      d.saying (d.leave n result) = [] := by
    intro result
    rw [leave_fst, saying, leave_told, hn]
    exact ⟨aside_without ho hn d.engine.initialized, rfl⟩
  unfold answer
  cases hc : d.calls.find? n with
  | none => exact ⟨.refl d _, rfl⟩
  | some c =>
    cases c with
    | render r =>
      rw [render?_eq_some.mpr hc] at hn
      cases hn
    | makeRoot =>
      cases o with
      | error f => exact left _
      | ok reply => exact initialized_step ho hn reply.ok
    | shutdown =>
      cases o with
      | error f => exact left _
      | ok reply => exact left _
    | html =>
      cases o with
      | error f => exact left _
      | ok reply => exact left _
    | screenshot =>
      cases o with
      | error f => exact left _
      | ok reply => exact left _

theorem moment_answer (ho : d.Orderly) (o : Outcome) :
    Step s d (.answer n o) (d.answer s n o).1
      (d.heard (.answer n o) ++ d.saying (d.answer s n o)) := by
  cases hr : d.render? n with
  | none =>
    have h := aside_answer (s := s) ho hr o
    have hh : d.heard (.answer n o) = [] := by simp only [heard, hr]
    rw [h.2, hh]
    exact .aside h.1
  | some r =>
    have hc := render?_eq_some.mp hr
    cases ha : r.point.awaits with
    | false =>
      have hs : d.answer s n o = (d, []) := by
        simp only [answer, hc]
        cases hp : r.point with
        | pause => rfl
        | queue w => rfl
        | _ => rw [hp] at ha; cases ha
      have hh : d.heard (.answer n o) = [] := by simp [heard, hr, ha]
      rw [hs, hh]
      exact .aside (.refl d _)
    | true =>
      have hs : d.answer s n o = d.settle n (r.answer s d.engine o) := by
        simp only [answer, hc]
        cases hp : r.point with
        | pause => rw [hp] at ha; cases ha
        | queue w => rw [hp] at ha; cases ha
        | _ => rfl
      have hh : d.heard (.answer n o) = [r.act n (.hears r.point o)] := by simp [heard, hr, ha]
      rw [hs, hh]
      exact step_answer ho hr ha o

/-- an older render does not poll again -/
theorem poll_late (h : d.render? n = some r) (late : r.version ≠ d.engine.version) :
    (d.settle n (r.poll d.engine)).1 = d.without n ∧
      d.saying (d.settle n (r.poll d.engine)) = [r.act n (.ends (.ok .nothing))] := by
  have ht : r.poll d.engine = Render.done d.engine r := if_pos (by simp [Engine.supersedes, late])
  rw [ht, settle_of_ne_want (fun w e => by cases e)]
  exact settleHeld_done (t := Render.done d.engine r) rfl h

theorem moment_resume (ho : d.Orderly) :
    Step s d (.resume n) (d.resume n).1 (d.saying (d.resume n)) := by
  unfold resume
  cases hc : d.calls.find? n with
  | none => exact .aside (.refl d _)
  | some c =>
    cases c with
    | render r =>
      have hr := render?_eq_some.mpr hc
      simp only
      cases hp : r.point with
      | pause =>
        by_cases hv : r.version = d.engine.version
        · have ht : r.poll d.engine
              = Render.ask { d.engine with error := none } r .ready .compilerReady :=
            if_neg (by simp [Engine.supersedes, hv])
          obtain ⟨h1, h2⟩ := settleHeld_ask (d := d) (n := n) (b := d)
            (t := Render.ask { d.engine with error := none } r .ready .compilerReady) rfl
          simp only
          rw [ht, settle_of_ne_want (fun w e => by cases e), h1, h2]
          exact .polls hr hp hv
        · obtain ⟨h1, h2⟩ := poll_late hr hv
          simp only
          rw [h1, h2]
          exact .givesUp hr hp hv
      | queue w =>
        simp only
        split
        · next held => exact step_enter ho (.inTurn hr hp held)
        · exact .aside (.refl d _)
      | _ => exact .aside (.refl d _)
    | _ => exact .aside (.refl d _)

theorem moment_cancel (ho : d.Orderly) :
    Step s d (.cancel n) (d.cancel n).1 (d.saying (d.cancel n)) := by
  unfold cancel
  cases hc : d.calls.find? n with
  | none => exact .aside (.refl d _)
  | some c =>
    simp only [saying, leave_fst, leave_told]
    cases hr : d.render? n with
    | some r => exact .cancels hr
    | none => exact .aside (aside_without ho hr d.engine.initialized)

/-- **Every move is one of the steps.** -/
theorem move_step (s : Setup) (ho : d.Orderly) (m : Move) :
    Step s d m (d.move s m).1 (d.moment s m).acts := by
  cases m with
  | start n c =>
    cases hc : d.calls.find? n with
    | none =>
      have hm : d.move s (.start n c) = d.start n c := by simp [move, hc]
      simp only [moment, hm]
      exact step_start hc c
    | some k =>
      have hm : d.move s (.start n c) = (d, []) := by simp [move, hc]
      have hb : d.begun d (.start n c) = [] := by
        simp only [begun]
        cases d.render? n <;> rfl
      simp only [moment, hm]
      rw [acts_start, hb]
      exact .aside (.refl d _)
  | answer n o =>
    show Step s d _ (d.answer s n o).1 (d.heard (.answer n o) ++ [] ++ d.saying (d.answer s n o))
    rw [List.append_nil]
    exact moment_answer ho o
  | resume n => exact moment_resume ho
  | cancel n => exact moment_cancel ho

/-! ## who asks -/

/-- what only renders ask is asked by a render that is under way now -/
def Asked (x : Desk × List Signal) : Prop :=
  ∀ n q, .asked n q ∈ x.2 → q.isStage = true → ∃ r, x.1.render? n = some r

theorem Asked.said {x : Desk × List Signal} (h : Asked x) (lines : List String) :
    Asked (x.1, lines.map Signal.said ++ x.2) := by
  intro k q hx hq
  rcases List.mem_append.mp hx with hx | hx
  · obtain ⟨line, -, e⟩ := List.mem_map.mp hx
    cases e
  · exact h k q hx hq

theorem asked_leave (d : Desk) (n : Nat) (result : Except Fault Result) :
    Asked (d.leave n result) := by
  intro k q hx hq
  simp only [leave] at hx
  rcases List.mem_append.mp hx with hx | hx
  · split at hx
    · simp only [pass] at hx
      split at hx
      · cases hx
      · cases List.mem_singleton.mp hx
    · cases hx
  · cases List.mem_singleton.mp hx

theorem asked_settleHeld (d : Desk) (n : Nat) (t : Turn) : Asked (d.settleHeld n t) := by
  unfold settleHeld
  split
  · next q hn =>
    refine Asked.said (x := (put { d with engine := t.engine } n (.render t.render), [.asked n q]))
      ?_ t.lines
    intro k q' hx hq
    cases List.mem_singleton.mp hx
    exact ⟨t.render, by rw [render?_put_render, if_pos rfl]⟩
  · refine Asked.said (x := (put { d with engine := t.engine } n (.render t.render), [.paused n]))
      ?_ t.lines
    intro k q hx hq
    cases List.mem_singleton.mp hx
  · intro k q hx hq
    obtain ⟨line, -, e⟩ := List.mem_map.mp hx
    cases e
  · exact (asked_leave _ n _).said t.lines
  · exact (asked_leave _ n _).said t.lines

theorem asked_settle (d : Desk) (n : Nat) (t : Turn) : Asked (d.settle n t) := by
  unfold settle
  split
  · dsimp only
    split
    · exact Asked.said (asked_settleHeld _ n _) t.lines
    · intro k q hx hq
      obtain ⟨line, -, e⟩ := List.mem_map.mp hx
      cases e
  · exact asked_settleHeld d n t

theorem asked_askOnce (d : Desk) (n : Nat) (c : Call) {q : Request} (hq : q.isStage = false) :
    Asked (d.askOnce n c q) := by
  intro k q' hx hq'
  cases List.mem_singleton.mp hx
  rw [hq] at hq'
  cases hq'

theorem asked_start (d : Desk) (n : Nat) (c : Command) : Asked (d.start n c) := by
  have refused : ∀ o, Asked (d.refuse n o) := by
    intro o k q hx hq
    cases List.mem_singleton.mp hx
  cases c with
  | makeRoot =>
    simp only [start]
    split
    · intro k q hx hq
      simp at hx
    · exact asked_askOnce d n _ rfl
  | render source =>
    simp only [start]
    split
    · exact asked_settle d n _
    · exact refused _
  | refresh =>
    simp only [start]
    split
    · exact refused _
    · split
      · intro k q hx hq
        simp at hx
      · next source hs =>
        exact Asked.said (x := d.startRender n source) (asked_settle d n _)
          [if d.engine.lastRendered = some source then
              "[preview] Refresh: source unchanged, re-running"
            else "[preview] Refresh: retrying source that has not rendered yet"]
  | shutdown => exact asked_askOnce _ n _ rfl
  | html =>
    simp only [start]
    split
    · exact asked_askOnce d n _ rfl
    · exact refused _
  | screenshot =>
    simp only [start]
    split
    · exact asked_askOnce d n _ rfl
    · exact refused _

theorem asked_initialized (d : Desk) (n : Nat) (created : Bool) :
    Asked (d.initialized n created) := by
  have left := asked_leave { d with engine := { d.engine with initialized := true } } n
    (.ok .nothing)
  cases created with
  | true => exact left.said ["[preview] Mount root ready"]
  | false =>
      exact left.said
        ["[preview] Host already had a root, reusing it", "[preview] Mount root ready"]

/-- **Polls and everything that changes the page come from renders.** -/
theorem asked_render (s : Setup) (d : Desk) (m : Move) : Asked (d.move s m) := by
  have none : Asked (d, []) := fun k q hx => by cases hx
  cases m with
  | start n c =>
    simp only [move]
    split
    · exact none
    · exact asked_start d n c
  | answer n o =>
    simp only [move, answer]
    split
    · exact none
    · split
      · exact none
      · exact none
      · exact asked_settle d n _
    · exact asked_leave d n _
    · exact asked_initialized d n _
    · exact asked_leave d n _
    · exact asked_leave d n _
    · exact asked_leave d n _
  | resume n =>
    simp only [move, resume]
    split
    · split
      · exact asked_settle d n _
      · split
        · exact asked_settleHeld _ n _
        · exact none
      · exact none
    · exact none
  | cancel n =>
    simp only [move, cancel]
    split
    · exact none
    · exact asked_leave d n _

end Desk

end SnippetStudio.Preview
