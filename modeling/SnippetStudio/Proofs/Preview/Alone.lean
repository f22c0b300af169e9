import SnippetStudio.Proofs.Diagnostic.Reading
import SnippetStudio.Proofs.Preview.Visits

/-!
# A render alone

What a render comes to when no other call is under way is told by a plain recursion through its stages
(`reference`): the first stage that fails gives the failure, and without one the snippet is mounted.

* `Talks`         a page that answers a call until it returns, one request after the other;
* `Talks.fails`   a stage that fails has the panel asked for, and then the call is over, whatever the
                  panel says;
* `render_alone`  **a render alone comes to its reference**.

A page is a function of what it is asked, since a render asks nothing twice when its compiler is ready.
-/

namespace SnippetStudio.Preview

open Diagnostic Text

/-- what a visit fails with -/
def Visit.failure? : Visit → Option Failure
  | panel f | refused _ f | failed _ f => some f
  | evaluated _ | mounted _ => none

def Request.isPanel : Request → Bool
  | .showError .. => true
  | _ => false

/-- a visit asks for the panel once, with what it fails with, and not at all when it does not fail -/
theorem Visit.panels (v : Visit) :
    v.requests.filter Request.isPanel = v.failure?.toList.map fun f => .showError f.stage f.message := by
  cases v <;> rfl

/-- the compiled text in an answer of the compiler, or the failure that the answer is -/
def compileStage (w : Wrapped) : Outcome → Except Failure Json
  | .error f => .error { stage := .compile, message := if f.kind = .compile then f.message else f.full }
  | .ok reply =>
    if reply.ok then
      match reply.code with
      | some code => .ok code
      | none => .error { stage := .compile, message := (Fault.key "code").full }
    else
      match compileFailure reply.error w.lineOffset (some w.userLines) with
      | .ok f => .error f
      | .error f => .error { stage := .compile, message := f.full }

/-- a text that was evaluated is mounted -/
def mountStage (page : Request → Outcome) (code : Json) : Except Fault Visit :=
  match page .mount with
  | .error f => return .failed code { stage := .render, message := f.full }
  | .ok reply =>
    if reply.ok then return .mounted code
    else
      let stage := if isReference reply.error then .instantiate else .render
      return .failed code { stage, message := ← runtimeMessage reply.error }

/-- a compiled text is evaluated, and then mounted -/
def evaluateStage (page : Request → Outcome) (code : Json) : Except Fault Visit :=
  match page (.instantiate code) with
  | .error f => return .refused code { stage := .instantiate, message := f.full }
  | .ok reply =>
    if reply.ok then mountStage page code
    else return .refused code { stage := .instantiate, message := ← runtimeMessage reply.error }

/-- what a render comes to when nothing else goes on -/
def reference (s : Setup) (page : Request → Outcome) (source : String) : Except Fault Visit :=
  match compileStage (s.wrap source) (page (.transform (s.wrap source).text)) with
  | .error f => return .panel f
  | .ok code => evaluateStage page code

/-- what is recorded at the end of a render: its failure, or the snippet that is mounted -/
def Engine.recorded (e : Engine) (source : String) : Option Failure → Engine
  | none => e.mounted source
  | some f => { e with error := some f }

/-- a page whose compiler is ready, and which describes its errors legibly -/
structure Obliging (page : Request → Outcome) : Prop where
  ready : ∃ reply, page .compilerReady = .ok reply ∧ reply.ok = true
  transform : ∀ text f, page (.transform text) = .error f → f.kind ≠ .notReady
  instantiate : ∀ code reply, page (.instantiate code) = .ok reply → reply.ok = false →
    Shaped reply.error ∧ ¬Overlong reply.error
  mount : ∀ reply, page .mount = .ok reply → reply.ok = false → Shaped reply.error ∧ ¬Overlong reply.error

def Signal.isSpoken : Signal → Bool
  | .said _ => false
  | _ => true

/-- what happens but for the lines of the log -/
def spoken (signals : List Signal) : List Signal := signals.filter Signal.isSpoken

theorem spoken_append (xs ys : List Signal) : spoken (xs ++ ys) = spoken xs ++ spoken ys := List.filter_append ..

@[simp] theorem spoken_said (lines : List String) : spoken (lines.map .said) = [] := by
  rw [spoken, List.filter_eq_nil_iff]
  intro x hx
  obtain ⟨line, -, rfl⟩ := List.mem_map.mp hx
  exact Bool.false_ne_true

theorem exists_message {error : Json} (described : Shaped error ∧ ¬Overlong error) :
    ∃ message, runtimeMessage error = .ok message := by
  cases h : runtimeMessage error with
  | ok message => exact ⟨message, rfl⟩
  | error f => exact absurd (overlong_of_runtimeMessage described.1 h) described.2

theorem stage_compileFailure {error : Json} {lineOffset : Int} {userLines : Option Int} {f : Failure}
    (h : compileFailure error lineOffset userLines = .ok f) : f.stage = .compile := by
  obtain ⟨_, _, _, _, _, _, rfl⟩ := compileFailure_eq_ok_iff.mp h
  rfl

/-- a failure of the compiler belongs to its stage -/
theorem stage_compileStage {w : Wrapped} {o : Outcome} {f : Failure} (h : compileStage w o = .error f) :
    f.stage = .compile := by
  cases o with
  | error g =>
    cases h
    rfl
  | ok reply =>
    simp only [compileStage] at h
    split at h
    · split at h
      · cases h
      · cases h
        rfl
    · split at h
      · next g hg =>
        cases h
        exact stage_compileFailure hg
      · cases h
        rfl

/-- at the compiler a render goes on to the page, with the text or with the failure -/
theorem Render.answer_transform {s : Setup} {r : Render} (e : Engine) (at_ : r.point = .transform) {o : Outcome}
    (loaded : ∀ f, o = .error f → f.kind ≠ .notReady) :
    r.answer s e o = match compileStage (s.wrap r.source) o with
      | .error f => r.want e (.report f)
      | .ok code => r.want e (.mount code) := by
  simp only [answer, at_]
  cases o with
  | error f =>
    have kind := loaded f rfl
    simp only [compiled, compileStage, Trouble.ofFault]
    split
    · next h => exact absurd h kind
    · next h => rw [if_pos h, trouble]
    · next h => rw [if_neg h, trouble]
  | ok reply =>
    cases ok : reply.ok with
    | true => cases code : reply.code <;> simp [compiled, compileStage, ok, code, trouble]
    | false =>
      cases told : compileFailure reply.error (s.wrap r.source).lineOffset (some (s.wrap r.source).userLines) <;>
        simp [compiled, compileStage, ok, told, trouble]

namespace Desk

variable {s : Setup} {page : Request → Outcome} {d d' : Desk} {n : Nat} {q q' : Request} {qs : List Request}

/-- the page answers the call n what it asks, these requests, and then the call returns -/
inductive Talks (s : Setup) (page : Request → Outcome) (n : Nat) : Desk → List Request → Desk → Prop
  | last {d d' : Desk} {q : Request} (lines : List String)
      (h : d.move s (.answer n (page q)) = (d', lines.map .said ++ [.returned n (.ok .nothing)])) :
      Talks s page n d [q] d'
  | next {d d₁ d' : Desk} {q q' : Request} {qs : List Request} (lines : List String)
      (h : d.move s (.answer n (page q)) = (d₁, lines.map .said ++ [.asked n q']))
      (rest : Talks s page n d₁ (q' :: qs) d') : Talks s page n d (q :: q' :: qs) d'

/-- the answers of a page to what a call asks -/
def answers (page : Request → Outcome) (n : Nat) (qs : List Request) : List Move :=
  qs.map fun q => .answer n (page q)

theorem spoken_moment {m : Move} (lines : List String) {x : Signal}
    (h : d.move s m = (d', lines.map .said ++ [x])) (heard : x.isSpoken = true) :
    spoken (d.moment s m).signals = [x] := by
  rw [moment, h, spoken_append, spoken_said, List.nil_append]
  exact List.filter_eq_self.mpr (List.forall_mem_singleton.mpr heard)

theorem after_cons (d : Desk) (m : Move) (ms : List Move) :
    d.after s (m :: ms) = after s (d.move s m).1 ms := rfl

/-- **A talk as a run**: each answer is followed by the next request, and the last by the return. -/
theorem Talks.run (talks : Talks s page n d qs d') :
    d.after s (answers page n qs) = d' ∧
      ((d.moments s (answers page n qs)).map fun k => spoken k.signals) =
        qs.tail.map (fun q => [.asked n q]) ++ [[.returned n (.ok .nothing)]] := by
  induction talks with
  | last lines h =>
    refine ⟨congrArg Prod.fst h, ?_⟩
    rw [answers, List.map_singleton, moments, List.map_cons, spoken_moment lines h rfl]
    rfl
  | @next d d₁ _ q _ _ lines h rest ih =>
    obtain ⟨at_end, heard⟩ := ih
    have went : (d.move s (.answer n (page q))).1 = d₁ := congrArg Prod.fst h
    constructor
    · rw [← at_end, ← went]
      exact after_cons ..
    · rw [answers, List.map_cons, moments, List.map_cons, spoken_moment lines h rfl, went]
      exact congrArg _ heard

/-! ## The desk of one render -/

/-- a render that nobody else is beside -/
def alone (e : Engine) (n : Nat) (r : Render) (holder : Option Nat) : Desk :=
  { engine := e, calls := ⟨[(n, .render r)]⟩, holder }

variable {e : Engine} {r : Render} {holder : Option Nat} {t : Turn}

theorem move_alone (awaits : r.point.awaits = true) (o : Outcome) :
    (alone e n r holder).move s (.answer n o) = (alone e n r holder).settle n (r.answer s e o) := by
  have found : (alone e n r holder).calls.find? n = some (.render r) := by simp [alone, Roster.find?]
  simp only [move, answer, found]
  cases at_ : r.point with
  | pause | queue => rw [at_] at awaits; cases awaits
  | _ => rfl

theorem settleHeld_alone_ask (hq : t.next = .ask q) :
    (alone e n r holder).settleHeld n t = (alone t.engine n t.render holder, t.lines.map .said ++ [.asked n q]) := by
  simp [settleHeld, hq, alone, put, Roster.put, Roster.drop]

theorem settleHeld_alone_done (hn : t.next = .done) :
    (alone e n r (some n)).settleHeld n t =
      ({ engine := t.engine }, t.lines.map .said ++ [.returned n (.ok .nothing)]) := by
  simp [settleHeld, hn, alone, leave, pass, Roster.drop]

theorem settle_alone_want (w : Work) :
    (alone e n r none).settle n (r.want e w) = (alone e n r (some n)).settleHeld n (r.enter e w) := by
  show (alone e n r none).enter n { r with point := .queue w } w = _
  rw [enter_point]
  rfl

namespace Talks

theorem goes (awaits : r.point.awaits = true) (ht : r.answer s e (page q) = t) (hq : t.next = .ask q')
    (rest : Talks s page n (alone t.engine n t.render holder) (q' :: qs) d') :
    Talks s page n (alone e n r holder) (q :: q' :: qs) d' := by
  refine .next t.lines ?_ rest
  rw [move_alone awaits, ht, settle_of_ne_want (fun w hw => nomatch hq.symm.trans hw), settleHeld_alone_ask hq]

theorem enters {w : Work} (awaits : r.point.awaits = true) (ht : r.answer s e (page q) = r.want e w)
    (hq : (r.enter e w).next = .ask q')
    (rest : Talks s page n (alone (r.enter e w).engine n (r.enter e w).render (some n)) (q' :: qs) d') :
    Talks s page n (alone e n r none) (q :: q' :: qs) d' := by
  refine .next (r.enter e w).lines ?_ rest
  rw [move_alone awaits, ht, settle_alone_want, settleHeld_alone_ask hq]

theorem ends (awaits : r.point.awaits = true) (ht : r.answer s e (page q) = t) (hn : t.next = .done) :
    Talks s page n (alone e n r (some n)) [q] { engine := t.engine } := by
  refine .last t.lines ?_
  rw [move_alone awaits, ht, settle_of_ne_want (fun w hw => nomatch hn.symm.trans hw), settleHeld_alone_done hn]

theorem panel (at_ : r.point = .panel) : Talks s page n (alone e n r (some n)) [q] { engine := e } := by
  have awaits : r.point.awaits = true := by rw [at_]; rfl
  obtain ⟨done, same⟩ : (r.answer s e (page q)).next = .done ∧ (r.answer s e (page q)).engine = e := by
    cases page q <;> simp [Render.answer, at_, Render.done]
  have ended := ends (n := n) awaits rfl done
  rwa [same] at ended

/-- a stage that fails has the panel asked for, and then the call is over -/
theorem fails {f : Failure} (awaits : r.point.awaits = true) (current : r.version = e.version)
    (ht : r.answer s e (page q) = r.fail e f) :
    Talks s page n (alone e n r (some n)) [q, .showError f.stage f.message]
      { engine := { e with error := some f } } := by
  rw [Render.fail_of_current f current] at ht
  exact goes awaits ht rfl (panel rfl)

end Talks

theorem startRender_alone (source : String) : startRender { engine := e } n source =
    (alone { e.request source with error := none } n { version := e.version + 1, source } none,
      [.asked n .compilerReady]) := by
  simp [startRender, settle, settleHeld, Render.poll, Render.ask, Engine.supersedes, Engine.request, alone, put,
    Roster.put, Roster.drop]

theorem start_alone {c : Command} {source : String} (initialized : e.initialized = true)
    (renders : c.renders e source) : ∃ lines : List String, ({ engine := e } : Desk).move s (.start n c) =
      (alone { e.request source with error := none } n { version := e.version + 1, source } none,
        lines.map .said ++ [.asked n .compilerReady]) := by
  cases c with
  | render text =>
    obtain rfl : text = source := renders
    refine ⟨[], ?_⟩
    show (if e.initialized = true then startRender _ _ _ else _) = _
    rw [if_pos initialized, startRender_alone]
    rfl
  | refresh =>
    have last : e.source = some source := renders
    refine ⟨[if e.lastRendered = some source then "[preview] Refresh: source unchanged, re-running"
      else "[preview] Refresh: retrying source that has not rendered yet"], ?_⟩
    simp [move, start, initialized, last, startRender_alone]
  | makeRoot | shutdown | html | screenshot => cases renders

/-! ## The stages -/

theorem Talks.mountStage (obliging : Obliging page) (at_ : r.point = .mount) (current : r.version = e.version)
    (code : Json) : ∃ v rest, Preview.mountStage page code = .ok v ∧ v.requests = .instantiate code :: .mount :: rest ∧
      Talks s page n (alone e n r (some n)) (.mount :: rest) { engine := e.recorded r.source v.failure? } := by
  have awaits : r.point.awaits = true := by rw [at_]; rfl
  unfold Preview.mountStage
  cases told : page .mount with
  | error f =>
    have ht : r.answer s e (page .mount) = r.fail e { stage := .render, message := f.full } := by
      simp only [told, Render.answer, at_]
    exact ⟨_, _, rfl, rfl, fails awaits current ht⟩
  | ok reply =>
    cases ok : reply.ok with
    | true =>
      have ht : r.answer s e (page .mount) = Render.done (e.mounted r.source) r := by
        simp [told, Render.answer, at_, ok]
      exact ⟨_, _, if_pos ok, rfl, ends awaits ht rfl⟩
    | false =>
      obtain ⟨message, readable⟩ := exists_message (obliging.mount reply told ok)
      have ht : r.answer s e (page .mount) = r.fail e { stage := Render.mountStage reply.error, message } := by
        simp [told, Render.answer, at_, ok, Render.failWith, readable]
      refine ⟨.failed code { stage := Render.mountStage reply.error, message }, _, ?_, rfl, fails awaits current ht⟩
      simp only [ok, readable]
      rfl

theorem Talks.evaluateStage (obliging : Obliging page) (at_ : r.point = .instantiate)
    (current : r.version = e.version) (code : Json) :
    ∃ v rest, Preview.evaluateStage page code = .ok v ∧ v.requests = .instantiate code :: rest ∧
      Talks s page n (alone e n r (some n)) v.requests { engine := e.recorded r.source v.failure? } := by
  have awaits : r.point.awaits = true := by rw [at_]; rfl
  unfold Preview.evaluateStage
  cases told : page (.instantiate code) with
  | error f =>
    have ht : r.answer s e (page (.instantiate code)) = r.fail e { stage := .instantiate, message := f.full } := by
      simp only [told, Render.answer, at_]
    exact ⟨_, _, rfl, rfl, fails awaits current ht⟩
  | ok reply =>
    cases ok : reply.ok with
    | true =>
      have ht : r.answer s e (page (.instantiate code)) = Render.ask e r .mount .mount := by
        simp [told, Render.answer, at_, ok, Engine.supersedes, current]
      obtain ⟨v, rest, mounted, requests, talks⟩ := mountStage (s := s) (n := n) (e := e)
        (r := { r with point := .mount }) obliging rfl current code
      refine ⟨v, _, (if_pos ok).trans mounted, requests, ?_⟩
      rw [requests]
      exact goes awaits ht rfl talks
    | false =>
      obtain ⟨message, readable⟩ := exists_message (obliging.instantiate code reply told ok)
      have ht : r.answer s e (page (.instantiate code)) = r.fail e { stage := .instantiate, message } := by
        simp [told, Render.answer, at_, ok, Render.failWith, readable]
      refine ⟨.refused code { stage := .instantiate, message }, _, ?_, rfl, fails awaits current ht⟩
      simp only [ok, readable]
      rfl

theorem Talks.compileStage (obliging : Obliging page) (at_ : r.point = .transform) (current : r.version = e.version) :
    ∃ v, reference s page r.source = .ok v ∧ (∀ f, v = .panel f → f.stage = .compile) ∧
      Talks s page n (alone e n r none) (.transform (s.wrap r.source).text :: v.requests)
        { engine := e.recorded r.source v.failure? } := by
  have awaits : r.point.awaits = true := by rw [at_]; rfl
  have ht := Render.answer_transform (s := s) e at_ (obliging.transform (s.wrap r.source).text)
  unfold reference
  cases compiled : Preview.compileStage (s.wrap r.source) (page (.transform (s.wrap r.source).text)) with
  | error f =>
    rw [compiled] at ht
    have entered : r.enter e (.report f) = _ := Render.fail_of_current f current
    refine ⟨.panel f, rfl, fun g hg => ?_, enters awaits ht (by rw [entered]; rfl) ?_⟩
    · cases hg
      exact stage_compileStage compiled
    · rw [entered]
      exact panel rfl
  | ok code =>
    rw [compiled] at ht
    have entered : r.enter e (.mount code) = Render.ask e r .instantiate (.instantiate code) :=
      if_neg (by simp [Engine.supersedes, current])
    obtain ⟨v, rest, evaluated, requests, talks⟩ := evaluateStage (s := s) (n := n) (e := e)
      (r := { r with point := .instantiate }) obliging rfl current code
    refine ⟨v, evaluated, fun f hf => ?_, ?_⟩
    · rw [hf] at requests
      cases requests
    · rw [requests] at talks ⊢
      exact enters awaits ht (by rw [entered]; rfl) (by rw [entered]; exact talks)

/-- **A render alone comes to its reference.**  Its compiler is ready, and its page describes errors legibly; then
the page is asked for the stages that the reference goes through and for nothing else, one after the other, the call
returns, and the state is the one that the reference leaves.  The panel is asked for just once, with the failure that is
recorded, or not at all; what it answers changes nothing, as the reference does not look at it. -/
theorem render_alone (s : Setup) {page : Request → Outcome} (obliging : Obliging page) {e : Engine}
    (initialized : e.initialized = true) (n : Nat) (source : String) :
    ∃ v, reference s page source = .ok v ∧ (∀ f, v = .panel f → f.stage = .compile) ∧
      (v.requests.filter Request.isPanel = v.failure?.toList.map fun f => .showError f.stage f.message) ∧
      let requests := .compilerReady :: .transform (s.wrap source).text :: v.requests
      let moves := .start n (.render source) :: answers page n requests
      after s { engine := e } moves =
        { engine := { e.request source with error := none }.recorded source v.failure? } ∧
      ((moments s { engine := e } moves).map fun k => spoken k.signals) =
        requests.map (fun q => [.asked n q]) ++ [[.returned n (.ok .nothing)]] := by
  obtain ⟨reply, told, ok⟩ := obliging.ready
  let e' := { e.request source with error := none }
  let r : Render := { version := e.version + 1, source }
  have ht : r.answer s e' (page .compilerReady) =
      Render.ask e' r .transform (.transform (s.wrap source).text) := by
    simp [r, told, Render.answer, readiness, ok]
  obtain ⟨v, compiled, stage, talks⟩ := Talks.compileStage (s := s) (n := n) (e := e')
    (r := { r with point := .transform }) obliging rfl rfl
  obtain ⟨at_end, heard⟩ := (Talks.goes rfl ht rfl talks).run
  obtain ⟨lines, start⟩ := start_alone (s := s) (n := n) (c := .render source) initialized rfl
  refine ⟨v, compiled, stage, v.panels, ?_, ?_⟩
  · rw [after_cons, start]
    exact at_end
  · have begins : spoken (moment s { engine := e } (.start n (.render source))).signals = [.asked n .compilerReady] :=
      spoken_moment lines start rfl
    rw [moments, List.map_cons, begins, start, heard]
    rfl

/-- a page on which a snippet without its entry component is mounted, and which cannot show the panel -/
def entryless : Request → Outcome
  | .transform _ => .ok { code := some (.str "code") }
  | .mount => .ok { ok := false, error := .obj [("name", .str "ReferenceError"),
      ("message", .str "Preview is not defined"), ("loc", .null)] }
  | .showError .. => .error (.runtime "gone")
  | _ => .ok {}

theorem obliging_entryless : Obliging entryless where
  ready := ⟨{}, rfl, rfl⟩
  transform text f h := by cases h
  instantiate code reply h bad := by
    cases h
    cases bad
  mount reply h _ := by
    cases h
    refine ⟨.record rfl rfl rfl .nowhere, ?_⟩
    rintro ⟨d, hd, -, pre, line, column, ends, -⟩
    cases hd
    have found := suffix?_eq_some_iff (x := ⟨trimEnd pre, line, column⟩) |>.mpr ⟨pre, ends, rfl⟩
    have none : suffix? (dropOrigin (headline "Preview is not defined".toList)) = none := by decide +kernel
    exact nomatch none.symm.trans found

/-- an undefined name that shows up while the snippet is mounted is an error of the text -/
theorem render_alone_entryless : Obliging entryless ∧ ({ initialized := true } : Engine).initialized = true ∧
    ∃ message, let f : Failure := { stage := .instantiate, message }
      after default { engine := { initialized := true } } (.start 0 (.render "x") ::
        answers entryless 0 [.compilerReady, .transform (Setup.wrap default "x").text, .instantiate (.str "code"),
          .mount, .showError f.stage f.message]) =
        { engine := { initialized := true, version := 1, source := some "x", error := some f } } := by
  obtain ⟨message, readable⟩ := exists_message (obliging_entryless.mount _ rfl rfl)
  have told : reference default entryless "x" = .ok (.failed (.str "code") { stage := .instantiate, message }) := by
    simp only [reference, compileStage, evaluateStage, mountStage, entryless, readable]
    rfl
  obtain ⟨v, hv, -, -, at_end, -⟩ :=
    render_alone default obliging_entryless (e := { initialized := true }) rfl 0 "x"
  cases told.symm.trans hv
  exact ⟨obliging_entryless, rfl, message, at_end⟩

end Desk

end SnippetStudio.Preview
