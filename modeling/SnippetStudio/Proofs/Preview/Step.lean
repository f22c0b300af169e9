import SnippetStudio.Proofs.Preview.History

/-!
# What a move can do

`Step s d m d' acts` says everything that one move can do to a desk, one case for each way in which
a render goes on; the facts about runs take these cases and no longer look into the engine.

* `Aside`   no render takes part: other calls begin and end, and a shutdown gives out a version;
* `Enters`  a render gets the page: at once, or when its turn in the queue has come;
* `Wants`   what an answer to a compiling render makes it want of the page;
* `Orderly` who waits for the page and who has it, the invariant under which every move is a step.
-/

namespace SnippetStudio.Preview

/-- the render is compiling its snippet here -/
def Point.compiles : Point → Bool
  | .ready | .transform => true
  | _ => false

theorem Point.works_of_compiles {p : Point} (h : p.compiles = true) : p.works = false := by
  cases p with
  | ready | transform => rfl
  | _ => cases h

theorem Point.ne_panel {p : Point} (h : p.works = false) : p ≠ .panel := by
  intro e
  rw [e] at h
  cases h

theorem Point.awaits_of_compiles {p : Point} (h : p.compiles = true) : p.awaits = true := by
  cases p with
  | ready | transform => rfl
  | _ => cases h

theorem Point.ne_queue {p : Point} (h : p.awaits = true) (w : Work) : p ≠ .queue w := by
  intro e
  rw [e] at h
  cases h

/-- the page has done what it was asked -/
def isDone : Outcome → Bool
  | .ok reply => reply.ok
  | .error _ => false

/-- a command renders this snippet now -/
def Command.renders (e : Engine) (source : String) : Command → Prop
  | .render text => text = source
  | .refresh => e.source = some source
  | _ => False

/-- a render begins by its call, with the snippet that the call asks for: the text that it is given, or at a refresh
the engine's -/
def Moment.Sourced (k : Moment) : Prop :=
  ∀ a ∈ k.acts, a.deed = .begins → ∃ c, k.move = .start a.call c ∧ c.renders k.before.engine a.source ∧
    a.version = k.before.engine.version + 1

/-- what a compiling render wants of the page by an answer -/
inductive Wants (r : Render) : Outcome → Work → Prop
  | code {reply : Reply} {code : Json} (at_ : r.point = .transform) (ok : reply.ok = true)
      (hc : reply.code = some code) : Wants r (.ok reply) (.mount code)
  | trouble {o : Outcome} {f : Failure} : Wants r o (.report f)

namespace Render

/-- the newest render records its failure and shows it -/
theorem fail_of_current {e : Engine} {r : Render} (f : Failure) (h : r.version = e.version) :
    r.fail e f = { ask { e with error := some f } r .panel (.showError f.stage f.message) with
      lines := ["[preview:" ++ f.stage.label ++ "] " ++ f.message] } :=
  if_neg (by simp [Engine.supersedes, h])

/-- an older render leaves the engine alone and is over -/
theorem fail_of_late {e : Engine} {r : Render} (f : Failure) (h : r.version ≠ e.version) :
    (r.fail e f).next = .done ∧ (r.fail e f).engine = e := by
  simp [fail, Engine.supersedes, h, done]

end Render

namespace Desk

/-- the desk without a call: what the call held goes on to the next -/
def without (d : Desk) (n : Nat) : Desk :=
  let d := { d with calls := d.calls.drop n, queue := d.queue.filter (· != n) }
  if d.holder = some n then d.pass.1 else d

/-- the desk with a new render -/
def newest (d : Desk) (n : Nat) (source : String) : Desk :=
  { d.put n (.render { version := d.engine.version + 1, source }) with
    engine := { d.engine.request source with error := none } }

/-- no render takes part in a move -/
structure Aside (d : Desk) (m : Move) (d' : Desk) : Prop where
  render? (n : Nat) : d'.render? n = d.render? n
  engine : ∃ i v, d'.engine = { d.engine with initialized := i, version := v } ∧
    (v = d.engine.version ∨ v = d.engine.version + 1 ∧ ∃ n, m = .start n .shutdown)
  holder : d'.holder = d.holder
  queue : d'.queue = d.queue

/-- a render gets the page, and what it has heard just before -/
inductive Enters (d : Desk) : Move → Nat → Render → Work → List Act → Prop
  | atOnce {n : Nat} {r : Render} {o : Outcome} {w : Work} (h : d.render? n = some r)
      (compiles : r.point.compiles = true) (wants : Wants r o w) (free : d.holder = none) :
      Enters d (.answer n o) n r w [r.act n (.hears r.point o)]
  | inTurn {n : Nat} {r : Render} {w : Work} (h : d.render? n = some r) (at_ : r.point = .queue w)
      (held : d.holder = some n) : Enters d (.resume n) n r w []

inductive Step (s : Setup) (d : Desk) : Move → Desk → List Act → Prop
  | aside {m : Move} {d' : Desk} (h : d.Aside m d') : Step s d m d' []
  | begins {n : Nat} {c : Command} {source : String} (free : d.calls.find? n = none)
      (initialized : d.engine.initialized = true) (renders : c.renders d.engine source) :
      Step s d (.start n c) (d.newest n source)
        [⟨n, d.engine.version + 1, source, .begins⟩,
          ⟨n, d.engine.version + 1, source, .asks .compilerReady⟩]
  | transforms {n : Nat} {r : Render} {reply : Reply} (h : d.render? n = some r)
      (at_ : r.point = .ready) (ok : reply.ok = true) :
      Step s d (.answer n (.ok reply)) (d.put n (.render { r with point := .transform }))
        [r.act n (.hears .ready (.ok reply)), r.act n (.asks (.transform (s.wrap r.source).text))]
  | waits {n : Nat} {r : Render} {o : Outcome} (h : d.render? n = some r)
      (compiles : r.point.compiles = true) :
      Step s d (.answer n o) (d.put n (.render { r with polled := true, point := .pause }))
        [r.act n (.hears r.point o)]
  | queues {n k : Nat} {r : Render} {o : Outcome} {w : Work} (h : d.render? n = some r)
      (compiles : r.point.compiles = true) (wants : Wants r o w) (held : d.holder = some k) :
      Step s d (.answer n o)
        { d.put n (.render { r with point := .queue w }) with queue := d.queue ++ [n] }
        [r.act n (.hears r.point o)]
  | polls {n : Nat} {r : Render} (h : d.render? n = some r) (at_ : r.point = .pause)
      (current : r.version = d.engine.version) :
      Step s d (.resume n)
        { d.put n (.render { r with point := .ready }) with
          engine := { d.engine with error := none } }
        [r.act n (.asks .compilerReady)]
  | givesUp {n : Nat} {r : Render} (h : d.render? n = some r) (at_ : r.point = .pause)
      (late : r.version ≠ d.engine.version) :
      Step s d (.resume n) (d.without n) [r.act n (.ends (.ok .nothing))]
  | evaluates {m : Move} {n : Nat} {r : Render} {code : Json} {heard : List Act}
      (enters : d.Enters m n r (.mount code) heard) (current : r.version = d.engine.version) :
      Step s d m { d.put n (.render { r with point := .instantiate }) with holder := some n }
        (heard ++ [r.act n (.asks (.instantiate code))])
  | reports {m : Move} {n : Nat} {r : Render} {f : Failure} {heard : List Act}
      (enters : d.Enters m n r (.report f) heard) (current : r.version = d.engine.version) :
      Step s d m
        { d.put n (.render { r with point := .panel }) with
          engine := { d.engine with error := some f }, holder := some n }
        (heard ++ [r.act n (.asks (.showError f.stage f.message))])
  | yields {m : Move} {n : Nat} {r : Render} {w : Work} {heard : List Act}
      (enters : d.Enters m n r w heard) (late : r.version ≠ d.engine.version) :
      Step s d m (d.without n) (heard ++ [r.act n (.ends (.ok .nothing))])
  | mounts {n : Nat} {r : Render} {reply : Reply} (h : d.render? n = some r)
      (at_ : r.point = .instantiate) (ok : reply.ok = true)
      (current : r.version = d.engine.version) :
      Step s d (.answer n (.ok reply)) (d.put n (.render { r with point := .mount }))
        [r.act n (.hears .instantiate (.ok reply)), r.act n (.asks .mount)]
  | fails {n : Nat} {r : Render} {o : Outcome} {f : Failure} (h : d.render? n = some r)
      (at_ : r.point = .instantiate ∨ r.point = .mount) (bad : isDone o = false)
      (current : r.version = d.engine.version) :
      Step s d (.answer n o)
        { d.put n (.render { r with point := .panel }) with
          engine := { d.engine with error := some f } }
        [r.act n (.hears r.point o), r.act n (.asks (.showError f.stage f.message))]
  | mounted {n : Nat} {r : Render} {reply : Reply} (h : d.render? n = some r)
      (at_ : r.point = .mount) (ok : reply.ok = true) :
      Step s d (.answer n (.ok reply)) ({ d with engine := d.engine.mounted r.source }.without n)
        [r.act n (.hears .mount (.ok reply)), r.act n (.ends (.ok .nothing))]
  | returns {n : Nat} {r : Render} {o : Outcome} (h : d.render? n = some r)
      (works : r.point.works = true) (late : r.point = .panel ∨ r.version ≠ d.engine.version)
      (bad : r.point = .mount → isDone o = false) :
      Step s d (.answer n o) (d.without n)
        [r.act n (.hears r.point o), r.act n (.ends (.ok .nothing))]
  | raises {n : Nat} {r : Render} {reply : Reply} {f : Fault} (h : d.render? n = some r)
      (at_ : r.point = .instantiate ∨ r.point = .mount) (bad : reply.ok = false)
      (unreadable : Diagnostic.runtimeMessage reply.error = .error f) :
      Step s d (.answer n (.ok reply)) (d.without n)
        [r.act n (.hears r.point (.ok reply)), r.act n (.ends (.error f))]
  | cancels {n : Nat} {r : Render} (h : d.render? n = some r) :
      Step s d (.cancel n) (d.without n) [r.act n (.ends (.error .cancelled))]

/-- who waits for the page, and who has it -/
structure Orderly (d : Desk) : Prop where
  /-- the page is held by a render that has come to its turn -/
  holder_render : ∀ n, d.holder = some n →
    ∃ r, d.render? n = some r ∧ (r.point.works = true ∨ ∃ w, r.point = .queue w)
  /-- a render at work on the page holds it -/
  works_holds : ∀ n r, d.render? n = some r → r.point.works = true → d.holder = some n
  queue_render : ∀ n ∈ d.queue, d.holder ≠ some n ∧ ∃ r w, d.render? n = some r ∧ r.point = .queue w
  /-- a render that waits for the page is in the queue, or has its turn now -/
  queue_mem : ∀ n r w, d.render? n = some r → r.point = .queue w → d.holder = some n ∨ n ∈ d.queue
  queue_nodup : d.queue.Nodup
  /-- nobody waits for a free page -/
  free : d.holder = none → d.queue = []

variable {s : Setup} {d d' : Desk} {m : Move} {n : Nat} {r : Render}

@[simp] theorem render?_put_render (d : Desk) (n k : Nat) (r : Render) :
    (d.put n (.render r)).render? k = if k = n then some r else d.render? k := by
  simp only [render?, put, Roster.find?_put]
  by_cases h : k = n
  · rw [if_pos h, if_pos h]
  · rw [if_neg h, if_neg h]

theorem render?_newest (d : Desk) (n k : Nat) (source : String) : (d.newest n source).render? k =
    if k = n then some { version := d.engine.version + 1, source } else d.render? k :=
  render?_put_render ..

theorem begun_newest (free : d.calls.find? n = none) (source : String) (c : Command) :
    d.begun (d.newest n source) (.start n c) =
      [⟨n, d.engine.version + 1, source, .begins⟩] := by
  have before : d.render? n = none := by simp only [render?, free]
  have after := (render?_newest d n n source).trans (if_pos rfl)
  simp only [begun, before, after]
  rfl

/-- the renders under way do not depend on the engine, nor on who has the page -/
@[simp] theorem render?_mk (d : Desk) (e : Engine) (holder : Option Nat) (queue : List Nat)
    (k : Nat) : render? ⟨e, d.calls, holder, queue⟩ k = d.render? k := rfl

@[simp] theorem calls_without (d : Desk) (n : Nat) : (d.without n).calls = d.calls.drop n := by
  simp only [without, pass]
  split
  · split <;> rfl
  · rfl

@[simp] theorem engine_without (d : Desk) (n : Nat) : (d.without n).engine = d.engine := by
  simp only [without, pass]
  split
  · split <;> rfl
  · rfl

@[simp] theorem render?_without (d : Desk) (n k : Nat) :
    (d.without n).render? k = if k = n then none else d.render? k := by
  simp only [render?, calls_without, Roster.find?_drop]
  by_cases h : k = n
  · rw [if_pos h, if_pos h]
  · rw [if_neg h, if_neg h]

/-- a call that neither has the page nor waits for it leaves both alone -/
theorem without_of_idle (held : d.holder ≠ some n) (idle : n ∉ d.queue) :
    d.without n = { d with calls := d.calls.drop n } := by
  have h : d.queue.filter (· != n) = d.queue := by
    rw [List.filter_eq_self]
    intro k hk
    simpa using fun e : k = n => idle (e ▸ hk)
  simp only [without, h]
  exact if_neg held

theorem leave_fst (d : Desk) (n : Nat) (result : Except Fault Result) :
    (d.leave n result).1 = d.without n := by
  simp only [leave, without]
  split <;> rfl

/-- the end of a call wakes nobody but the next, and tells its result -/
theorem leave_told (d before after : Desk) (n : Nat) (result : Except Fault Result) :
    (d.leave n result).2.filterMap (before.told after)
      = ((before.render? n).map fun r => r.act n (.ends result)).toList := by
  have last : [Signal.returned n result].filterMap (before.told after)
      = ((before.render? n).map fun r => r.act n (.ends result)).toList := by
    simp only [List.filterMap_cons, List.filterMap_nil, told]
    cases before.render? n <;> rfl
  simp only [leave]
  split
  · simp only [pass]
    split
    · exact last
    · exact last
  · exact last

theorem said_told (lines : List String) (before after : Desk) :
    (lines.map Signal.said).filterMap (before.told after) = [] := by
  rw [List.filterMap_eq_nil_iff]
  intro x hx
  obtain ⟨line, -, rfl⟩ := List.mem_map.mp hx
  rfl

end Desk

end SnippetStudio.Preview
