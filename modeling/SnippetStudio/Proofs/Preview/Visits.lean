import Mathlib.Data.List.Basic
import SnippetStudio.Proofs.Preview.Versions

/-!
# Visits to the page

One render at a time changes the page, and while it does nobody else comes in between.  A `Visit` is
what a render does there, from its first request to its last; a `Block` is a visit with the call
that made it.

* `Block.Backed`   what the render was told before it asked: its compiled text by the compiler, that
                   the text was evaluated before it is mounted;
* `Place`          where a render stands, and what it has asked and heard so far;
* `Visited`        the invariant: the changes of the page so far are blocks, in the order of their
                   versions;
* `Desk.page_in_visits`  **every run is a row of visits**.
-/

namespace SnippetStudio.Preview

/-- what one render does to the page, first to last -/
inductive Visit where
  /-- an error of the compiler is shown -/
  | panel (f : Failure)
  | evaluated (code : Json)
  | refused (code : Json) (f : Failure)
  | mounted (code : Json)
  | failed (code : Json) (f : Failure)

namespace Visit

def requests : Visit → List Request
  | panel f => [.showError f.stage f.message]
  | evaluated code => [.instantiate code]
  | refused code f => [.instantiate code, .showError f.stage f.message]
  | mounted code => [.instantiate code, .mount]
  | failed code f => [.instantiate code, .mount, .showError f.stage f.message]

/-- the text that is evaluated -/
def code? : Visit → Option Json
  | panel _ => none
  | evaluated code | refused code _ | mounted code | failed code _ => some code

def mounts : Visit → Bool
  | mounted _ | failed .. => true
  | _ => false

end Visit

structure Block where
  call : Nat
  version : Nat
  source : String
  visit : Visit

namespace Block

def act (b : Block) (deed : Deed) : Act := ⟨b.call, b.version, b.source, deed⟩

def acts (b : Block) : List Act := b.visit.requests.map fun q => b.act (.asks q)

/-- the requests of the block as the page gets them -/
def asked (b : Block) : List (Nat × Request) := b.visit.requests.map fun q => (b.call, q)

/-- what the render was told before it asked -/
structure Backed (s : Setup) (h : List Act) (b : Block) : Prop where
  /-- the text is what the compiler answered for the snippet -/
  code : ∀ code, b.visit.code? = some code →
    ∃ reply : Reply, reply.ok = true ∧ reply.code = some code ∧
    [b.act .begins, b.act (.asks (.transform (s.wrap b.source).text)),
      b.act (.hears .transform (.ok reply)), b.act (.asks (.instantiate code))].Sublist h
  /-- it is mounted after it was evaluated -/
  mount : ∀ code, b.visit.code? = some code → b.visit.mounts = true →
    ∃ reply : Reply, reply.ok = true ∧
    [b.act (.asks (.instantiate code)), b.act (.hears .instantiate (.ok reply)),
      b.act (.asks .mount)].Sublist h

theorem Backed.mono {s : Setup} {h k : List Act} {b : Block} (hb : b.Backed s h)
    (grows : h.Sublist k) : b.Backed s k where
  code code hc := by
    obtain ⟨reply, ok, hr, trace⟩ := hb.code code hc
    exact ⟨reply, ok, hr, trace.trans grows⟩
  mount code hc hm := by
    obtain ⟨reply, ok, trace⟩ := hb.mount code hc hm
    exact ⟨reply, ok, trace.trans grows⟩

end Block

/-- a change of the page, with the call that asks for it -/
def Signal.touch? : Signal → Option (Nat × Request)
  | .asked n q => if q.isTouch then some (n, q) else none
  | _ => none

def Act.touch? (a : Act) : Option (Nat × Request) :=
  match a.deed with
  | .asks q => if q.isTouch then some (a.call, q) else none
  | _ => none

/-- the changes of the page, as the page is asked for them -/
def changes (ks : List Moment) : List (Nat × Request) :=
  ks.flatMap fun k => k.signals.filterMap Signal.touch?

theorem Visit.touches (v : Visit) : ∀ q ∈ v.requests, q.isTouch = true := by
  cases v <;> simp [requests, Request.isTouch]

theorem Block.filterMap_acts (b : Block) : b.acts.filterMap Act.touch? = b.asked := by
  rw [acts, asked, List.filterMap_map, ← List.filterMap_eq_map]
  refine List.filterMap_congr fun q hq => ?_
  show (if q.isTouch then some (b.call, q) else none) = some (b.call, q)
  rw [if_pos (b.visit.touches q hq)]

theorem filterMap_touches (h : List Act) :
    (touches h).filterMap Act.touch? = h.filterMap Act.touch? := by
  rw [touches, List.filterMap_filter]
  refine List.filterMap_congr fun a _ => ?_
  cases ht : a.deed.isTouch with
  | true => rfl
  | false =>
    symm
    unfold Act.touch?
    split
    · next q hq =>
      rw [hq] at ht
      exact if_neg (by rw [show q.isTouch = false from ht]; exact Bool.false_ne_true)
    · rfl

/-- a render's visit -/
def Render.block (r : Render) (n : Nat) (visit : Visit) : Block := ⟨n, r.version, r.source, visit⟩

/-- where a render stands: before its visit it has none, and during its visit that is the last
one -/
inductive Place (s : Setup) (h : List Act) (bs : List Block) (n : Nat) (r : Render) : Prop
  | waiting (at_ : r.point = .ready ∨ r.point = .pause) (new : ∀ b ∈ bs, b.version ≠ r.version)
      (trace : [r.act n .begins].Sublist h)
  | compiling (at_ : r.point = .transform) (new : ∀ b ∈ bs, b.version ≠ r.version)
      (trace : [r.act n .begins, r.act n (.asks (.transform (s.wrap r.source).text))].Sublist h)
  | compiled {code : Json} {reply : Reply} (at_ : r.point = .queue (.mount code))
      (new : ∀ b ∈ bs, b.version ≠ r.version) (ok : reply.ok = true) (hc : reply.code = some code)
      (trace : [r.act n .begins, r.act n (.asks (.transform (s.wrap r.source).text)),
        r.act n (.hears .transform (.ok reply))].Sublist h)
  | troubled {f : Failure} (at_ : r.point = .queue (.report f))
      (new : ∀ b ∈ bs, b.version ≠ r.version)
  | evaluating {pre : List Block} {code : Json} (at_ : r.point = .instantiate)
      (last : bs = pre ++ [r.block n (.evaluated code)])
  | mounting {pre : List Block} {code : Json} (at_ : r.point = .mount)
      (last : bs = pre ++ [r.block n (.mounted code)])
  | showing {pre : List Block} {visit : Visit} (at_ : r.point = .panel)
      (last : bs = pre ++ [r.block n visit])

namespace Place

variable {s : Setup} {h k : List Act} {bs : List Block} {n : Nat} {r : Render}

/-- a render that is not at work has made no visit yet -/
theorem new (p : Place s h bs n r) (idle : r.point.works = false) :
    ∀ b ∈ bs, b.version ≠ r.version := by
  cases p with
  | waiting at_ new | compiling at_ new | compiled at_ new | troubled at_ new => exact new
  | evaluating at_ | mounting at_ | showing at_ => rw [at_] at idle; cases idle

/-- a render at work makes the last visit -/
theorem last (p : Place s h bs n r) (works : r.point.works = true) :
    ∃ pre visit, bs = pre ++ [r.block n visit] := by
  cases p with
  | waiting at_ => rcases at_ with e | e <;> rw [e] at works <;> cases works
  | compiling at_ | compiled at_ | troubled at_ => rw [at_] at works; cases works
  | evaluating at_ last | mounting at_ last | showing at_ last => exact ⟨_, _, last⟩

theorem mono (p : Place s h bs n r) (grows : h.Sublist k) : Place s k bs n r := by
  cases p with
  | waiting at_ new trace => exact .waiting at_ new (trace.trans grows)
  | compiling at_ new trace => exact .compiling at_ new (trace.trans grows)
  | compiled at_ new ok hc trace => exact .compiled at_ new ok hc (trace.trans grows)
  | troubled at_ new => exact .troubled at_ new
  | evaluating at_ last => exact .evaluating at_ last
  | mounting at_ last => exact .mounting at_ last
  | showing at_ last => exact .showing at_ last

theorem other (p : Place s h bs n r) (grows : h.Sublist k) (idle : r.point.works = false)
    {bs' : List Block} (new' : ∀ b ∈ bs', b.version ≠ r.version) : Place s k bs' n r := by
  cases p with
  | waiting at_ new trace => exact .waiting at_ new' (trace.trans grows)
  | compiling at_ new trace => exact .compiling at_ new' (trace.trans grows)
  | compiled at_ new ok hc trace => exact .compiled at_ new' ok hc (trace.trans grows)
  | troubled at_ new => exact .troubled at_ new'
  | evaluating at_ | mounting at_ | showing at_ => rw [at_] at idle; cases idle

theorem begun (p : Place s h bs n r) (at_ : r.point.compiles = true ∨ r.point = .pause) :
    [r.act n .begins].Sublist h := by
  cases p with
  | waiting at' new trace => exact trace
  | compiling at' new trace => exact (List.sublist_append_left [r.act n .begins] [_]).trans trace
  | compiled at' | troubled at' | evaluating at' | mounting at' | showing at' =>
    rw [at'] at at_
    rcases at_ with e | e <;> cases e

/-- a compiling render that wants the page has its compiled text, if there is one, from the
compiler -/
theorem wants (p : Place s h bs n r) (compiles : r.point.compiles = true) {o : Outcome} {w : Work}
    (wants : Wants r o w) :
    Place s (h ++ [r.act n (.hears r.point o)]) bs n { r with point := .queue w } := by
  have new := p.new (Point.works_of_compiles compiles)
  cases wants with
  | trouble => exact .troubled rfl new
  | code at_ ok hc =>
    cases p with
    | compiling at' new trace =>
      rw [at_]
      exact .compiled rfl new ok hc (trace.append (List.Sublist.refl _))
    | waiting at' => rcases at' with e | e <;> rw [at_] at e <;> cases e
    | compiled at' | troubled at' | evaluating at' | mounting at' | showing at' =>
        rw [at_] at at'; cases at'

theorem text {code : Json} (p : Place s h bs n r) (at_ : r.point = .queue (.mount code)) :
    ∃ reply : Reply, reply.ok = true ∧ reply.code = some code ∧
      [r.act n .begins, r.act n (.asks (.transform (s.wrap r.source).text)),
        r.act n (.hears .transform (.ok reply))].Sublist h := by
  cases p with
  | compiled at' new ok hc trace =>
    rw [at_] at at'
    cases at'
    exact ⟨_, ok, hc, trace⟩
  | waiting at' => rcases at' with e | e <;> rw [at_] at e <;> cases e
  | compiling at' | troubled at' | evaluating at' | mounting at' | showing at' =>
      rw [at_] at at'; cases at'

theorem evaluated (p : Place s h bs n r) (at_ : r.point = .instantiate) :
    ∃ pre code, bs = pre ++ [r.block n (.evaluated code)] := by
  cases p with
  | evaluating at' last => exact ⟨_, _, last⟩
  | waiting at' => rcases at' with e | e <;> rw [at_] at e <;> cases e
  | compiling at' | compiled at' | troubled at' | mounting at' | showing at' =>
      rw [at_] at at'; cases at'

theorem mounted (p : Place s h bs n r) (at_ : r.point = .mount) :
    ∃ pre code, bs = pre ++ [r.block n (.mounted code)] := by
  cases p with
  | mounting at' last => exact ⟨_, _, last⟩
  | waiting at' => rcases at' with e | e <;> rw [at_] at e <;> cases e
  | compiling at' | compiled at' | troubled at' | evaluating at' | showing at' =>
      rw [at_] at at'; cases at'

end Place

namespace Desk

variable {s : Setup} {d d' : Desk} {m : Move} {n : Nat} {r : Render} {acts h : List Act}
    {bs : List Block}

/-- what a render has heard on the way to the page changes nothing there -/
theorem Enters.touches {w : Work} (enters : d.Enters m n r w acts) : touches acts = [] := by
  cases enters with
  | atOnce => rfl
  | inTurn => rfl

theorem Enters.idle {w : Work} (enters : d.Enters m n r w acts) : r.point.works = false := by
  cases enters with
  | atOnce h compiles => exact Point.works_of_compiles compiles
  | inTurn h at_ => rw [at_]; rfl

/-- a render that gets the page stands as if it had waited for it -/
theorem Enters.place {w : Work} (enters : d.Enters m n r w acts) (p : Place s h bs n r) :
    Place s (h ++ acts) bs n { r with point := .queue w } := by
  cases enters with
  | atOnce hr compiles wants => exact p.wants compiles wants
  | inTurn hr at_ =>
    rw [List.append_nil, ← at_]
    exact p

/-- the changes of the page so far are visits, in the order of their versions -/
structure Visited (s : Setup) (d : Desk) (h : List Act) (bs : List Block) : Prop where
  touches : touches h = bs.flatMap Block.acts
  sorted : bs.Pairwise fun b c => b.version < c.version
  bound : ∀ b ∈ bs, b.version ≤ d.engine.version
  backed : ∀ b ∈ bs, b.Backed s h
  place : ∀ n r, d.render? n = some r → Place s h bs n r

namespace Visited

theorem quiet (hv : d.Visited s h bs) (step : Step s d m d' acts) (none : Preview.touches acts = [])
    (place : ∀ k x, d'.render? k = some x → d.render? k = some x ∨ Place s (h ++ acts) bs k x) :
    d'.Visited s (h ++ acts) bs where
  touches := by rw [touches_append, none, List.append_nil, hv.touches]
  sorted := hv.sorted
  bound b hb := Nat.le_trans (hv.bound b hb) (step_version step)
  backed b hb := (hv.backed b hb).mono (List.sublist_append_left h acts)
  place k x hx := by
    rcases place k x hx with hx | p
    · exact (hv.place k x hx).mono (List.sublist_append_left h acts)
    · exact p

theorem others (hv : d.Visited s h bs) (ho : d.Orderly) (hd : d.Numbered)
    (hr : d.render? n = some r) (alone : ∀ k, d.holder = some k → k = n) {bs' : List Block}
    (versions : ∀ b ∈ bs', b ∈ bs ∨ b.version = r.version) {k : Nat} {x : Render} (hk : k ≠ n)
    (hx : d.render? k = some x) : Place s (h ++ acts) bs' k x := by
  have p := hv.place k x hx
  have idle := ho.idle alone hx hk
  refine p.other (List.sublist_append_left h acts) idle fun b hb => ?_
  rcases versions b hb with hb | hb
  · exact p.new idle b hb
  · rw [hb]
    exact fun e => hk (hd.apart k n x r hx hr e.symm)

theorem opens (hv : d.Visited s h bs) (ho : d.Orderly) (hd : d.Numbered) {w : Work}
    {heard : List Act} {r' : Render} (visit : Visit) (enters : d.Enters m n r w heard)
    (current : r.version = d.engine.version)
    (version : d'.engine.version = d.engine.version)
    (view : ∀ k, d'.render? k = if k = n then some r' else d.render? k)
    (touch : Preview.touches acts = (r.block n visit).acts)
    (backed : (r.block n visit).Backed s (h ++ acts))
    (place : Place s (h ++ acts) (bs ++ [r.block n visit]) n r') :
    d'.Visited s (h ++ acts) (bs ++ [r.block n visit]) where
  touches := by rw [touches_append, touch, hv.touches, List.flatMap_append, List.flatMap_singleton]
  sorted := by
    refine List.pairwise_append.mpr ⟨hv.sorted, List.pairwise_singleton _ _, fun b hb c hc => ?_⟩
    have hn := (hv.place n r enters.render?).new enters.idle b hb
    have hb := hv.bound b hb
    rw [List.mem_singleton.mp hc]
    show b.version < r.version
    omega
  bound b hb := by
    rw [version]
    rcases List.mem_append.mp hb with hb | hb
    · exact hv.bound b hb
    · rw [List.mem_singleton.mp hb]
      exact Nat.le_of_eq current
  backed b hb := by
    rcases List.mem_append.mp hb with hb | hb
    · exact (hv.backed b hb).mono (List.sublist_append_left h acts)
    · rw [List.mem_singleton.mp hb]
      exact backed
  place k x hx := by
    rw [view] at hx
    split at hx
    · next e =>
      cases hx
      exact e ▸ place
    · next e =>
      refine hv.others ho hd enters.render? enters.alone (fun b hb => ?_) e hx
      exact (List.mem_append.mp hb).imp id fun hb => by rw [List.mem_singleton.mp hb]; rfl

theorem continues {pre : List Block} {visit : Visit} (hv : d.Visited s h (pre ++ [r.block n visit]))
    (ho : d.Orderly) (hd : d.Numbered) {r' : Render} (visit' : Visit) (hr : d.render? n = some r)
    (works : r.point.works = true) (version : d'.engine.version = d.engine.version)
    (view : ∀ k, d'.render? k = if k = n then some r' else d.render? k)
    (touch : (r.block n visit).acts ++ Preview.touches acts = (r.block n visit').acts)
    (backed : (r.block n visit').Backed s (h ++ acts))
    (place : Place s (h ++ acts) (pre ++ [r.block n visit']) n r') :
    d'.Visited s (h ++ acts) (pre ++ [r.block n visit']) where
  touches := by
    rw [touches_append, hv.touches, List.flatMap_append, List.flatMap_append,
      List.flatMap_singleton, List.flatMap_singleton, List.append_assoc, touch]
  sorted := by
    obtain ⟨sorted, -, below⟩ := List.pairwise_append.mp hv.sorted
    refine List.pairwise_append.mpr ⟨sorted, List.pairwise_singleton _ _, fun b hb c hc => ?_⟩
    rw [List.mem_singleton.mp hc]
    exact below b hb (r.block n visit) (List.mem_singleton_self _)
  bound b hb := by
    rw [version]
    rcases List.mem_append.mp hb with hb | hb
    · exact hv.bound b (List.mem_append_left _ hb)
    · rw [List.mem_singleton.mp hb]
      exact hd.bound n r hr
  backed b hb := by
    rcases List.mem_append.mp hb with hb | hb
    · exact (hv.backed b (List.mem_append_left _ hb)).mono (List.sublist_append_left h acts)
    · rw [List.mem_singleton.mp hb]
      exact backed
  place k x hx := by
    rw [view] at hx
    split at hx
    · next e =>
      cases hx
      exact e ▸ place
    · next e =>
      refine hv.others ho hd hr (ho.alone hr works) (fun b hb => ?_) e hx
      exact (List.mem_append.mp hb).imp (List.mem_append_left _)
        fun hb => by rw [List.mem_singleton.mp hb]; rfl

end Visited

theorem visited_without {d₀ : Desk} (hv : d.Visited s h bs) (step : Step s d m (d₀.without n) acts)
    (same : ∀ k, d₀.render? k = d.render? k) (none : touches acts = []) :
    (d₀.without n).Visited s (h ++ acts) bs := by
  refine hv.quiet step none fun k x hx => .inl ?_
  rw [render?_without, same] at hx
  split at hx
  · cases hx
  · exact hx

theorem visited_put {r' : Render} (hv : d.Visited s h bs) (step : Step s d m d' acts)
    (view : ∀ k, d'.render? k = if k = n then some r' else d.render? k) (none : touches acts = [])
    (place : Place s (h ++ acts) bs n r') : d'.Visited s (h ++ acts) bs := by
  refine hv.quiet step none fun k x hx => ?_
  rw [view] at hx
  split at hx
  · next e =>
    cases hx
    exact .inr (e ▸ place)
  · exact .inl hx

theorem backed_evaluated {code : Json} (hv : d.Visited s h bs) {heard : List Act}
    (enters : d.Enters m n r (.mount code) heard) :
    (r.block n (.evaluated code)).Backed s
      (h ++ (heard ++ [r.act n (.asks (.instantiate code))])) where
  code c hc := by
    cases hc
    obtain ⟨reply, ok, hr, trace⟩ := (enters.place (hv.place n r enters.render?)).text rfl
    rw [← List.append_assoc]
    exact ⟨reply, ok, hr, trace.append (List.Sublist.refl _)⟩
  mount c hc hm := by cases hm

theorem backed_panel (s : Setup) (h : List Act) (r : Render) (n : Nat) (f : Failure) :
    (r.block n (.panel f)).Backed s h where
  code c hc := by cases hc
  mount c hc hm := by cases hm

theorem backed_mounted {code : Json} {reply : Reply} (hb : (r.block n (.evaluated code)).Backed s h)
    (ok : reply.ok = true) :
    (r.block n (.mounted code)).Backed s
      (h ++ [r.act n (.hears .instantiate (.ok reply)), r.act n (.asks .mount)]) where
  code c hc := (hb.mono (List.sublist_append_left h _)).code c hc
  mount c hc hm := by
    cases hc
    obtain ⟨reply', -, -, trace⟩ := hb.code code rfl
    have evaluated : [r.act n (.asks (.instantiate code))].Sublist h :=
      (List.sublist_append_right [_, _, _] [r.act n (.asks (.instantiate code))]).trans trace
    exact ⟨reply, ok, evaluated.append (List.Sublist.refl _)⟩

/-- a visit that ends with an error -/
theorem backed_refused {code : Json} (hb : (r.block n (.evaluated code)).Backed s h) (f : Failure) :
    (r.block n (.refused code f)).Backed s h where
  code c hc := hb.code c hc
  mount c hc hm := by cases hm

theorem backed_failed {code : Json} (hb : (r.block n (.mounted code)).Backed s h) (f : Failure) :
    (r.block n (.failed code f)).Backed s h where
  code c hc := hb.code c hc
  mount c hc _ := hb.mount c hc rfl

/-- **Every step keeps the visits in a row.** -/
theorem visited_step (ho : d.Orderly) (hd : d.Numbered) (hv : d.Visited s h bs)
    (step : Step s d m d' acts) : ∃ bs', d'.Visited s (h ++ acts) bs' := by
  have grows := List.sublist_append_left h acts
  cases step with
  | aside ha =>
      exact ⟨bs, hv.quiet (.aside ha) rfl fun k x hx => .inl (by rw [← ha.render?]; exact hx)⟩
  | @begins n c source free initialized renders =>
    refine ⟨bs, visited_put hv (.begins free initialized renders) (render?_put_render d n · _) rfl
      (.waiting (.inl rfl) (fun b hb => ?_) ?_)⟩
    · have hb := hv.bound b hb
      show b.version ≠ d.engine.version + 1
      omega
    · exact (List.sublist_append_left [_] [_]).trans (List.sublist_append_right h _)
  | @transforms n r reply hr at_ ok =>
    have p := hv.place n r hr
    have begun := p.begun (.inl (by rw [at_]; rfl))
    exact ⟨bs, visited_put hv (.transforms hr at_ ok) (render?_put_render d n · _) rfl
      (.compiling rfl (p.new (by rw [at_]; rfl)) (begun.append (List.sublist_cons_self _ _)))⟩
  | @waits n r o hr compiles =>
    have p := hv.place n r hr
    have idle := Point.works_of_compiles compiles
    exact ⟨bs, visited_put hv (.waits hr compiles) (render?_put_render d n · _) rfl
      (.waiting (.inr rfl) (p.new idle) ((p.begun (.inl compiles)).trans grows))⟩
  | @queues n k r o w hr compiles wants held =>
    exact ⟨bs, visited_put hv (.queues hr compiles wants held) (render?_put_render d n · _) rfl
      ((hv.place n r hr).wants compiles wants)⟩
  | @polls n r hr at_ current =>
    have p := hv.place n r hr
    exact ⟨bs, visited_put hv (.polls hr at_ current) (render?_put_render d n · _) rfl
      (.waiting (.inl rfl) (p.new (by rw [at_]; rfl)) ((p.begun (.inr at_)).trans grows))⟩
  | givesUp hr at_ late => exact ⟨bs, visited_without hv (.givesUp hr at_ late) (fun k => rfl) rfl⟩
  | @evaluates m n r code heard enters current =>
    refine ⟨_, hv.opens ho hd (.evaluated code) enters current rfl (render?_put_render d n · _) ?_
      (backed_evaluated hv enters) (.evaluating rfl rfl)⟩
    rw [touches_append, enters.touches]
    rfl
  | @reports m n r f heard enters current =>
    refine ⟨_, hv.opens ho hd (.panel f) enters current rfl (render?_put_render d n · _) ?_
      (backed_panel ..) (.showing rfl rfl)⟩
    rw [touches_append, enters.touches]
    rfl
  | yields enters late =>
    refine ⟨bs, visited_without hv (.yields enters late) (fun k => rfl) ?_⟩
    rw [touches_append, enters.touches]
    rfl
  | @mounts n r reply hr at_ ok current =>
    obtain ⟨pre, code, rfl⟩ := (hv.place n r hr).evaluated at_
    have hb := hv.backed _ (List.mem_append_right _ (List.mem_singleton_self _))
    exact ⟨_, hv.continues ho hd (.mounted code) hr (by rw [at_]; rfl) rfl
      (render?_put_render d n · _) rfl (backed_mounted hb ok) (.mounting rfl rfl)⟩
  | @fails n r o f hr at_ bad current =>
    rcases at_ with at_ | at_
    · obtain ⟨pre, code, rfl⟩ := (hv.place n r hr).evaluated at_
      have hb := hv.backed _ (List.mem_append_right _ (List.mem_singleton_self _))
      exact ⟨_, hv.continues ho hd (.refused code f) hr (by rw [at_]; rfl) rfl
        (render?_put_render d n · _) rfl (backed_refused (hb.mono grows) f) (.showing rfl rfl)⟩
    · obtain ⟨pre, code, rfl⟩ := (hv.place n r hr).mounted at_
      have hb := hv.backed _ (List.mem_append_right _ (List.mem_singleton_self _))
      exact ⟨_, hv.continues ho hd (.failed code f) hr (by rw [at_]; rfl) rfl
        (render?_put_render d n · _) rfl (backed_failed (hb.mono grows) f) (.showing rfl rfl)⟩
  | mounted hr at_ ok => exact ⟨bs, visited_without hv (.mounted hr at_ ok) (fun k => rfl) rfl⟩
  | returns hr works late bad =>
      exact ⟨bs, visited_without hv (.returns hr works late bad) (fun k => rfl) rfl⟩
  | raises hr at_ bad unreadable =>
    exact ⟨bs, visited_without hv (.raises hr at_ bad unreadable) (fun k => rfl) rfl⟩
  | cancels hr => exact ⟨bs, visited_without hv (.cancels hr) (fun k => rfl) rfl⟩

/-- whoever changes the page has it -/
theorem step_touch (ho : d.Orderly) (step : Step s d m d' acts) :
    ∀ a ∈ acts, a.deed.isTouch = true → d'.holder = some a.call := by
  intro a ha touch
  cases step_does step a ha with
  | touches h current h' works => exact (orderly_step ho step).works_holds _ _ h' works
  | begins | starts | hears | polls | transforms | ends | raises | cancels => cases touch

/-! ## runs -/

theorem visited_idle (s : Setup) (h : d.Idle) : d.Visited s [] [] where
  touches := rfl
  sorted := .nil
  bound b hb := by cases hb
  backed b hb := by cases hb
  place n r hr := by rw [h.render?] at hr; cases hr

theorem visited_after (s : Setup) (h : d.Idle) (ms : List Move) :
    ∃ bs, (d.after s ms).Visited s (d.history s ms) bs := by
  have hp : (d.after s ms).Numbered ∧
      ∃ bs, (d.after s ms).Visited s ((d.moments s ms).flatMap Moment.acts) bs := by
    refine run_steps (P := fun d ks => d.Numbered ∧ ∃ bs, d.Visited s (ks.flatMap Moment.acts) bs)
      h.orderly ⟨h.numbered, [], visited_idle s h⟩ ?_
    rintro m - d ks ho step ⟨hd, bs, hv⟩
    rw [acts_concat]
    exact ⟨numbered_step hd step, visited_step ho hd hv step⟩
  exact hp.2

/-- the acts of a moment tell every change of the page that is asked for in it -/
theorem touch?_of_mem {ms : List Move} {k : Moment} (hk : k ∈ d.moments s ms) :
    k.signals.filterMap Signal.touch? = k.acts.filterMap Act.touch? := by
  have heard : (k.before.heard k.move).filterMap Act.touch? = [] := by
    unfold heard
    split
    · split
      · split <;> rfl
      · rfl
    · rfl
  have begun : (k.before.begun k.after k.move).filterMap Act.touch? = [] := by
    unfold begun
    split
    · split <;> rfl
    · rfl
  rw [Moment.acts, List.filterMap_append, List.filterMap_append, heard, begun, List.nil_append,
    List.filterMap_filterMap]
  refine List.filterMap_congr fun x hx => ?_
  cases x with
  | asked n q =>
    cases hq : q.isTouch with
    | true =>
      obtain ⟨r, hr, -⟩ := asked_act hk hx (Request.isStage_of_isTouch hq)
      simp [Signal.touch?, Act.touch?, told, hr, Render.act, hq]
    | false =>
      cases hr : k.after.render? n with
      | none => simp [Signal.touch?, told, hr, hq]
      | some r => simp [Signal.touch?, Act.touch?, told, hr, Render.act, hq]
  | returned n result =>
    cases hr : k.before.render? n with
    | none => simp [Signal.touch?, told, hr]
    | some r => simp [Signal.touch?, Act.touch?, told, hr, Render.act]
  | _ => rfl

theorem changes_moments (s : Setup) (d : Desk) (ms : List Move) :
    changes (d.moments s ms) = (d.history s ms).filterMap Act.touch? := by
  rw [changes, history, List.filterMap_flatMap]
  refine List.flatMap_congr fun k hk => ?_
  exact touch?_of_mem hk

/-- **Every run is a row of visits**: what changes the page is asked for in blocks, one for each
render that gets the page, in the order of the versions.  A render has the page for all of its
block, and what it evaluates there is the compiler's answer for its snippet, which is the one that its call has
asked for.  With no render at work, the page is free, or it is the turn of a render that has not yet come to it. -/
theorem page_in_visits (s : Setup) (ms : List Move) :
    ∃ bs : List Block,
      changes (moments s {} ms) = bs.flatMap Block.asked ∧
      touches (history s {} ms) = bs.flatMap Block.acts ∧
      (bs.Pairwise fun b c => b.version < c.version) ∧
      (∀ b ∈ bs, b.Backed s (history s {} ms)) ∧
      (∀ k ∈ moments s {} ms, k.Sourced) ∧
      (∀ k ∈ moments s {} ms, ∀ a ∈ k.acts, a.deed.isTouch = true → k.after.holder = some a.call) ∧
      (∀ n r, (after s {} ms).render? n = some r → r.point.works = true →
        (after s {} ms).holder = some n ∧ ∃ pre visit, bs = pre ++ [r.block n visit]) ∧
      ((∀ n r, (after s {} ms).render? n = some r → r.point.works = false) →
        (after s {} ms).holder = none ∧ (after s {} ms).queue = [] ∨
          ∃ n r w, (after s {} ms).holder = some n ∧ (after s {} ms).render? n = some r ∧
            r.point = .queue w ∧ ∀ b ∈ bs, b.version ≠ r.version) := by
  have idle : Idle {} := idle_engine {}
  have ho := orderly_after s idle.orderly ms
  obtain ⟨bs, hv⟩ := visited_after s idle ms
  refine ⟨bs, ?_, hv.touches, hv.sorted, hv.backed, fun k => sourced_of_mem idle.orderly, fun k hk => ?_,
    fun n r hr works => ?_, fun rest => ?_⟩
  · rw [changes_moments, ← filterMap_touches, hv.touches, List.filterMap_flatMap]
    exact List.flatMap_congr fun b _ => b.filterMap_acts
  · obtain ⟨ho, step⟩ := steps idle.orderly hk
    exact step_touch ho step
  · exact ⟨ho.works_holds n r hr works, (hv.place n r hr).last works⟩
  · cases hh : (after s {} ms).holder with
    | none => exact .inl ⟨rfl, ho.free hh⟩
    | some n =>
      obtain ⟨r, hr, works | ⟨w, hw⟩⟩ := ho.holder_render n hh
      · rw [rest n r hr] at works
        cases works
      · exact .inr ⟨n, r, w, rfl, hr, hw, (hv.place n r hr).new (rest n r hr)⟩

end Desk

end SnippetStudio.Preview
