import SnippetStudio.Proofs.Diagnostic.Position
import SnippetStudio.Proofs.Preview.Versions

/-!
# What comes through to the caller

An error of a snippet is recorded and shown, and the call returns as if nothing had happened.  There
is one gap: a description that has no text ends the call, since it is read outside of all
precautions while a text is evaluated or mounted (`Moment.Overruns`).  `Desk.raises_iff_overruns`:
**a render that is not cancelled fails itself just then**.
-/

namespace SnippetStudio.Preview

/-- the call is a render that is under way, or begins -/
def Moment.Renders (k : Moment) (n : Nat) : Prop :=
  (∃ r, k.before.render? n = some r) ∨
    k.before.engine.initialized = true ∧
      (k.move = .start n .refresh ∨ ∃ source, k.move = .start n (.render source))

/-- while it evaluates or mounts its text, the render hears of an error whose position cannot be
read -/
def Moment.Overruns (k : Moment) (n : Nat) : Prop :=
  ∃ r reply, k.before.render? n = some r ∧ (r.point = .instantiate ∨ r.point = .mount) ∧
    k.move = .answer n (.ok reply) ∧ reply.ok = false ∧ Diagnostic.Overlong reply.error

namespace Desk

variable {s : Setup} {d d' : Desk} {m : Move} {n : Nat} {r : Render} {acts : List Act}

/-- a render fails itself by a description without a text, or because it is cancelled -/
theorem step_ends (step : Step s d m d' acts) {a : Act} (ha : a ∈ acts) {f : Fault}
    (ends : a.deed = .ends (.error f)) :
    m = .cancel a.call ∨ ∃ r reply, d.render? a.call = some r ∧
      (r.point = .instantiate ∨ r.point = .mount) ∧ m = .answer a.call (.ok reply) ∧
      reply.ok = false ∧ Diagnostic.runtimeMessage reply.error = .error f := by
  cases step_does step a ha with
  | raises h at_ answer bad unreadable =>
    cases ends
    exact .inr ⟨_, _, h, at_, answer, bad, unreadable⟩
  | cancels h cancel => exact .inl cancel
  | begins | starts | hears | polls | transforms | touches | ends => cases ends

theorem startRender_signals (d : Desk) (n : Nat) (source : String) :
    (d.startRender n source).2 = [.asked n .compilerReady] := by
  simp [startRender, settle, settleHeld, Render.poll, Render.ask, Engine.supersedes, Engine.request]

theorem start_returns (initialized : d.engine.initialized = true) {c : Command}
    (renders : c = .refresh ∨ ∃ source, c = .render source) (f : Fault) :
    .returned n (.error f) ∉ (d.move s (.start n c)).2 := by
  simp only [move]
  split
  · exact List.not_mem_nil
  · rcases renders with rfl | ⟨source, rfl⟩
    · simp only [start, initialized]
      split
      · next h => cases h
      · split
        · simp
        · simp [startRender_signals]
    · simp [start, initialized, startRender_signals]

/-- a description without a text ends the call -/
theorem answer_overlong {reply : Reply} {f : Fault} (h : d.render? n = some r)
    (at_ : r.point = .instantiate ∨ r.point = .mount) (bad : reply.ok = false)
    (unreadable : Diagnostic.runtimeMessage reply.error = .error f) :
    .returned n (.error f) ∈ (d.move s (.answer n (.ok reply))).2 := by
  have ht :
      r.answer s d.engine (.ok reply) = { engine := d.engine, render := r, next := .failed f } := by
    rcases at_ with at_ | at_ <;> simp [Render.answer, Render.failWith, at_, bad, unreadable]
  have hm :
      d.move s (.answer n (.ok reply)) = d.settleHeld n (r.answer s d.engine (.ok reply)) := by
    rcases at_ with at_ | at_ <;>
      simp [move, answer, render?_eq_some.mp h, at_, settle_of_ne_want, ht]
  rw [hm, ht]
  simp [settleHeld, leave]

/-- **A render that is not cancelled fails itself just when it hears of an error whose position
cannot be read**, while it evaluates or mounts its text.  All other errors that the page describes,
all faults of the page, and all errors of the compiler stay inside. -/
theorem raises_iff_overruns (s : Setup) (e : Engine) (ms : List Move) {k : Moment}
    (hk : k ∈ moments s { engine := e } ms) {n : Nat} (renders : k.Renders n)
    (kept : k.move ≠ .cancel n)
    (shaped : ∀ reply, k.move = .answer n (.ok reply) → reply.ok = false →
      Diagnostic.Shaped reply.error) :
    (∃ f, .returned n (.error f) ∈ k.signals) ↔ k.Overruns n := by
  constructor
  · rintro ⟨f, hf⟩
    rcases renders with ⟨r, hr⟩ | ⟨initialized, starts⟩
    · have ha : r.act n (.ends (.error f)) ∈ k.acts := by
        refine List.mem_append_right _ (List.mem_filterMap.mpr ⟨_, hf, ?_⟩)
        simp only [told, hr, Option.map_some]
      rcases step_ends (steps (idle_engine e).orderly hk).2 ha rfl with
        cancel | ⟨x, reply, hx, at_, h⟩
      · exact absurd cancel kept
      · obtain ⟨hm, bad, unreadable⟩ := h
        have long := Diagnostic.overlong_of_runtimeMessage (shaped reply hm bad) unreadable
        exact ⟨x, reply, hx, at_, hm, bad, long⟩
    · have hm := mem_moments hk
      obtain ⟨c, hc, hmove⟩ : ∃ c : Command, (c = .refresh ∨ ∃ source, c = .render source) ∧
          k.move = .start n c := by
        rcases starts with h | ⟨source, h⟩
        · exact ⟨_, .inl rfl, h⟩
        · exact ⟨_, .inr ⟨source, rfl⟩, h⟩
      rw [hm, hmove] at hf
      exact absurd hf (start_returns initialized hc f)
  · rintro ⟨r, reply, hr, at_, hmove, bad, long⟩
    obtain ⟨f, unreadable, -⟩ := Diagnostic.runtimeMessage_of_overlong long
    refine ⟨f, ?_⟩
    rw [mem_moments hk, hmove]
    exact answer_overlong hr at_ bad unreadable

/-- a render whose text is refused with a position that is one digit too long -/
def overrun : List Move :=
  [.start 0 (.render "x"), .answer 0 (.ok {}), .answer 0 (.ok { code := some .null }),
    .answer 0 (.ok { ok := false, error := Diagnostic.boom (Text.integerLimit + 1) })]

theorem raises_iff_overruns_boom :
    ∃ k ∈ moments default { engine := { initialized := true } } overrun,
      k.Renders 0 ∧ k.move ≠ .cancel 0 ∧
      (∀ reply, k.move = .answer 0 (.ok reply) → reply.ok = false → Diagnostic.Shaped reply.error) ∧
      ∃ f, .returned 0 (.error f) ∈ k.signals := by
  let reply : Reply := { ok := false, error := Diagnostic.boom (Text.integerLimit + 1) }
  let before := after default { engine := { initialized := true } } (overrun.take 3)
  let k := before.moment default (.answer 0 (.ok reply))
  have hk : k ∈ moments default { engine := { initialized := true } } overrun :=
    List.mem_cons_of_mem _ (List.mem_cons_of_mem _ (List.mem_cons_of_mem _ (List.mem_cons_self ..)))
  have under : k.before.render? 0 = some { version := 1, source := "x", point := .instantiate } :=
    rfl
  have renders : k.Renders 0 := .inl ⟨_, under⟩
  have kept : k.move ≠ .cancel 0 := nofun
  have shaped : ∀ reply, k.move = .answer 0 (.ok reply) → reply.ok = false →
      Diagnostic.Shaped reply.error := by
    intro x hx _
    cases hx
    exact Diagnostic.shaped_boom _
  have long := Diagnostic.overlong_boom (Nat.lt_succ_self Text.integerLimit)
  exact ⟨k, hk, renders, kept, shaped,
    (raises_iff_overruns default { initialized := true } overrun hk renders kept shaped).mpr
      ⟨_, reply, under, .inl rfl, rfl, rfl, long⟩⟩

end Desk

end SnippetStudio.Preview
