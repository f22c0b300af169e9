import SnippetStudio.Proofs.Preview.Step

/-!
# What a turn of a render leaves of the engine

A turn of a render tells the engine what went wrong, or what is shown, and nothing else: whether there is
a root, and which snippet was asked for last, stay as they are (`Engine.Keeps`, `Render.keeps_answer`).

So the snippet asked for last is written where a render begins, and nowhere else.  Everything that goes on at
the desk leaves it alone (`Desk.source_answer`, `Desk.source_resume`, `Desk.source_cancel`), whoever is
waiting there.  Of the commands, a render begins with its snippet and a refresh with the one that is asked
for already (`Desk.source_start`).
-/

namespace SnippetStudio.Preview

/-- there is a root or not as before, and the same snippet is asked for -/
structure Engine.Keeps (e e' : Engine) : Prop where
  initialized : e'.initialized = e.initialized
  source : e'.source = e.source

theorem Engine.Keeps.trans {e₁ e₂ e₃ : Engine} (h : e₁.Keeps e₂) (h' : e₂.Keeps e₃) : e₁.Keeps e₃ :=
  ⟨h'.initialized.trans h.initialized, h'.source.trans h.source⟩

namespace Render

variable (s : Setup) (e : Engine) (r : Render)

theorem keeps_poll : e.Keeps (r.poll e).engine := by
  unfold poll
  split <;> exact ⟨rfl, rfl⟩

theorem keeps_fail (f : Failure) : e.Keeps (fail e r f).engine := by
  unfold fail
  split <;> exact ⟨rfl, rfl⟩

theorem keeps_failWith (stage : Stage) (error : Json) : e.Keeps (failWith e r stage error).engine := by
  unfold failWith
  split
  · exact keeps_fail e r _
  · exact ⟨rfl, rfl⟩

theorem keeps_trouble (t : Trouble) : e.Keeps (trouble s e r t).engine := by
  cases t <;> exact ⟨rfl, rfl⟩

theorem keeps_enter (w : Work) : e.Keeps (r.enter e w).engine := by
  cases w with
  | report f => exact keeps_fail e r f
  | mount code =>
    simp only [enter]
    split <;> exact ⟨rfl, rfl⟩

/-- **Whatever the page answers, a render leaves the root and the snippet asked for as they are.** -/
theorem keeps_answer (o : Outcome) : e.Keeps (r.answer s e o).engine := by
  unfold answer
  split
  · split
    · exact ⟨rfl, rfl⟩
    · exact keeps_trouble s e r _
  · split
    · exact ⟨rfl, rfl⟩
    · exact keeps_trouble s e r _
  · split
    · exact keeps_fail e r _
    · split
      · split <;> exact ⟨rfl, rfl⟩
      · exact keeps_failWith e r _ _
  · split
    · exact keeps_fail e r _
    · split
      · exact ⟨rfl, rfl⟩
      · exact keeps_failWith e r _ _
  · split <;> exact ⟨rfl, rfl⟩
  all_goals exact ⟨rfl, rfl⟩

end Render

namespace Desk

variable (s : Setup) (d : Desk) (n : Nat)

theorem engine_leave (result : Except Fault Result) : (d.leave n result).1.engine = d.engine := by
  simp only [leave]
  split
  · unfold pass
    split <;> rfl
  · rfl

theorem engine_settleHeld (t : Turn) : (d.settleHeld n t).1.engine = t.engine := by
  simp only [settleHeld]
  split
  · rfl
  · rfl
  · rfl
  · exact engine_leave _ n (.ok .nothing)
  · next f _ => exact engine_leave _ n (.error f)

theorem keeps_enter (r : Render) (w : Work) : d.engine.Keeps (d.enter n r w).1.engine := by
  rw [enter, engine_settleHeld]
  exact r.keeps_enter d.engine w

theorem keeps_settle (t : Turn) : t.engine.Keeps (d.settle n t).1.engine := by
  simp only [settle]
  split
  · split
    · exact keeps_enter { d with engine := t.engine } n _ _
    · exact ⟨rfl, rfl⟩
  · rw [engine_settleHeld]
    exact ⟨rfl, rfl⟩

theorem keeps_resume : d.engine.Keeps (d.resume n).1.engine := by
  unfold resume
  split
  · split
    · exact (Render.keeps_poll _ _).trans (keeps_settle d n _)
    · split
      · exact keeps_enter d n _ _
      · exact ⟨rfl, rfl⟩
    · exact ⟨rfl, rfl⟩
  · exact ⟨rfl, rfl⟩

theorem keeps_cancel : d.engine.Keeps (d.cancel n).1.engine := by
  unfold cancel
  split
  · exact ⟨rfl, rfl⟩
  · rw [engine_leave]
    exact ⟨rfl, rfl⟩

theorem source_answer (o : Outcome) : (d.answer s n o).1.engine.source = d.engine.source := by
  unfold answer
  split
  · rfl
  · next _ r _ =>
    split
    · rfl
    · rfl
    · exact ((Render.keeps_answer s d.engine r _).trans (keeps_settle d n _)).source
  · rw [engine_leave]
  · simp only [initialized]
    rw [engine_leave]
  all_goals rw [engine_leave]

theorem source_resume : (d.resume n).1.engine.source = d.engine.source := (d.keeps_resume n).source

theorem source_cancel : (d.cancel n).1.engine.source = d.engine.source := (d.keeps_cancel n).source

theorem source_startRender (source : String) :
    (d.startRender n source).1.engine.source = some source := by
  rw [startRender, (keeps_settle d n _).source, (Render.keeps_poll _ _).source]
  rfl

/-- a render begins at once, or is refused -/
theorem source_render (source : String) : (d.start n (.render source)).1.engine.source =
    if d.engine.initialized then some source else d.engine.source := by
  simp only [start]
  split
  · exact source_startRender d n source
  · rfl

/-- no other command changes the snippet asked for -/
theorem source_start {c : Command} (h : ∀ source, c ≠ .render source) :
    (d.start n c).1.engine.source = d.engine.source := by
  cases c with
  | render source => exact absurd rfl (h source)
  | refresh =>
    simp only [start]
    split
    · rfl
    · split
      · rfl
      · next source wanted =>
        rw [wanted]
        exact source_startRender d n source
  | shutdown => rfl
  | makeRoot | html | screenshot =>
    simp only [start]
    split <;> rfl

/-- a command that renders a snippet is what is asked for then -/
theorem source_of_renders {c : Command} {source : String} (renders : c.renders d.engine source)
    (awake : d.engine.initialized = true) : (d.start n c).1.engine.source = some source := by
  cases c with
  | render text =>
    cases renders
    rw [source_render, if_pos awake]
  | refresh =>
    rw [source_start d n (by intro t h; cases h)]
    exact renders
  | _ => cases renders

theorem renders_of_source {c : Command}
    (h : (d.start n c).1.engine.source ≠ d.engine.source) :
    d.engine.initialized = true ∧ ∃ source, c.renders d.engine source := by
  cases c with
  | render text =>
    cases awake : d.engine.initialized with
    | true => exact ⟨rfl, text, rfl⟩
    | false =>
      rw [source_render, awake] at h
      exact absurd rfl h
  | _ => exact absurd (source_start d n (by intro t h; cases h)) h

theorem returned_cancel (result : Result) : .returned n (.ok result) ∉ (d.cancel n).2 := by
  unfold cancel
  split
  · exact List.not_mem_nil
  · simp only [leave]
    split
    · unfold pass
      split <;> simp
    · simp

end Desk

end SnippetStudio.Preview
