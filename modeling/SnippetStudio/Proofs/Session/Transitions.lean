import SnippetStudio.Proofs.Session.Asides

/-!
# How a session comes from one phase to the next

Starts, stops and the answers to them take a session from phase to phase (`Next`).

* `shift_start`, `shift_opening`, `shift_rooting`    the way up: the page is loaded, and the root is made;
* `shift_launch`                                     the engine follows the buffer from then on;
* `shift_stops`, `shift_stopping`, `shift_closing`   the way down: the first render ends, the page is closed;
* `shift_cancel`                                     **the first render is cancelled, wherever it waits**.
-/

namespace SnippetStudio.Session

open Preview (Desk Signal Setup Result Call Reply Outcome)

variable {setup : Setup} {s s₁ : Session} {p : Phase} {n : Nat} {d : Desk} {f : First}

/-- what a move does to the phase -/
inductive Next : Phase → Move → Phase → Prop
  | stays {p : Phase} {m : Move} (other : m ≠ .start .stop) : Next p m p
  | opens {n : Nat} : Next .off (.start .start) (.opening n)
  | loaded {n : Nat} {r : Reply} : Next (.opening n) (.answer n (.ok r)) (.rooting n)
  /-- the page cannot be loaded -/
  | unloaded {n : Nat} {f : Fault} : Next (.opening n) (.answer n (.error f)) .off
  | rooted {n : Nat} {r : Reply} : Next (.rooting n) (.answer n (.ok r)) .on
  | unrooted {n : Nat} {f : Fault} : Next (.rooting n) (.answer n (.error f)) .off
  /-- a stop waits for the first render to end, unless it has ended -/
  | stops {n : Nat} : Next .on (.start .stop) (.stopping n)
  | closes {n : Nat} {p : Phase} (rest : p.under = none) :
      Next p (.start .stop) (.closing n p.marks.started)
  | ended {n : Nat} : Next (.stopping n) (.resume n) (.closing n true)
  | closed {n : Nat} {started : Bool} {r : Reply} : Next (.closing n started) (.answer n (.ok r)) .off

/-! ## The way up -/

theorem shift_start (hs : s.Kept .off) : Shift s (.opening s.next) (s.took.begin s.next .start) := by
  have off : s.took.started = false := congrArg Marks.started hs.marks
  have opening : Moves s.took s.next s.desk (some .opening)
      (s.took.put s.next .opening, [.asked s.next (.start s.components)]) :=
    .goesOn (fun k => Roster.find?_put _ k _ _) hs.free fun f hf own =>
      absurd own (hs.sound.ne_of_new (Nat.le_refl _) hf)
  simp only [begin, off]
  refine ⟨Kept.moves (hs.opened rfl) (Nat.lt_succ_self _) opening (fun _ _ => rfl) ?_ fun k => ?_,
    opening.carries rfl id rfl (Nat.le_succ _) (.inl (Nat.le_refl _))⟩
  · have same : s.desk.engine.initialized = false := congrArg Marks.initialized hs.marks
    rw [same]
    rfl
  · rfl

theorem shift_started (hs : s.Kept .on) : Shift s .on (s.took.begin s.next .start) := by
  have on : s.took.started = true := congrArg Marks.started hs.marks
  simp only [begin, on]
  exact shift_finish hs rfl _

theorem shift_opening (hs : s.Kept (.opening n)) (h : s.activities.find? n = some .opening)
    (o : Outcome) :
    ∃ p', Next (.opening n) (.answer n o) p' ∧ Shift s p' (s.answer setup n o) := by
  have lt := hs.sound.lt_of_find h
  have asleep : s.desk.engine.initialized = false := congrArg Marks.initialized hs.marks
  have free : s.desk.calls.find? n = none := hs.sound.has h
  have there : s.next ≤ n ∨ (s.activities.find? n).isSome = true := .inr (by rw [h]; rfl)
  cases o with
  | error f =>
    have ends : Moves s n s.desk none (s.finish n (.error f)) :=
      .ends free (finish_keeps s n _).2.2.2.2.2
    refine ⟨.off, .unloaded, ?_⟩
    simp only [answer, h]
    refine ⟨hs.moves lt ends (fun _ _ => rfl) (by rw [asleep]; rfl) fun k => ?_,
      ends.carries rfl id rfl (Nat.le_refl _) there⟩
    by_cases own : k = n <;> simp [Phase.stage?, Phase.under, own]
  | ok r =>
    have asks : s.answer setup n (.ok r) =
        ({ s.put n .rooting with desk := s.desk.put n .makeRoot }, [.asked n .createRoot]) := by
      simp [answer, h, went, put, Desk.start, asleep, Desk.askOnce, returned?, last]
    have goes : Moves s n (s.desk.put n .makeRoot) (some .rooting)
        ({ s.put n .rooting with desk := s.desk.put n .makeRoot }, [.asked n .createRoot]) := by
      refine .goesOn (fun k => Roster.find?_put _ k n _) (Roster.find?_put_self _ n _) ?_
      intro f hf own
      have renders := (hs.sound.first_of_find h hf own).2
      cases renders
    refine ⟨.rooting n, .loaded, ?_⟩
    rw [asks]
    refine ⟨hs.moves lt goes (fun k hk => Roster.find?_put_of_ne _ _ hk) ?_ fun k => ?_,
      goes.carries rfl id rfl (Nat.le_refl _) there⟩
    · show { Phase.marks _ with initialized := s.desk.engine.initialized } = _
      rw [asleep]
      rfl
    · by_cases own : k = n <;> simp [Phase.stage?, Phase.under, own, Activity.stage?]

theorem launch_eq (d : Desk) (ne : s.next ≠ n) : (launch { s with desk := d } n).1 =
    { s with
      desk := d, buffer := s.buffer.subscribe .render, subscribed := true, started := true,
      first := some { number := s.next }, next := s.next + 1,
      activities := (s.activities.put s.next (.first s.buffer.text)).drop n } := by
  simp [launch, subscribe, put, finish, ne, Buffer.subscribe, Buffer.text]

theorem find?_launch (d : Desk) (ne : s.next ≠ n) (k : Nat) :
    (launch { s with desk := d } n).1.activities.find? k =
      if k = n then none else if k = s.next then some (.first s.buffer.text)
        else s.activities.find? k := by
  rw [launch_eq d ne]
  show Roster.find? (Roster.drop _ n) k = _
  rw [Roster.find?_drop, Roster.find?_put]

theorem sound_launch (sound : s.Sound) (lt : n < s.next) (gone : d.calls.find? n = none)
    (others : ∀ k, k ≠ n → d.calls.find? k = s.desk.calls.find? k) :
    (launch { s with desk := d } n).1.Sound := by
  have ne : s.next ≠ n := by omega
  have view := find?_launch d ne
  rw [launch_eq d ne] at view ⊢
  refine ⟨fun k => ?_, fun k hk => ?_, fun f hf => ?_⟩
  · rw [view]
    show Fits _ (d.calls.find? k)
    by_cases own : k = n
    · rw [if_pos own, own]
      exact gone
    · rw [if_neg own, others k own]
      by_cases new : k = s.next
      · rw [if_pos new, new]
        exact sound.no_call (sound.new _ (Nat.le_refl _))
      · rw [if_neg new]
        exact sound.fits k
  · have bound : s.next + 1 ≤ k := hk
    rw [view, if_neg (by omega), if_neg (by omega)]
    exact sound.new k (by omega)
  · cases hf
    refine ⟨Nat.lt_succ_self _, ?_⟩
    show First.Fits _ (Roster.find? _ s.next)
    rw [view, if_neg ne, if_pos rfl]
    exact ⟨rfl, rfl⟩

theorem carries_launch (none : s.first = none) (lt : n < s.next) (signals : List Signal) :
    Carries s ((launch { s with desk := d } n).1, signals) := by
  have ne : s.next ≠ n := by omega
  have view := find?_launch d ne
  rw [launch_eq d ne] at view ⊢
  refine ⟨Nat.le_succ _, fun k lt free => ?_, fun f hf => ?_, fun f result hf ended => ?_,
    fun _ _ => ⟨_, rfl, rfl, ?_⟩⟩
  · show Roster.find? _ k = _
    rw [view, free, if_neg (Nat.ne_of_lt lt), ite_self]
  · rw [none] at hf
    cases hf
  · cases hf
    cases ended
  · show Roster.find? _ s.next = _
    rw [view, if_neg ne, if_pos rfl]
    rfl

theorem shift_launch (hs : s.Kept (.rooting n)) (lt : n < s.next) (gone : d.calls.find? n = none)
    (others : ∀ k, k ≠ n → d.calls.find? k = s.desk.calls.find? k)
    (awake : d.engine.initialized = true) (signals : List Signal) :
    Shift s .on ((launch { s with desk := d } n).1, signals) := by
  have ne : s.next ≠ n := by omega
  have none : s.first = none := Option.map_eq_none_iff.mp (congrArg Marks.doomed hs.marks)
  have nobody : s.buffer.listeners = [] := congrArg Marks.listeners hs.marks
  refine ⟨⟨sound_launch hs.sound lt gone others, ?_, fun k => ?_⟩, carries_launch none lt signals⟩
  · rw [launch_eq d ne]
    simp [Session.marks, Phase.marks, Buffer.subscribe, nobody, awake]
  · -- nobody but the start that is over had a stage
    have before := hs.stage k
    simp only [Session.stage?, Phase.stage?, Phase.under, Option.bind_some, Option.bind_none]
      at before ⊢
    rw [find?_launch d ne]
    by_cases own : k = n
    · rw [if_pos own]
      rfl
    · rw [if_neg own] at before ⊢
      split
      · rfl
      · exact before

theorem returned_initialized (d : Desk) (n : Nat) (created : Bool) :
    returned? (d.initialized n created).2 n = some (.ok .nothing) ∧
      (d.initialized n created).1.calls.find? n = none ∧
      (d.initialized n created).1.engine.initialized = true := by
  let d' : Desk := { d with engine := { d.engine with initialized := true } }
  obtain ⟨told, gone⟩ := returned_leave d' n (.ok .nothing)
  have awake : (d'.leave n (.ok .nothing)).1.engine.initialized = true := by
    rw [Desk.engine_leave]
  cases created with
  | true => exact ⟨(returned_said_append ["[preview] Mount root ready"] _ n).trans told, gone, awake⟩
  | false =>
    exact ⟨(returned_said_append ["[preview] Host already had a root, reusing it",
      "[preview] Mount root ready"] _ n).trans told, gone, awake⟩

theorem shift_rooting (hs : s.Kept (.rooting n)) (h : s.activities.find? n = some .rooting)
    (o : Outcome) :
    ∃ p', Next (.rooting n) (.answer n o) p' ∧ Shift s p' (s.answer setup n o) := by
  have lt := hs.sound.lt_of_find h
  have asleep : s.desk.engine.initialized = false := congrArg Marks.initialized hs.marks
  have call : s.desk.calls.find? n = some .makeRoot := hs.sound.has h
  cases o with
  | error f =>
    obtain ⟨told, gone⟩ := returned_leave s.desk n (.error f)
    have ends : Moves s n (s.desk.leave n (.error f)).1 none (s.answer setup n (.error f)) := by
      simp only [answer, h, Desk.answer, call, went, told, last]
      exact .ends gone (List.mem_append_right _ (finish_keeps _ n _).2.2.2.2.2)
    refine ⟨.off, .unrooted, hs.moves lt ends (Desk.answers_leave s.desk n _).others ?_ fun k => ?_,
      ends.carries rfl id rfl (Nat.le_refl _) (.inr (by rw [h]; rfl))⟩
    · rw [Desk.engine_leave, asleep]
      rfl
    · by_cases own : k = n <;> simp [Phase.stage?, Phase.under, own]
  | ok r =>
    obtain ⟨told, gone, awake⟩ := returned_initialized s.desk n r.ok
    refine ⟨.on, .rooted, ?_⟩
    simp only [answer, h, Desk.answer, call, went, told]
    exact shift_launch hs lt gone (Desk.answers_initialized s.desk n r.ok).others awake _

/-! ## The way down -/

theorem shift_close {started : Bool} (sound : s₁.Sound) (lt : n < s₁.next)
    (marks : s₁.started = started ∧ s₁.buffer.listeners = [] ∧ s₁.subscribed = false)
    (stage : ∀ k, k ≠ n → s₁.stage? k = none) (past : ∀ f, s.first = some f → f.ended ≠ none)
    (activities : s₁.activities = s.activities) (next : s.next ≤ s₁.next)
    (own : s.next ≤ n ∨ (s.activities.find? n).isSome = true) (off : started = true → s.started = true) :
    Shift s (.closing n started) (s₁.close n) := by
  obtain ⟨rfl, listeners, subscribed⟩ := marks
  let s₂ : Session := { s₁ with first := none }
  have sound₂ : s₂.Sound := ⟨sound.fits, sound.new, fun f hf => by cases hf⟩
  have closes : Moves s₂ n (s₁.desk.start n .shutdown).1 (some .closing) (s₁.close n) :=
    .goesOn (fun k => Roster.find?_put _ k n _) (Roster.find?_put_self _ n _) fun f hf => by cases hf
  have others : ∀ k, k ≠ n → (s₁.desk.start n .shutdown).1.calls.find? k = s₁.desk.calls.find? k :=
    fun k hk => Roster.find?_put_of_ne _ _ hk
  refine ⟨⟨sound₂.moves lt closes others, ?_, fun k => ?_⟩, ⟨?_, ?_, fun f hf going => ?_, ?_, ?_⟩⟩
  · rw [closes.marks]
    simp [s₂, Session.marks, Phase.marks, listeners, subscribed, Desk.start, Desk.askOnce, Desk.put]
  · rw [closes.stage]
    by_cases at_ : k = n
    · simp [at_, Phase.stage?, Phase.under, Activity.stage?]
    · rw [if_neg at_]
      show s₁.stage? k = _
      simp [stage k at_, Phase.stage?, Phase.under, at_]
  · rw [closes.next]
    exact next
  · exact closes.gone activities own
  · exact absurd going (past f hf)
  · intro f result hf
    cases hf
  · intro off' on
    rw [off on] at off'
    cases off'

theorem Kept.unsubscribed (hs : s.Kept p) (rest : p.under = none) : ∃ b : Buffer Follower,
    s.took.unsubscribe = { s.took with buffer := b, subscribed := false } ∧ b.listeners = [] := by
  have marks : s.subscribed = p.marks.subscribed ∧ s.buffer.listeners = p.marks.listeners :=
    ⟨congrArg Marks.subscribed hs.marks, congrArg Marks.listeners hs.marks⟩
  cases p with
  | off =>
    have still : s.took.subscribed = false := marks.1
    refine ⟨s.buffer, ?_, marks.2⟩
    rw [unsubscribe, still, if_neg Bool.false_ne_true]
    simp only [took, marks.1]
    rfl
  | on =>
    have registered : s.took.subscribed = true := marks.1
    refine ⟨s.buffer.unsubscribe .render, ?_, ?_⟩
    · rw [unsubscribe, registered, if_pos rfl]
      rfl
    · show s.buffer.listeners.erase .render = []
      rw [marks.2]
      rfl
  | _ => cases rest

theorem shift_closes (hs : s.Kept p) (rest : p.under = none)
    (past : ∀ f, s.first = some f → f.ended ≠ none) :
    Shift s (.closing s.next p.marks.started) (s.took.stop s.next) := by
  obtain ⟨b, silent, listeners⟩ := hs.unsubscribed rest
  have closes : s.took.stop s.next = s.took.unsubscribe.close s.next := by
    simp only [stop]
    split
    · next number doomed going =>
      rw [silent] at going
      exact absurd rfl (past _ going)
    · rfl
  have started : s.started = p.marks.started := congrArg Marks.started hs.marks
  rw [closes, silent]
  refine shift_close ⟨hs.sound.fits, hs.sound.took.new, hs.sound.took.first⟩ (Nat.lt_succ_self _)
    ⟨started, listeners, rfl⟩ (fun k _ => ?_) past rfl (Nat.le_succ _) (.inl (Nat.le_refl _))
    fun on => started.trans on
  show s.stage? k = none
  rw [hs.stage, Phase.stage?, rest]
  rfl

theorem shift_stops (hs : s.Kept .on) (hf : s.first = some f) (going : f.ended = none) :
    Shift s (.stopping s.next) (s.took.stop s.next) ∧
      (s.took.stop s.next).1.first = some { f with doomed := true } := by
  obtain ⟨b, silent, listeners⟩ := hs.unsubscribed rfl
  obtain ⟨number, doomed, ended⟩ := f
  cases going
  let s₂ : Session :=
    { s.took with buffer := b, subscribed := false, first := some { number, doomed := true } }
  have waits : s.took.stop s.next = (s₂.put s.next .stopping, [.stopped number]) := by
    have first : s.took.unsubscribe.first = some ⟨number, doomed, none⟩ := by
      rw [silent]
      exact hf
    simp only [stop, first]
    rw [silent]
    rfl
  obtain ⟨bound, fits⟩ := hs.sound.first _ hf
  have sound₂ : s₂.Sound := by
    refine ⟨hs.sound.fits, hs.sound.took.new, fun f hf' => ?_⟩
    cases hf'
    exact ⟨Nat.lt_succ_of_lt bound, fits⟩
  have stops : Moves s₂ s.next s.desk (some .stopping) (s₂.put s.next .stopping, [.stopped number]) :=
    .goesOn (fun k => Roster.find?_put _ k _ _) hs.free fun f hf' own => by
      cases hf'
      exact absurd own (Nat.ne_of_lt bound)
  rw [waits]
  refine ⟨⟨⟨sound₂.moves (Nat.lt_succ_self _) stops fun _ _ => rfl, ?_, fun k => ?_⟩,
    ⟨Nat.le_succ _, stops.gone rfl (.inl (Nat.le_refl _)), fun f hf' going => ?_,
      fun f result hf' ended => ?_, fun off => ?_⟩⟩, rfl⟩
  · have marks := hs.marks
    simp only [Session.marks, Phase.marks, Marks.mk.injEq] at marks
    simp [s₂, Session.marks, Phase.marks, put, took, listeners, marks.1, marks.2.1]
  · rw [stops.stage]
    by_cases own : k = s.next
    · simp [own, Phase.stage?, Phase.under, Activity.stage?]
    · rw [if_neg own]
      show s.stage? k = _
      rw [hs.stage]
      simp [Phase.stage?, Phase.under, own]
  · rw [hf] at hf'
    cases hf'
    exact .inl ⟨_, rfl, rfl, rfl⟩
  · cases hf'
    cases ended
  · have on : s.started = true := congrArg Marks.started hs.marks
    rw [on] at off
    cases off

theorem shift_stopping (hs : s.Kept (.stopping n)) (h : s.activities.find? n = some .stopping) :
    ∃ p', Next (.stopping n) (.resume n) p' ∧ Shift s p' (s.resume n) ∧
      ((∀ f, s.first = some f → f.ended ≠ none) → p' = .closing n true) := by
  by_cases going : ∃ f, s.first = some f ∧ f.ended = none
  · obtain ⟨⟨number, doomed, ended⟩, hf, rfl⟩ := going
    have waits : s.resume n = (s, []) := by simp only [resume, h, hf]
    rw [waits]
    exact ⟨_, .stays (by simp), shift_nothing hs, fun past => absurd rfl (past _ hf)⟩
  · have past : ∀ f, s.first = some f → f.ended ≠ none := fun f hf none => going ⟨f, hf, none⟩
    have closes : s.resume n = s.close n := by
      simp only [resume, h]
      split
      · next hf => exact absurd rfl (past _ hf)
      · rfl
    have started : s.started = true := congrArg Marks.started hs.marks
    rw [closes]
    refine ⟨_, .ended, shift_close hs.sound (hs.sound.lt_of_find h)
      ⟨started, congrArg Marks.listeners hs.marks, congrArg Marks.subscribed hs.marks⟩
      (fun k other => ?_) past rfl (Nat.le_refl _) (.inr (by rw [h]; rfl)) fun _ => started,
      fun _ => rfl⟩
    rw [hs.stage]
    simp [Phase.stage?, Phase.under, other]

theorem shift_closing (setup : Setup) {started : Bool} (hs : s.Kept (.closing n started))
    (h : s.activities.find? n = some .closing) (r : Reply) :
    Shift s .off (s.answer setup n (.ok r)) ∧
      .returned n (.ok .nothing) ∈ (s.answer setup n (.ok r)).2 := by
  have call : s.desk.calls.find? n = some .shutdown := hs.sound.has h
  obtain ⟨told, gone⟩ := returned_leave s.desk n (.ok .nothing)
  let s₁ : Session := { s with started := false }
  have hs₁ : s₁.Kept (.closing n false) := by
    refine ⟨⟨hs.sound.fits, hs.sound.new, hs.sound.first⟩, ?_, hs.stage⟩
    have marks := hs.marks
    simp only [Session.marks, Phase.marks, Marks.mk.injEq] at marks ⊢
    exact ⟨rfl, marks.2⟩
  have returned : .returned n (.ok .nothing) ∈ (s.answer setup n (.ok r)).2 := by
    simp only [answer, h, Desk.answer, call, went, told]
    exact List.mem_append_right _ (List.mem_cons_of_mem _ (finish_keeps _ n _).2.2.2.2.2)
  have ends : Moves s₁ n (s.desk.leave n (.ok .nothing)).1 none (s.answer setup n (.ok r)) := by
    simp only [answer, h, Desk.answer, call, went, told] at returned ⊢
    exact .ends (s := s₁) gone returned
  have asleep : s.desk.engine.initialized = false := congrArg Marks.initialized hs.marks
  refine ⟨⟨hs₁.moves (hs.sound.lt_of_find h) ends (Desk.answers_leave s.desk n _).others ?_ fun k => ?_,
    ends.carries rfl (fun on => by cases on) rfl (Nat.le_refl _) (.inr (by rw [h]; rfl))⟩, returned⟩
  · rw [Desk.engine_leave, asleep]
    rfl
  · by_cases own : k = n <;> simp [Phase.stage?, Phase.under, own]

/-- **The first render is cancelled, wherever it waits.** -/
theorem shift_cancel (hs : s.Kept p) (hf : s.first = some f) (going : f.ended = none) :
    Shift s p (s.cancel f.number) ∧ .returned f.number (.error .cancelled) ∈ (s.cancel f.number).2 ∧
      (s.cancel f.number).1.first = some { f with ended := some (.error .cancelled) } := by
  obtain ⟨bound, fits⟩ := hs.sound.first f hf
  cases h : s.activities.find? f.number with
  | none =>
    rw [h, First.Fits, going] at fits
    cases fits
  | some a =>
    rw [h] at fits
    have has := hs.sound.has h
    have ended (d : Desk) (signals : List Signal) (gone : d.calls.find? f.number = none)
        (others : ∀ k, k ≠ f.number → d.calls.find? k = s.desk.calls.find? k)
        (initialized : d.engine.initialized = s.desk.engine.initialized)
        (told : .returned f.number (.error .cancelled) ∈ signals)
        (cancelled : s.cancel f.number =
          (({ s with desk := d }.finish f.number (.error .cancelled)).1, signals)) :
        Shift s p (s.cancel f.number) ∧
          .returned f.number (.error .cancelled) ∈ (s.cancel f.number).2 ∧
          (s.cancel f.number).1.first = some { f with ended := some (.error .cancelled) } := by
      rw [cancelled]
      refine ⟨shift_goes hs h ?_ ⟨none, .ends gone told, rfl⟩ others initialized, told, ?_⟩
      · cases a with
        | first | plain => rfl
        | _ => cases fits.2
      · rw [first_finish]
        show s.first.map _ = _
        rw [hf, Option.map_some, if_pos rfl]
    cases a with
    | first text =>
      exact ended s.desk _ has (fun _ _ => rfl) rfl (finish_keeps s _ _).2.2.2.2.2
        (by simp only [cancel, h])
    | plain =>
      obtain ⟨c, call, works⟩ := has
      obtain ⟨turn, told⟩ := turn_cancel call
      have gone : (s.desk.cancel f.number).1.calls.find? f.number = none := by
        cases turn.left with
        | waits _ _ silent =>
          rw [told] at silent
          cases silent
        | returned gone => exact gone
      let s' : Session := { s with desk := (s.desk.cancel f.number).1 }
      exact ended s'.desk
        (passed (s.desk.cancel f.number).2 ++ (s'.finish f.number (.error .cancelled)).2) gone
        turn.others turn.initialized
        (List.mem_append_right _ (finish_keeps s' _ _).2.2.2.2.2)
        (by simp only [cancel, h, went, told, last, s'])
    | _ => cases fits.2

end SnippetStudio.Session
