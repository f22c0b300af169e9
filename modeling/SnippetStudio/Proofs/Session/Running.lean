import SnippetStudio.Proofs.Session.Step

/-!
# A session that runs

A session that runs does so after every move that follows (`running_step`), and its desk comes by them to
the end of a run of its own, in which nobody fails without being told of (`Tracks`).

* `Books.others`, `Books.own`  what is under way afterwards;
* `waiting_step`               who waits for his first step;
* `after`, `signals`           a run of the session;
* `followed_run`               **a run of the session is a run of its desk**.
-/

namespace SnippetStudio.Session

open Preview (Desk Signal Setup Result)

section

variable {setup : Setup} {s s₁ : Session} {m : Move} {n : Nat} {dm : Option Preview.Move}
  {x : Desk × List Signal} {y : Session × List Signal}

theorem Activity.runs_of_atDesk {a : Activity} (h : a.atDesk = true) : a.runs = true := by
  cases a with
  | plain => rfl
  | announcing => exact h
  | _ => cases h

/-- the text of a first render that has not taken its first step -/
def Activity.text? : Activity → Option String
  | .first text => some text
  | _ => none

theorem Activity.eq_first {a : Activity} {text : String} (h : a.text? = some text) :
    a = .first text := by
  cases a with
  | first => exact congrArg _ (Option.some.inj h)
  | _ => cases h

theorem Activity.text_of_atDesk {a : Activity} (h : a.atDesk = true) : a.text? = none := by
  cases a with
  | first => cases h
  | _ => rfl

/-- what becomes of the others leaves them what they are -/
def Activity.Keeps (g : Activity → Activity) : Prop :=
  ∀ a, (g a).atDesk = a.atDesk ∧ (g a).runs = a.runs ∧ (g a).text? = a.text?

theorem Activity.keeps_id : Keeps id := fun _ => ⟨rfl, rfl, rfl⟩

theorem Activity.keeps_join (result : Except Fault Result) : Keeps (join result) := by
  intro a
  cases a <;> exact ⟨rfl, rfl, rfl⟩

/-- the other activities stay, though some of them may have learnt how this one ended -/
theorem finish_view (s : Session) (n : Nat) (result : Except Fault Result) :
    ∃ g, Activity.Keeps g ∧ ∀ k, (s.finish n result).1.activities.find? k =
      if k = n then none else (s.activities.find? k).map g := by
  have same : ∀ k, (s.activities.drop n).find? k =
      if k = n then none else (s.activities.find? k).map id := by
    intro k
    rw [Roster.find?_drop, Option.map_id]
    rfl
  simp only [finish]
  split
  · split
    · refine ⟨_, Activity.keeps_join result, fun k => ?_⟩
      rw [Roster.find?_map, Roster.find?_drop]
      split <;> rfl
    · exact ⟨id, Activity.keeps_id, same⟩
  · exact ⟨id, Activity.keeps_id, same⟩

theorem finish_keeps (s : Session) (n : Nat) (result : Except Fault Result) :
    (s.finish n result).1.desk = s.desk ∧ (s.finish n result).1.buffer = s.buffer ∧
      (s.finish n result).1.started = s.started ∧ (s.finish n result).1.next = s.next ∧
      (s.finish n result).1.first.map First.doomed = s.first.map First.doomed ∧
      .returned n result ∈ (s.finish n result).2 := by
  simp only [finish]
  split
  · next f hf =>
    split
    · exact ⟨rfl, rfl, rfl, rfl, by simp [hf], List.mem_cons_self ..⟩
    · exact ⟨rfl, rfl, rfl, rfl, rfl, List.mem_cons_self ..⟩
  · exact ⟨rfl, rfl, rfl, rfl, rfl, List.mem_cons_self ..⟩

namespace Books

theorem others (books : Books s n x y) : ∃ g, Activity.Keeps g ∧
    ∀ k, k ≠ n → y.1.activities.find? k = (s.activities.find? k).map g := by
  cases books with
  | goesOn view kind =>
    refine ⟨id, Activity.keeps_id, fun k hk => ?_⟩
    rw [Option.map_id]
    exact (view k).trans (if_neg hk)
  | @ends result =>
    obtain ⟨g, keeps, view⟩ := finish_view { s with desk := x.1 } n result
    exact ⟨g, keeps, fun k hk => (view k).trans (if_neg hk)⟩

theorem own (books : Books s n x y) :
    (∃ a, y.1.activities.find? n = some a ∧ a.atDesk = true) ∨ x.1.calls.find? n = none ∧
      ∀ a, y.1.activities.find? n = some a → a = .joining := by
  cases books with
  | @goesOn as a view kind =>
    have h : as.find? n = some a := (view n).trans (if_pos rfl)
    rcases kind with at_ | ⟨rfl, free⟩
    · exact .inl ⟨a, h, at_⟩
    · refine .inr ⟨free, fun b hb => ?_⟩
      rw [h] at hb
      cases hb
      rfl
  | @ends result gone =>
    obtain ⟨g, -, view⟩ := finish_view { s with desk := x.1 } n result
    refine .inr ⟨gone, fun a ha => ?_⟩
    rw [view, if_pos rfl] at ha
    cases ha

theorem keeps (books : Books s n x y) : y.1.desk = x.1 ∧ y.1.buffer = s.buffer ∧
    y.1.started = s.started ∧ y.1.next = s.next ∧
    y.1.first.map First.doomed = s.first.map First.doomed := by
  cases books with
  | goesOn => exact ⟨rfl, rfl, rfl, rfl, rfl⟩
  | @ends result =>
    obtain ⟨desk, buffer, started, next, first, -⟩ := finish_keeps { s with desk := x.1 } n result
    exact ⟨desk, buffer, started, next, first⟩

theorem raises (books : Books s n x y) {f : Fault} (h : .returned n (.error f) ∈ x.2) :
    .returned n (.error f) ∈ y.2 := by
  cases books with
  | goesOn => exact h
  | @ends result gone fails =>
    rw [← fails f h]
    exact List.mem_append_right _ (finish_keeps { s with desk := x.1 } n result).2.2.2.2.2

end Books

namespace Opens

theorem keeps (opens : Opens s m s₁ n dm) : s₁.desk = s.desk ∧ s₁.activities = s.activities ∧
    s₁.first = s.first ∧ s₁.started = s.started ∧ s₁.buffer.listeners = s.buffer.listeners := by
  cases opens with
  | aside text listeners | edits text listeners => exact ⟨rfl, rfl, rfl, rfl, listeners⟩
  | _ => exact ⟨rfl, rfl, rfl, rfl, rfl⟩

theorem number (hs : s.Running) (opens : Opens s m s₁ n dm) : s.next ≤ s₁.next ∧ n < s₁.next := by
  have given {n : Nat} {a : Activity} (h : s.activities.find? n = some a) : n < s.next := by
    refine Nat.lt_of_not_le fun le => ?_
    rw [hs.new n le] at h
    cases h
  cases opens with
  | aside | edits | commands => exact ⟨Nat.le_succ _, Nat.lt_succ_self _⟩
  | first h | joined h | answers h | resumes h => exact ⟨Nat.le_refl _, given h⟩

theorem call (opens : Opens s m s₁ n dm) : ∀ m' ∈ dm, m'.call = n ∧ m'.goesOn = true := by
  rintro m' hm
  cases opens with
  | aside | joined => cases hm
  | @commands c follows =>
    cases hm
    cases c with
    | shutdown => cases follows
    | _ => exact ⟨rfl, rfl⟩
  | _ => cases hm; exact ⟨rfl, rfl⟩

theorem played (opens : Opens s m s₁ n dm) :
    Desk.Answers s.desk.calls n (play setup s.desk dm) := by
  cases dm with
  | none => exact Desk.answers_nothing s.desk n
  | some m' =>
    have own := Desk.answers_move setup s.desk m'
    rwa [(opens.call m' rfl).1] at own

end Opens

/-- **A session that runs runs on.** -/
theorem running_step (hs : s.Running) (opens : Opens s m s₁ n dm)
    (books : Books s₁ n (play setup s.desk dm) y) : y.1.Running := by
  obtain ⟨desk, activities, first, started, listeners⟩ := opens.keeps
  obtain ⟨desk', buffer', started', next', first'⟩ := books.keeps
  obtain ⟨le, lt⟩ := opens.number hs
  obtain ⟨g, keeps, others⟩ := books.others
  rw [activities] at others
  refine ⟨by rw [started', started, hs.started], by rw [buffer', listeners, hs.listeners], ?_,
    fun k a ha => ?_, fun k hk => ?_, fun k c hc => ?_⟩
  · obtain ⟨f, hf, doomed⟩ := hs.first
    rw [first, hf] at first'
    obtain ⟨f', hf', e⟩ := Option.map_eq_some_iff.mp first'
    exact ⟨f', hf', e.trans doomed⟩
  · by_cases own : k = n
    · subst own
      rcases books.own with ⟨b, hb, at_⟩ | ⟨-, joining⟩
      · rw [hb] at ha
        cases ha
        exact Activity.runs_of_atDesk at_
      · rw [joining a ha]
        rfl
    · rw [others k own] at ha
      obtain ⟨b, hb, rfl⟩ := Option.map_eq_some_iff.mp ha
      rw [(keeps b).2.1]
      exact hs.runs k b hb
  · have own : k ≠ n := by
      rintro rfl
      omega
    rw [others k own, hs.new k (by omega)]
    rfl
  · rw [desk'] at hc
    by_cases own : k = n
    · subst own
      rcases books.own with at_ | ⟨free, -⟩
      · exact at_
      · rw [free] at hc
        cases hc
    · rw [opens.played.others k own] at hc
      obtain ⟨b, hb, at_⟩ := hs.calls k c hc
      refine ⟨g b, ?_, by rw [(keeps b).1, at_]⟩
      rw [others k own, hb]
      rfl

theorem running_move (hs : s.Running) (follows : m.follows = true) :
    (s.move setup m).1.Running := by
  rcases move_step hs follows with nothing | ⟨s₁, n, dm, opens, books⟩
  · rw [nothing]
    exact hs
  · exact running_step hs opens books

/-! ## The first render -/

/-- the text of an activity, if it is the first render and has not taken its first step -/
def waiting (s : Session) (n : Nat) : Option String := (s.activities.find? n).bind Activity.text?

theorem waiting_eq_some {text : String} :
    s.waiting n = some text ↔ s.activities.find? n = some (.first text) := by
  constructor
  · intro h
    obtain ⟨a, ha, e⟩ := Option.bind_eq_some_iff.mp h
    rw [ha, Activity.eq_first e]
  · intro h
    rw [waiting, h]
    rfl

/-- **Nobody waits for his first step but who waited before.** -/
theorem waiting_step (opens : Opens s m s₁ n dm) (books : Books s₁ n (play setup s.desk dm) y)
    (k : Nat) : y.1.waiting k = if k = n then none else s.waiting k := by
  split
  · next own =>
    subst own
    rcases books.own with ⟨a, ha, at_⟩ | ⟨-, joining⟩
    · rw [waiting, ha]
      exact Activity.text_of_atDesk at_
    · cases ha : y.1.activities.find? k with
      | none =>
        rw [waiting, ha]
        rfl
      | some a =>
        rw [waiting, ha, joining a ha]
        rfl
  · next other =>
    obtain ⟨g, keeps, others⟩ := books.others
    rw [waiting, others k other, opens.keeps.2.1, waiting]
    cases s.activities.find? k with
    | none => rfl
    | some a => exact (keeps a).2.2

/-- a move about him is his first step -/
theorem Opens.takes (hs : s.Running) {text : String} (h : s.waiting n = some text)
    (opens : Opens s m s₁ n dm) : m = .resume n := by
  have first := waiting_eq_some.mp h
  cases opens with
  | aside | edits | commands =>
    rw [hs.new _ (Nat.le_refl _)] at first
    cases first
  | first | joined | resumes => rfl
  | answers ha at_ =>
    rw [first] at ha
    cases ha
    cases at_

end

/-! ## Runs -/

variable (setup : Setup)

/-- a run: the session at its end, and everything that happened -/
def run (s : Session) : List Move → Session × List Signal
  | [] => (s, [])
  | m :: ms =>
    let (s, first) := s.move setup m
    let (s, rest) := run s ms
    (s, first ++ rest)

/-- the session at the end of a run -/
def after (s : Session) (ms : List Move) : Session := (s.run setup ms).1

/-- everything that happens in a run -/
def signals (s : Session) (ms : List Move) : List Signal := (s.run setup ms).2

theorem after_append (s : Session) (ms ms' : List Move) :
    s.after setup (ms ++ ms') = after setup (s.after setup ms) ms' := by
  induction ms generalizing s with
  | nil => rfl
  | cons m ms ih => exact ih (s.move setup m).1

theorem signals_append (s : Session) (ms ms' : List Move) :
    s.signals setup (ms ++ ms') = s.signals setup ms ++ signals setup (s.after setup ms) ms' := by
  induction ms generalizing s with
  | nil => rfl
  | cons m ms ih =>
    show _ ++ signals setup (s.move setup m).1 (ms ++ ms') = _
    rw [ih]
    exact (List.append_assoc ..).symm

/-- the texts that the buffer changes to in a run -/
def changes (s : Session) : List Move → List String
  | [] => []
  | m :: ms =>
    let s' := (s.move setup m).1
    (if s'.buffer.text = s.buffer.text then [] else [s'.buffer.text]) ++ changes s' ms

/-- the buffer holds the last of them -/
theorem text_after (s : Session) (ms : List Move) :
    (s.after setup ms).buffer.text = (s.changes setup ms).getLast?.getD s.buffer.text := by
  induction ms generalizing s with
  | nil => rfl
  | cons m ms ih =>
    show (after setup (s.move setup m).1 ms).buffer.text = _
    rw [ih, changes, List.getLast?_append]
    split
    · next same =>
      rw [same]
      cases (changes setup (s.move setup m).1 ms).getLast? <;> rfl
    · cases (changes setup (s.move setup m).1 ms).getLast? <;> rfl

/-- the desk of a session is at the end of a run of its own, and failures in it are told -/
structure Tracks (d : Desk) (dms : List Preview.Move) (s : Session) (told : List Signal) :
    Prop where
  goesOn : ∀ m ∈ dms, m.goesOn = true
  desk : s.desk = d.after setup dms
  failed : ∀ a ∈ d.history setup dms, ∀ f, a.deed = .ends (.error f) →
    ∃ k f, .returned k (.error f) ∈ told

variable {setup} {s s' : Session} {d : Desk} {dms : List Preview.Move} {dm : Option Preview.Move}
  {told more : List Signal}

theorem Tracks.step (h : Tracks setup d dms s told) (goesOn : ∀ m ∈ dm, m.goesOn = true)
    (desk : s'.desk = (play setup s.desk dm).1)
    (raises : ∀ n f, .returned n (.error f) ∈ (play setup s.desk dm).2 →
      ∃ k f, .returned k (.error f) ∈ more) :
    Tracks setup d (dms ++ dm.toList) s' (told ++ more) := by
  have earlier : ∀ a ∈ d.history setup dms, ∀ f, a.deed = .ends (.error f) →
      ∃ k f, .returned k (.error f) ∈ told ++ more := by
    intro a ha f failed
    obtain ⟨k, f, hf⟩ := h.failed a ha f failed
    exact ⟨k, f, List.mem_append_left _ hf⟩
  cases dm with
  | none =>
    refine ⟨?_, ?_, ?_⟩ <;> simp only [Option.toList_none, List.append_nil]
    · exact h.goesOn
    · exact desk.trans h.desk
    · exact earlier
  | some m =>
    refine ⟨?_, ?_, ?_⟩
    · intro m' hm
      rcases List.mem_append.mp hm with hm | hm
      · exact h.goesOn m' hm
      · rw [List.mem_singleton.mp hm]
        exact goesOn m rfl
    · rw [Desk.after_append, ← h.desk]
      exact desk
    · intro a ha f failed
      rw [Desk.history_append, ← h.desk] at ha
      rcases List.mem_append.mp ha with ha | ha
      · exact earlier a ha f failed
      · have now : a ∈ (s.desk.moment setup m).acts := by
          simpa [Desk.history, Desk.moments] using ha
        obtain ⟨k, f, hf⟩ := raises _ f (Preview.Moment.returned_of_failed now failed)
        exact ⟨k, f, List.mem_append_right _ hf⟩

variable (setup) in
/-- a session that runs at a desk that was idle when it began -/
structure Followed (d : Desk) (dms : List Preview.Move) (s : Session) (told : List Signal) :
    Prop where
  running : s.Running
  tracks : Tracks setup d dms s told

theorem Followed.step {m : Move} {s₁ : Session} {n : Nat} {y : Session × List Signal}
    (h : Followed setup d dms s told) (opens : Opens s m s₁ n dm)
    (books : Books s₁ n (play setup s.desk dm) y) :
    Followed setup d (dms ++ dm.toList) y.1 (told ++ y.2) := by
  refine ⟨running_step h.running opens books,
    h.tracks.step (fun m' hm => (opens.call m' hm).2) books.keeps.1 fun k f hf => ?_⟩
  obtain ⟨_, only⟩ := opens.played.returned
  obtain rfl := (only k _ hf).1
  exact ⟨k, f, books.raises hf⟩

theorem followed_move {m : Move} (h : Followed setup d dms s told) (follows : m.follows = true) :
    ∃ dm : Option Preview.Move,
      Followed setup d (dms ++ dm.toList) (s.move setup m).1 (told ++ (s.move setup m).2) := by
  rcases move_step h.running follows with nothing | ⟨s₁, n, dm, opens, books⟩
  · rw [nothing]
    exact ⟨none, h.running, h.tracks.step nofun rfl nofun⟩
  · exact ⟨dm, h.step opens books⟩

/-- **A run of the session is a run of its desk.** -/
theorem followed_run (h : Followed setup d dms s told) {ms : List Move}
    (follows : ∀ m ∈ ms, m.follows = true) : ∃ more,
    Followed setup d (dms ++ more) (s.after setup ms) (told ++ s.signals setup ms) := by
  induction ms generalizing s dms told with
  | nil =>
    refine ⟨[], ?_⟩
    rw [List.append_nil, signals, run, List.append_nil]
    exact h
  | cons m ms ih =>
    obtain ⟨dm, first⟩ := followed_move h (follows m (List.mem_cons_self ..))
    obtain ⟨more, rest⟩ := ih first fun m' hm => follows m' (List.mem_cons_of_mem _ hm)
    rw [List.append_assoc, List.append_assoc] at rest
    exact ⟨_, rest⟩

end SnippetStudio.Session
