import SnippetStudio.Proofs.Preview.Calls
import SnippetStudio.Proofs.Preview.Rest
import SnippetStudio.Session.Basic

/-!
# What a move can do to a running session

A session that runs renders every change of its buffer, and nothing else (`Running`), as long as nobody
stops it, shuts its engine down, cancels what is under way or hands the engine a snippet of his own
(`Move.follows`).  A move then sets at most one call at the desk going (`Opens`), whose activity goes on
with it or ends (`Books`).

* `books_last`, `books_tell`, `books_went`   what becomes of an activity whose call has gone on;
* `begin_step`, `answer_step`, `resume_step`  what one kind of move does;
* `move_step`   **a move sets at most one call at the desk going**, or fits nothing that is under way.
-/

namespace SnippetStudio

namespace Session

open Preview (Desk Signal Setup Result)

/-- neither a stop nor a shutdown, and no snippet for the engine that is not the buffer's -/
def Command.follows : Command → Bool
  | .stop | .engine .shutdown | .engine (.render _) => false
  | _ => true

def Move.follows : Move → Bool
  | .start c => c.follows
  | .cancel _ => false
  | _ => true

/-- the activity is one call at the desk, of which nobody else is to be told -/
def Activity.atDesk : Activity → Bool
  | .plain => true
  | .announcing a _ => a.listeners.isEmpty
  | _ => false

/-- what may be under way while a session runs -/
def Activity.runs : Activity → Bool
  | .first _ | .joining | .joined _ => true
  | a => a.atDesk

/-- the buffer is followed by the engine alone, and whatever is at the desk is known -/
structure Running (s : Session) : Prop where
  started : s.started = true
  listeners : s.buffer.listeners = [.render]
  first : ∃ f, s.first = some f ∧ f.doomed = false
  runs : ∀ n a, s.activities.find? n = some a → a.runs = true
  new : ∀ n, s.next ≤ n → s.activities.find? n = none
  calls : ∀ n c, s.desk.calls.find? n = some c →
    ∃ a, s.activities.find? n = some a ∧ a.atDesk = true

/-- the session with a number given out -/
def took (s : Session) : Session := { s with next := s.next + 1 }

/-- what a move sets going: the session with its text edited and a number given out, the activity
that the move is about, and what is done at the desk -/
inductive Opens (s : Session) : Move → Session → Nat → Option Preview.Move → Prop
  | aside {c : Command} {b : Buffer Follower} (text : b.text = s.buffer.text)
      (listeners : b.listeners = s.buffer.listeners) :
    Opens s (.start c) { s.took with buffer := b } s.next none
  | edits {c : Command} {b : Buffer Follower} (text : b.text ≠ s.buffer.text)
      (listeners : b.listeners = s.buffer.listeners) :
    Opens s (.start c) { s.took with buffer := b } s.next (some (.start s.next (.render b.text)))
  | commands {c : Preview.Command} (follows : Command.follows (.engine c) = true) :
    Opens s (.start (.engine c)) s.took s.next (some (.start s.next c))
  | first {n : Nat} {text : String} (h : s.activities.find? n = some (.first text)) :
    Opens s (.resume n) s n (some (.start n (.render text)))
  | joined {n : Nat} {result : Except Fault Result}
      (h : s.activities.find? n = some (.joined result)) :
    Opens s (.resume n) s n none
  | answers {n : Nat} {a : Activity} {o : Preview.Outcome} (h : s.activities.find? n = some a)
      (at_ : a.atDesk = true) :
    Opens s (.answer n o) s n (some (.answer n o))
  | resumes {n : Nat} {a : Activity} (h : s.activities.find? n = some a) (at_ : a.atDesk = true) :
    Opens s (.resume n) s n (some (.resume n))

/-- what is done at the desk -/
def play (setup : Setup) (d : Desk) : Option Preview.Move → Desk × List Signal
  | none => (d, [])
  | some m => d.move setup m

/-- the activity goes on, or it ends with what the desk has returned -/
inductive Books (s : Session) (n : Nat) (x : Desk × List Signal) : Session × List Signal → Prop
  | goesOn {as : Roster Activity} {a : Activity}
      (view : ∀ k, as.find? k = if k = n then some a else s.activities.find? k)
      (kind : a.atDesk = true ∨ a = .joining ∧ x.1.calls.find? n = none) :
    Books s n x ({ s with desk := x.1, activities := as }, x.2)
  | ends {result : Except Fault Result} (gone : x.1.calls.find? n = none)
      (fails : ∀ f, .returned n (.error f) ∈ x.2 → result = .error f) :
    Books s n x (({ s with desk := x.1 }.finish n result).1,
      passed x.2 ++ ({ s with desk := x.1 }.finish n result).2)

variable {setup : Setup} {s s' : Session} {m : Move} {n : Nat} {x : Desk × List Signal}
  {signals : List Signal}

/-! ## What the desk has returned -/

theorem returned_of_some {result : Except Fault Result} (h : returned? signals n = some result) :
    .returned n result ∈ signals := by
  obtain ⟨g, hg, told⟩ := List.exists_of_findSome?_eq_some h
  cases g with
  | returned k r =>
    simp only at told
    split at told
    · next e =>
      cases told
      rw [← e]
      exact hg
    · cases told
  | _ => cases told

/-! ## What becomes of an activity -/

theorem finish_put (s : Session) (n : Nat) (a : Activity) (result : Except Fault Result) :
    (s.put n a).finish n result = s.finish n result := by
  simp only [finish, put, Roster.drop_put]

theorem Books.of_put {a : Activity} {y : Session × List Signal} (h : Books (s.put n a) n x y) :
    Books s n x y := by
  cases h with
  | @goesOn as b view kind =>
    refine .goesOn (fun k => ?_) kind
    rw [view, put, Roster.find?_put]
    split
    · rfl
    · rfl
  | @ends result gone fails =>
    have e : { s.put n a with desk := x.1 }.finish n result = { s with desk := x.1 }.finish n result :=
      finish_put { s with desk := x.1 } n a result
    rw [e]
    exact .ends gone fails

/-- the only call that an answer returns is its own -/
theorem ends_of_returned {calls : Roster Preview.Call} (h : Desk.Answers calls n x)
    {result : Except Fault Result} (returned : returned? x.2 n = some result) :
    x.1.calls.find? n = none ∧ ∀ f, .returned n (.error f) ∈ x.2 → result = .error f := by
  obtain ⟨only, h⟩ := h.returned
  obtain ⟨-, rfl, gone⟩ := h n result (returned_of_some returned)
  exact ⟨gone, fun f hf => (h n _ hf).2.1.symm⟩

theorem books_last {a : Activity} {calls : Roster Preview.Call}
    (h : s.activities.find? n = some a) (at_ : a.atDesk = true)
    (answers : Desk.Answers calls n x) : Books s n x (s.last n x) := by
  simp only [last]
  split
  · refine .goesOn (a := a) (fun k => ?_) (.inl at_)
    split
    · next e => rw [e, h]
    · rfl
  · next result returned =>
    obtain ⟨gone, fails⟩ := ends_of_returned answers returned
    exact .ends gone fails

theorem books_tell {calls : Roster Preview.Call} (result : Bool) (text : String)
    (answers : Desk.Answers calls n (s.desk.start n (.render text))) :
    Books s n (s.desk.start n (.render text)) (s.tell n result text [.render]) := by
  simp only [tell]
  split
  · exact .goesOn (fun k => Roster.find?_put _ k n _) (.inl rfl)
  · next f returned =>
    obtain ⟨gone, fails⟩ := ends_of_returned answers returned
    exact .ends gone fails
  · next r returned =>
    obtain ⟨gone, fails⟩ := ends_of_returned answers returned
    exact .ends gone fun f hf => by cases fails f hf

theorem books_went {a : Activity} {calls : Roster Preview.Call}
    (h : s.activities.find? n = some a) (at_ : a.atDesk = true)
    (answers : Desk.Answers calls n x) : Books s n x (s.went n x) := by
  have plain := books_last h at_ answers
  cases a with
  | plain =>
    simp only [went, h]
    exact plain
  | announcing a result =>
    obtain ⟨text, listeners⟩ := a
    obtain rfl : listeners = [] := List.isEmpty_iff.mp at_
    cases returned : returned? x.2 n with
    | none =>
      simp only [went, h, returned]
      exact plain
    | some r =>
      obtain ⟨gone, fails⟩ := ends_of_returned answers returned
      cases r with
      | error f =>
        simp only [went, h, returned]
        exact plain
      | ok r =>
        simp only [went, h, returned, tell]
        exact .ends gone fun f hf => by cases fails f hf
  | _ => cases at_

theorem books_finish (free : s.desk.calls.find? n = none) (result : Except Fault Result) :
    Books s n (s.desk, []) (s.finish n result) :=
  .ends free fun f hf => by cases hf

theorem went_nothing (s : Session) (n : Nat) : s.went n (s.desk, []) = (s, []) := by
  simp [went, returned?, last]

theorem move_start {d : Desk} (free : d.calls.find? n = none) (c : Preview.Command) :
    d.move setup (.start n c) = d.start n c := by
  simp [Desk.move, free]

theorem Running.no_call (hs : s.Running)
    (away : ∀ a, s.activities.find? n = some a → a.atDesk = false) :
    s.desk.calls.find? n = none := by
  cases h : s.desk.calls.find? n with
  | none => rfl
  | some c =>
    obtain ⟨a, ha, at_⟩ := hs.calls n c h
    rw [away a ha] at at_
    cases at_

theorem Running.free (hs : s.Running) : s.desk.calls.find? s.next = none :=
  hs.no_call fun a ha => by rw [hs.new s.next (Nat.le_refl _)] at ha; cases ha

theorem Running.away (hs : s.Running) {a : Activity} (h : s.activities.find? n = some a)
    (away : a.atDesk = false) : s.desk.calls.find? n = none :=
  hs.no_call fun b hb => by rw [h] at hb; cases hb; exact away

theorem Running.not_doomed (hs : s.Running) (n : Nat) : s.isDoomed n = false := by
  obtain ⟨f, hf, doomed⟩ := hs.first
  simp [isDoomed, hf, doomed]

theorem announce_step (setup : Setup) (hs : s.Running) (c : Command) (e : Edit) :
    ∃ s₁ dm, Opens s (.start c) s₁ s.next dm ∧
      Books s₁ s.next (play setup s.desk dm) (s.took.announce s.next e) := by
  obtain ⟨listeners, ⟨text, announcement⟩ | ⟨text, announcement⟩⟩ := s.buffer.edit_announcement e
  · refine ⟨_, none, .aside text listeners, ?_⟩
    simp only [announce, took, announcement]
    refine books_finish ?_ _
    exact hs.free
  · refine ⟨_, _, .edits text listeners, ?_⟩
    simp only [announce, took, announcement, hs.listeners, play]
    rw [move_start hs.free]
    exact books_tell _ _ (Desk.answers_start hs.free _)

theorem move_resume (hs : s.Running) (n : Nat) : s.move setup (.resume n) = s.resume n := by
  simp [move, hs.not_doomed]

theorem resume_first (hs : s.Running) {text : String}
    (h : s.activities.find? n = some (.first text)) :
    Books s n (play setup s.desk (some (.start n (.render text)))) (s.resume n) := by
  have free := hs.away h rfl
  refine .of_put (a := .plain) ?_
  simp only [resume, h]
  rw [play, move_start free]
  exact books_last (Roster.find?_put_self _ _ _) rfl (Desk.answers_start free _)

theorem begin_step (setup : Setup) (hs : s.Running) {c : Command} (follows : c.follows = true) :
    ∃ s₁ dm, Opens s (.start c) s₁ s.next dm ∧
      Books s₁ s.next (play setup s.desk dm) (s.took.begin s.next c) := by
  have finishes (c : Command) (result : Except Fault Result) : ∃ s₁ dm,
      Opens s (.start c) s₁ s.next dm ∧
        Books s₁ s.next (play setup s.desk dm) (s.took.finish s.next result) :=
    ⟨s.took, none, .aside (b := s.buffer) rfl rfl, books_finish (s := s.took) hs.free result⟩
  cases c with
  | start =>
    have e : s.took.begin s.next .start = s.took.finish s.next (.ok .nothing) := by
      simp [begin, took, hs.started]
    rw [e]
    exact finishes _ _
  | stop => cases follows
  | wait =>
    obtain ⟨⟨number, doomed, ended⟩, hf, -⟩ := hs.first
    cases ended with
    | some result =>
      have e : s.took.begin s.next .wait = s.took.finish s.next result := by
        simp [begin, took, hf]
      rw [e]
      exact finishes _ result
    | none =>
      have e : s.took.begin s.next .wait = (s.took.put s.next .joining, []) := by
        simp [begin, took, hf]
      rw [e]
      refine ⟨s.took, none, .aside (b := s.buffer) rfl rfl, ?_⟩
      show Books s.took s.next (s.desk, []) _
      exact .goesOn (fun k => Roster.find?_put _ k _ _) (.inr ⟨rfl, hs.free⟩)
  | edit e => exact announce_step setup hs (.edit e) e
  | loadExample name =>
    simp only [begin]
    split
    · exact finishes _ _
    · exact announce_step setup hs (.loadExample name) (.set _)
  | engine c =>
    refine ⟨_, _, .commands follows, .of_put (a := .plain) ?_⟩
    rw [play, move_start hs.free]
    exact books_last (Roster.find?_put_self _ _ _) rfl (Desk.answers_start hs.free c)

theorem answer_step (setup : Setup) (hs : s.Running) (n : Nat) (o : Preview.Outcome) :
    s.answer setup n o = (s, []) ∨ ∃ s₁ dm, Opens s (.answer n o) s₁ n dm ∧
      Books s₁ n (play setup s.desk dm) (s.answer setup n o) := by
  cases h : s.activities.find? n with
  | none => exact .inl (by simp [answer, h])
  | some a =>
    have went : s.answer setup n o = s.went n (s.desk.answer setup n o) := by
      have opened : a ≠ .opening := fun ha => by
        have runs := hs.runs n a h
        rw [ha] at runs
        cases runs
      simp only [answer, h]
    rw [went]
    cases at_ : a.atDesk with
    | true =>
      exact .inr ⟨s, _, .answers h at_, books_went h at_ (Desk.answers_answer setup s.desk n o)⟩
    | false =>
      have nothing : s.desk.answer setup n o = (s.desk, []) := by
        simp [Desk.answer, hs.away h at_]
      rw [nothing]
      exact .inl (went_nothing s n)

theorem resume_step (setup : Setup) (hs : s.Running) (n : Nat) :
    s.resume n = (s, []) ∨ ∃ s₁ dm, Opens s (.resume n) s₁ n dm ∧
      Books s₁ n (play setup s.desk dm) (s.resume n) := by
  cases h : s.activities.find? n with
  | none => exact .inl (by simp [resume, h])
  | some a =>
    have goes (at_ : a.atDesk = true) (went : s.resume n = s.went n (s.desk.resume n)) :
        ∃ s₁ dm, Opens s (.resume n) s₁ n dm ∧
          Books s₁ n (play setup s.desk dm) (s.resume n) := by
      rw [went]
      exact ⟨s, _, .resumes h at_, books_went h at_ (Desk.answers_resume s.desk n)⟩
    have runs := hs.runs n a h
    cases a with
    | first text => exact .inr ⟨s, _, .first h, resume_first hs h⟩
    | joined result =>
      refine .inr ⟨s, none, .joined h, ?_⟩
      simp only [resume, h]
      exact books_finish (s := s) (hs.away h rfl) result
    | joining =>
      have nothing : s.desk.resume n = (s.desk, []) := by
        simp [Desk.resume, hs.away h rfl]
      simp only [resume, h]
      rw [nothing]
      exact .inl (went_nothing s n)
    | plain => exact .inr (goes rfl (by simp only [resume, h]))
    | announcing => exact .inr (goes runs (by simp only [resume, h]))
    | _ => cases runs

/-- **A move sets at most one call at the desk going.** -/
theorem move_step (hs : s.Running) (follows : m.follows = true) : s.move setup m = (s, []) ∨
    ∃ s₁ n dm, Opens s m s₁ n dm ∧ Books s₁ n (play setup s.desk dm) (s.move setup m) := by
  cases m with
  | start c =>
    obtain ⟨s₁, dm, step⟩ := begin_step setup hs follows
    exact .inr ⟨s₁, _, dm, step⟩
  | answer n o =>
    have e : s.move setup (.answer n o) = s.answer setup n o := by
      simp [move, hs.not_doomed]
    rw [e]
    exact (answer_step setup hs n o).imp_right fun ⟨s₁, dm, step⟩ => ⟨s₁, n, dm, step⟩
  | resume n =>
    rw [move_resume hs]
    exact (resume_step setup hs n).imp_right fun ⟨s₁, dm, step⟩ => ⟨s₁, n, dm, step⟩
  | cancel n => cases follows

end Session

end SnippetStudio
