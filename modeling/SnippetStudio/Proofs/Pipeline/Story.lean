import SnippetStudio.Proofs.Pipeline.Silence

/-!
# The story of a run

The events of a run tell one of five stories (`Way`): there is no page, there is no snippet, the
snippet is the result, it is in the buffer as well, or the buffer does not take it.  Only the last of
them breaks the run off, and whoever follows its events gets an error and an end all the same.

* `Event.eventText_eq`  an event goes out under its type;
* `EndWith`             events that end as they should;
* `tells_run`           a run tells one of the stories, whatever the answers are;
* `run_plain`           whoever waits for the result reads it off the events;
* `stream_tells_run`    **a stream is well formed and ends with what the run itself gives**.
-/

namespace SnippetStudio.Pipeline

variable {τ σ : Type}

/-- nothing in the data of an event hides its type -/
theorem Event.eventFields_eq (time : τ → Json) (e : Event τ) :
    eventFields e.type (e.fields time) = ("type", .str e.type) :: e.fields time := by
  cases e <;> rfl

theorem Event.eventText_eq {time : τ → Json} {e : Event τ}
    (fits : (Json.Tree.obj (e.fields time)).fits = true) :
    eventText e.type (e.fields time) = .ok (e.text time) := by
  have whole : (Json.Tree.obj (eventFields e.type (e.fields time))).fits = true := by
    rw [Event.eventFields_eq]
    exact fits
  rw [eventText, Json.text, if_pos whole]
  rfl

/-! ## Stories -/

/-- the ways that a run may go -/
inductive Way where
  | unscraped
  | ungenerated
  | made
  | loaded
  | broken
deriving Repr, DecidableEq

/-- the types of the events that go out on this way -/
def Way.types : Way → List String
  | unscraped => ["status", "error", "done"]
  | ungenerated => ["status", "scraped", "status", "error", "done"]
  | made => ["status", "scraped", "status", "generated", "done"]
  | loaded => ["status", "scraped", "status", "generated", "status", "done"]
  | broken => ["status", "scraped", "status", "generated", "status", "error", "done"]

/-- the way may be gone with a buffer, or without one -/
def Way.fits (buffer : Bool) : Way → Bool
  | unscraped | ungenerated => true
  | made => !buffer
  | loaded | broken => buffer

/-- what a run tells, and what becomes of it; the buffer's answer is one that may be given -/
inductive Story (may : (q : Query τ) → q.Answer → Prop) :
    Way → List (Event τ) → Except Fault (Result τ) → Prop
  | unscraped {url e : String} {r : Result τ} (outcome : r.outcome = .error e) :
    Story may .unscraped [.scraping url, .error e, .done r] (.ok r)
  | ungenerated {url e : String} {chars : Nat} {shot : Bool} {t : τ} {r : Result τ}
    (outcome : r.outcome = .error e) :
    Story may .ungenerated
      [.scraping url, .scraped chars shot t, .generating, .error e, .done r] (.ok r)
  | made {url : String} {chars : Nat} {shot : Bool} {t u : τ} {m : Made} {r : Result τ}
    (outcome : r.outcome = .ok m) :
    Story may .made
      [.scraping url, .scraped chars shot t, .generating, .generated m u, .done r] (.ok r)
  | loaded {url : String} {chars : Nat} {shot : Bool} {t u : τ} {m : Made} {r : Result τ}
    (outcome : r.outcome = .ok m) (answer : may (.load m.code) (.ok ())) :
    Story may .loaded
      [.scraping url, .scraped chars shot t, .generating, .generated m u, .rendering, .done r] (.ok r)
  | broken {url : String} {chars : Nat} {shot : Bool} {t u : τ} {m : Made} {f : Fault}
    (answer : may (.load m.code) (.error f)) :
    Story may .broken
      [.scraping url, .scraped chars shot t, .generating, .generated m u, .rendering] (.error f)

/-- what follows the events of a run when they are streamed -/
def ending : Except Fault (Result τ) → List (Event τ)
  | .ok _ => []
  | .error f => [.error f.message, .aborted f.message]

/-- the end of a stream -/
def lastEvent : Except Fault (Result τ) → Event τ
  | .ok r => .done r
  | .error f => .aborted f.message

/-! ## How a stream ends -/

/-- the events end with one that is there once, and that tells whether there was an error -/
structure EndWith (time : τ → Json) (es : List (Event τ)) (last : Event τ) : Prop where
  done : last.type = "done"
  once : ∃ front, es = front ++ [last] ∧ ∀ e ∈ front, e.type ≠ "done"
  success : Json.get? "success" (last.fields time) =
    some (.bool (es.all fun e => e.type ≠ "error"))
  /-- an error comes right before the end, which gives its message again -/
  error : ∀ e ∈ es, e.type = "error" → ∃ earlier m, es = earlier ++ [e, last] ∧
    Json.get? "message" (e.fields time) = some (.str m) ∧
    Json.get? "error" (last.fields time) = some (.str m)

/-- some fields tell a result: each of the eight that it has, and no others -/
structure Payload (time : τ → Json) (r : Result τ) (fields : List (String × Json)) : Prop where
  keys : Json.keys fields = ["success", "code", "error", "warnings", "scrape_duration", "ai_duration",
    "total_duration", "screenshot_used"]
  success : Json.get? "success" fields = some (.bool r.outcome.toBool)
  code : Json.get? "code" fields = some (match r.outcome with
    | .ok m => .str m.code
    | .error _ => .null)
  error : Json.get? "error" fields = some (match r.outcome with
    | .ok _ => .null
    | .error e => .str e)
  warnings : Json.get? "warnings" fields = some (.arr (match r.outcome with
    | .ok m => m.warnings.map .str
    | .error _ => []))
  scrapeDuration : Json.get? "scrape_duration" fields = some (time r.scrapeDuration)
  generationDuration : Json.get? "ai_duration" fields = some (time r.generationDuration)
  totalDuration : Json.get? "total_duration" fields = some (time r.totalDuration)
  screenshotUsed : Json.get? "screenshot_used" fields = some (.bool r.screenshotUsed)

theorem payload_done (time : τ → Json) (r : Result τ) : Payload time r ((Event.done r).fields time) := by
  obtain ⟨outcome, scrape, generation, total, used⟩ := r
  cases outcome <;> exact ⟨rfl, rfl, rfl, rfl, rfl, rfl, rfl, rfl, rfl⟩

/-- an event on the way, neither an error nor the end -/
def Event.IsStep (e : Event τ) : Prop := e.type ≠ "error" ∧ e.type ≠ "done"

section

variable {time : τ → Json} {last : Event τ} {r : Result τ}

theorem endWith_of_success (front : List (Event τ)) (steps : ∀ e ∈ front, e.IsStep)
    (done : last.type = "done")
    (success : Json.get? "success" (last.fields time) = some (.bool true)) :
    EndWith time (front ++ [last]) last := by
  have calm : ∀ e ∈ front ++ [last], e.type ≠ "error" := by
    intro e he
    rcases List.mem_append.mp he with he | he
    · exact (steps e he).1
    · rw [List.mem_singleton.mp he, done]
      decide
  refine ⟨done, ⟨front, rfl, fun e he => (steps e he).2⟩, ?_, fun e he error => ?_⟩
  · rw [success, List.all_eq_true.mpr fun e he => decide_eq_true (calm e he)]
  · exact absurd error (calm e he)

theorem endWith_of_error (front : List (Event τ)) {m : String} (steps : ∀ e ∈ front, e.IsStep)
    (done : last.type = "done")
    (success : Json.get? "success" (last.fields time) = some (.bool false))
    (error : Json.get? "error" (last.fields time) = some (.str m)) :
    EndWith time (front ++ [.error m, last]) last := by
  refine ⟨done, ⟨front ++ [.error m], by simp, fun e he => ?_⟩, ?_, fun e he isError => ?_⟩
  · rcases List.mem_append.mp he with he | he
    · exact (steps e he).2
    · rw [List.mem_singleton.mp he, Event.type]
      decide
  · rw [success, List.all_eq_false.mpr ⟨.error m, by simp, by simp [Event.type]⟩]
  · rcases List.mem_append.mp he with he | he
    · exact absurd isError (steps e he).1
    · rcases List.mem_cons.mp he with rfl | he
      · exact ⟨front, m, rfl, rfl, error⟩
      · rw [List.mem_singleton.mp he, done] at isError
        exact absurd isError (by decide)

theorem success_done {o : Except String Made} (outcome : r.outcome = o) :
    Json.get? "success" ((Event.done r).fields time) = some (.bool o.toBool) := by
  rw [← outcome]
  rfl

theorem error_done {e : String} (outcome : r.outcome = .error e) :
    Json.get? "error" ((Event.done r).fields time) = some (.str e) := by
  rw [Event.fields, Result.toFields, outcome]
  rfl

end

namespace Story

variable {may : (q : Query τ) → q.Answer → Prop} {way : Way} {es : List (Event τ)}
  {outcome : Except Fault (Result τ)}

theorem types (story : Story may way es outcome) :
    (es ++ ending outcome).map Event.type = way.types := by
  cases story <;> rfl

theorem endWith (story : Story may way es outcome) (time : τ → Json) :
    EndWith time (es ++ ending outcome) (lastEvent outcome) := by
  cases story with
  | @unscraped url _ _ outcome =>
    refine endWith_of_error [.scraping url] ?_ rfl (success_done outcome) (error_done outcome)
    simp [Event.IsStep, Event.type]
  | @ungenerated url _ chars shot t _ outcome =>
    refine endWith_of_error [.scraping url, .scraped chars shot t, .generating] ?_ rfl
      (success_done outcome) (error_done outcome)
    simp [Event.IsStep, Event.type]
  | @made url chars shot t u m _ outcome =>
    refine endWith_of_success [.scraping url, .scraped chars shot t, .generating, .generated m u]
      ?_ rfl (success_done outcome)
    simp [Event.IsStep, Event.type]
  | @loaded url chars shot t u m _ outcome =>
    refine endWith_of_success
      [.scraping url, .scraped chars shot t, .generating, .generated m u, .rendering]
      ?_ rfl (success_done outcome)
    simp [Event.IsStep, Event.type]
  | @broken url chars shot t u m =>
    refine endWith_of_error
      [.scraping url, .scraped chars shot t, .generating, .generated m u, .rendering] ?_ rfl rfl rfl
    simp [Event.IsStep, Event.type]

/-- the result of a run is read off its last event -/
theorem read {r : Result τ} (story : Story may way es (.ok r)) (d : Durations τ) :
    (payload? d es).bind (Result.ofFields? d) = some r := by
  have last : payload? d es = some (r.toFields d.write) := by cases story <;> rfl
  rw [last]
  exact Result.ofFields?_toFields d r

theorem of_ok {r : Result τ} (story : Story may way es (.ok r)) :
    way ≠ .broken ∧ (way = .loaded → ∃ m u, .generated m u ∈ es ∧ may (.load m.code) (.ok ())) := by
  cases story with
  | @loaded url chars shot t u m _ outcome answer =>
    exact ⟨by decide, fun _ => ⟨m, u, by simp, answer⟩⟩
  | _ => exact ⟨by decide, fun h => by cases h⟩

theorem of_error {f : Fault} (story : Story may way es (.error f)) :
    way = .broken ∧ ∃ m u, .generated m u ∈ es ∧ may (.load m.code) (.error f) := by
  cases story with
  | @broken url chars shot t u m _ answer => exact ⟨rfl, m, u, by simp, answer⟩

end Story

/-! ## The events of a run -/

section

variable {may : (q : Query τ) → q.Answer → Prop} {r : Result τ}
  {P : List (Event τ) → Except Fault (Result τ) → Prop}

theorem tells_fail {message : String} (h : P [.error message, .done r] (.ok r)) :
    (Attempt.ofErrand (fail r message)).Tells may P :=
  fun _ _ _ _ => h

theorem tells_end {line : LogLine τ} (h : P [.done r] (.ok r)) :
    (do
      Attempt.note line
      Attempt.ofErrand (Errand.publish (.done r))
      return r : Attempt τ (Result τ)).Tells may P :=
  fun _ _ _ _ => h

end

variable [Sub τ] [OfNat τ 0] {k : Setup τ} {may : (q : Query τ) → q.Answer → Prop}

/-- **A run tells one of the stories**, whatever the answers are. -/
theorem tells_run (content : ∀ url, (k.content url).Silent) (shot : ∀ url, (k.screenshot url).Silent)
    (buffer : Bool) (url : String) :
    (run k buffer url).Tells may fun es r => ∃ way, way.fits buffer = true ∧ Story may way es r := by
  refine Attempt.tells_of_silent .clock fun start => Attempt.tells_publish ?_
  refine Attempt.tells_of_silent (asks_acquire (content _) (shot _)) fun page => ?_
  split
  · refine Attempt.tells_of_silent .clock fun now => tells_fail ?_
    exact ⟨.unscraped, rfl, .unscraped rfl⟩
  refine Attempt.tells_publish (Attempt.tells_publish ?_)
  refine Attempt.tells_of_silent .clock fun begun => ?_
  refine Attempt.tells_of_silent (silent_generate ..) fun generated => ?_
  refine Attempt.tells_of_silent .clock fun now => ?_
  split
  · refine Attempt.tells_of_silent .clock fun now => tells_fail ?_
    exact ⟨.ungenerated, rfl, .ungenerated rfl⟩
  refine Attempt.tells_publish ?_
  cases buffer with
  | false =>
    refine Attempt.tells_of_silent .clock fun now => tells_end ?_
    exact ⟨.made, rfl, .made rfl⟩
  | true =>
    refine Attempt.tells_publish (Attempt.tells_load (fun answer => ?_) fun f answer => ?_)
    · refine Attempt.tells_of_silent .clock fun now => tells_end ?_
      exact ⟨.loaded, rfl, .loaded rfl answer⟩
    · exact ⟨.broken, rfl, .broken answer⟩

theorem events_stream (w : Plan.World (@Query.Answer τ) σ) (buffer : Bool) (url : String) (s : σ) :
    (stream k buffer url).events w s =
      (run k buffer url).run.events w s ++ ending ((run k buffer url).run.result w s) := by
  rw [Errand.events, stream, Errand.run_gathered_bind]
  show (_ ++ _ : List (Event τ)) = _ ++ ending ((run k buffer url).run.gathered.run w s).1.2
  cases ((run k buffer url).run.gathered.run w s).1.2 with
  | ok r => rfl
  | error f => rfl

/-- whoever waits for a run gets what is read off its events, or the fault that broke it off -/
theorem run_plain (d : Durations τ) (w : Plan.World (@Query.Answer τ) σ) (buffer : Bool) (url : String) (s : σ) :
    ((plain d k buffer url).run.run w s).1 =
      match (run k buffer url).run.result w s with
      | .ok _ =>
        match (payload? d ((run k buffer url).run.events w s)).bind (Result.ofFields? d) with
        | some r => .ok r
        | none => .error noResult
      | .error f => .error f := by
  rw [plain, Attempt.run_ofErrand_bind, Plan.run_bind, Errand.result, Errand.events]
  obtain ⟨⟨es, outcome⟩, s'⟩ := (run k buffer url).run.gathered.run w s
  cases outcome with
  | error f => rfl
  | ok r =>
    dsimp only
    cases (payload? d es).bind (Result.ofFields? d) <;> rfl

end SnippetStudio.Pipeline
