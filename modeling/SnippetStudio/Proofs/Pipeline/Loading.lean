import SnippetStudio.Proofs.Errand.Buffered
import SnippetStudio.Proofs.Pipeline.Silence

/-!
# What a run does to the buffer

A run touches the buffer at one place: when it has its snippet, right before the end.  What it makes
known and what it loads stand in a `Ledger`, whatever the world answers; so whoever leaves before the end
leaves the buffer as it was, and so does a run without a snippet.

* `shows_run`       **the ledger of a run**, with one request to a model at most;
* `Ledger.guarded`  nothing is loaded as long as the end has not been told;
* `run_fetched`     a run begins by fetching the page, and asks no model when that fails;
* `run_loads_made`  **a run touches the buffer only by succeeding**.
-/

namespace SnippetStudio

variable {τ α β σ ι : Type}

namespace Attempt

variable {may : (q : Query τ) → q.Answer → Prop} {f : α → Attempt τ β}
  {S : List (Query τ) → List Chat.Request → Except Fault β → Prop}

/-- what is to be seen of an attempt, what is asked of a model, and the outcome are as said -/
def Shows (may : (q : Query τ) → q.Answer → Prop) (x : Attempt τ α)
    (S : List (Query τ) → List Chat.Request → Except Fault α → Prop) : Prop :=
  x.Gives may fun t r => S (visible (t.map (·.1))) (consults (t.map (·.1))) r

theorem shows_once {e : Errand τ α} (he : e.Once) (h : ∀ a cs, cs.length ≤ 1 →
    (f a).Shows may fun vs cs' r => S vs (cs ++ cs') r) : (ofErrand e >>= f).Shows may S := by
  refine gives_ofErrand_bind.mpr (he.gives.imp fun t a ⟨seen, put⟩ => ?_)
  refine Errand.Gives.imp (h a _ put) fun t' r last => ?_
  rw [List.map_append, visible_append, consults_append, seen, List.nil_append]
  exact last

theorem shows_quiet {e : Errand τ α} (he : e.Asks Query.Quiet) (h : ∀ a, (f a).Shows may S) :
    (ofErrand e >>= f).Shows may S := by
  refine gives_ofErrand_bind.mpr (he.gives_quiet.imp fun t a ⟨seen, put⟩ => ?_)
  refine Errand.Gives.imp (h a) fun t' r last => ?_
  rw [List.map_append, visible_append, consults_append, seen, put]
  exact last

theorem shows_publish {e : Pipeline.Event τ} {f : Unit → Attempt τ β}
    (h : (f ()).Shows may fun vs cs r => S (.publish e :: vs) cs r) :
    (ofErrand (Errand.publish e) >>= f).Shows may S :=
  gives_ofErrand_bind.mpr fun _ _ => h

theorem shows_load {code : String} {f : Unit → Attempt τ β}
    (takes : ∀ x, may (.load code) x → x = .ok ())
    (h : (f ()).Shows may fun vs cs r => S (.load code :: vs) cs r) :
    (load code >>= f).Shows may S := by
  refine gives_bind.mpr fun x hx => ?_
  rw [takes x hx]
  exact h

end Attempt

namespace Pipeline

/-! ## The ledger of a run -/

/-- what is to be seen of a run with this result: events on the way, the snippet that goes into the buffer,
and the end -/
inductive Ledger (buffer : Bool) : List (Query τ) → Result τ → Prop
  | fails {es : List (Event τ)} {e : String} {r : Result τ} (outcome : r.outcome = .error e)
    (steps : ∀ x ∈ es, x.type ≠ "done") :
    Ledger buffer (es.map .publish ++ [.publish (.done r)]) r
  | makes {es : List (Event τ)} {m : Made} {u : τ} {r : Result τ} (outcome : r.outcome = .ok m)
    (steps : ∀ x ∈ es, x.type ≠ "done" ∧ (x.type = "generated" → x = .generated m u))
    (made : .generated m u ∈ es) :
    Ledger buffer (es.map .publish ++ ((if buffer then [.load m.code] else []) ++
      [.publish (.done r)])) r

theorem Event.eq_generated {e : Event τ} (type : e.type = "generated") : ∃ m u, e = .generated m u := by
  cases e with
  | generated m u => exact ⟨m, u, rfl⟩
  | _ => simp [Event.type] at type

theorem told_made (buffer : Bool) (es : List (Event τ)) (m : Made) (r : Result τ) :
    told (es.map .publish ++ ((if buffer then [.load m.code] else []) ++ [.publish (.done r)])) =
      es ++ [.done r] := by
  rw [told_append, told_publish, told_append]
  cases buffer <;> rfl

namespace Ledger

variable {buffer : Bool} {vs : List (Query τ)} {r : Result τ}

/-- the end is told once, behind what is told on the way -/
theorem told_eq (h : Ledger buffer vs r) : ∃ es, told vs = es ++ [.done r] ∧ ∀ x ∈ es, x.type ≠ "done" := by
  cases h with
  | @fails es _ _ _ steps =>
    refine ⟨es, ?_, steps⟩
    rw [told_append, told_publish]
    rfl
  | @makes es m _ _ _ steps _ => exact ⟨es, told_made buffer es m r, fun x hx => (steps x hx).1⟩

theorem done_told (h : Ledger buffer vs r) (r' : Result τ) : .done r' ∈ told vs ↔ r' = r := by
  obtain ⟨es, told, steps⟩ := h.told_eq
  rw [told, List.mem_append, List.mem_singleton, Event.done.injEq]
  exact ⟨fun h => h.resolve_left fun early => steps _ early rfl, .inr⟩

theorem eq_done (h : Ledger buffer vs r) {e : Event τ} (mem : e ∈ told vs) (type : e.type = "done") : e = .done r := by
  obtain ⟨es, told, steps⟩ := h.told_eq
  rw [told, List.mem_append, List.mem_singleton] at mem
  exact mem.resolve_left fun early => steps _ early type

theorem loads_of_error (h : Ledger buffer vs r) {e : String} (outcome : r.outcome = .error e) :
    loads vs = [] := by
  cases h with
  | fails => rw [loads_append, loads_publish]; rfl
  | makes made => rw [made] at outcome; cases outcome

/-- a run with a snippet has told it, and loads it into the buffer if there is one -/
theorem of_made (h : Ledger buffer vs r) {m : Made} (outcome : r.outcome = .ok m) :
    (∃ u, .generated m u ∈ told vs) ∧ (∀ m' u, .generated m' u ∈ told vs → m' = m) ∧
      loads vs = if buffer then [m.code] else [] := by
  cases h with
  | fails error => rw [error] at outcome; cases outcome
  | @makes es m' u _ made steps mem =>
    cases Except.ok.inj (made.symm.trans outcome)
    refine ⟨⟨u, ?_⟩, fun m' u' h => ?_, ?_⟩
    · rw [told_made]
      exact List.mem_append_left _ mem
    · rw [told_made] at h
      have early : .generated m' u' ∈ es := by simpa using h
      cases (steps _ early).2 rfl
      rfl
    · rw [loads_append, loads_publish, loads_append]
      cases buffer <;> rfl

/-- nothing is loaded as long as the end has not been told -/
theorem guarded (h : Ledger buffer vs r) (n : Nat)
    (waits : ∀ e ∈ told (early n vs), e.type ≠ "done") : loads (early n vs) = [] := by
  have ending {es : List (Event τ)} :
      loads (early n (es.map .publish ++ [.publish (.done r)])) = [] := by
    rw [early_publish, loads_append, loads_publish]
    cases n - es.length with
    | zero => rfl
    | succ left =>
      show loads (early left []) = []
      rw [early_nil]
      rfl
  cases h with
  | fails => exact ending
  | @makes es m u =>
    cases buffer with
    | false => exact ending
    | true =>
      rw [early_publish] at waits ⊢
      cases left : n - es.length with
      | zero => rw [early_zero, List.append_nil, loads_publish]
      | succ left' =>
        rw [left, told_append] at waits
        exact absurd rfl (waits (.done r) (List.mem_append_right _ List.mem_cons_self))

end Ledger

variable {may : (q : Query τ) → q.Answer → Prop} {r : Result τ}
  {S : List (Query τ) → List Chat.Request → Except Fault (Result τ) → Prop}

theorem shows_fail {message : String}
    (h : S [.publish (.error message), .publish (.done r)] [] (.ok r)) :
    (Attempt.ofErrand (fail r message)).Shows may S :=
  fun _ _ _ _ => h

theorem shows_end {line : LogLine τ} (h : S [.publish (.done r)] [] (.ok r)) :
    (do
      Attempt.note line
      Attempt.ofErrand (Errand.publish (.done r))
      return r : Attempt τ (Result τ)).Shows may S :=
  fun _ _ _ _ => h

theorem once_make (s : Settings) (caps : Capabilities) (url html : String)
    (screenshot : Option String) : (Generation.make s caps url html screenshot : Attempt τ Made).Once := by
  refine .after (.ofExcept _) fun prompt => ?_
  refine .after (.ofErrand (Generation.asks_image? screenshot)) fun image => ?_
  split
  · exact .quiet (.done _)
  · next provider _ =>
    refine .before ?_ fun text => .guard (.throw _) (.pure _)
    refine .guard (.throw _) (.guard (.throw _) ?_)
    exact .before (.consult _) fun reply => .ofExcept _

/-- what is measured from a given time, or else from now -/
theorem once_since {start : Option τ} {f : τ → Errand τ α} (h : ∀ t, (f t).Once) :
    Errand.Once (match start with
      | some t => pure t >>= f
      | none => Errand.clock >>= f) := by
  cases start with
  | some t => exact h t
  | none => exact .after .clock h

theorem once_generate [Sub τ] (s : Settings) (caps : Capabilities) (url html : String)
    (screenshot : Option String) (start : Option τ) :
    (generate s caps url html screenshot start).Once := by
  refine once_since fun start => .before (once_make s caps url html screenshot) fun made => ?_
  cases made with
  | ok made => exact .bind .clock fun now => .bind (.note _) fun _ => .done _
  | error f =>
    refine .ite ?_ ?_
    · exact .bind (.note _) fun _ => .bind .clock fun now => .done _
    · exact .bind (.note _) fun _ => .bind .clock fun now => .done _

section

variable [Sub τ] [OfNat τ 0] {k : Setup τ}

/-- **The ledger of a run**, whatever the answers are, as long as the buffer takes its snippet. -/
theorem shows_run (content : ∀ url, (k.content url).Asks Query.Quiet)
    (shot : ∀ url, (k.screenshot url).Asks Query.Quiet)
    (takes : ∀ code x, may (.load code) x → x = .ok ()) (buffer : Bool) (url : String) :
    (run k buffer url).Shows may fun vs cs x =>
      ∃ r, x = .ok r ∧ Ledger buffer vs r ∧ cs.length ≤ 1 := by
  refine Attempt.shows_quiet .clock fun start => Attempt.shows_publish ?_
  refine Attempt.shows_quiet (asks_acquire (content _) (shot _)) fun page => ?_
  split
  · refine Attempt.shows_quiet .clock fun now => shows_fail ?_
    refine ⟨_, rfl, @Ledger.fails τ buffer [.scraping _, .error _] _ _ rfl ?_, Nat.zero_le 1⟩
    simp [Event.type]
  refine Attempt.shows_publish (Attempt.shows_publish ?_)
  refine Attempt.shows_quiet .clock fun begun => ?_
  refine Attempt.shows_once (once_generate ..) fun generated cs once => ?_
  refine Attempt.shows_quiet .clock fun ended => ?_
  split
  · refine Attempt.shows_quiet .clock fun now => shows_fail ?_
    refine ⟨_, rfl, @Ledger.fails τ buffer
      [.scraping _, .scraped _ _ _, .generating, .error _] _ _ rfl ?_, ?_⟩
    · simp [Event.type]
    · rwa [List.append_nil]
  refine Attempt.shows_publish ?_
  cases buffer with
  | false =>
    refine Attempt.shows_quiet .clock fun now => shows_end ?_
    refine ⟨_, rfl, @Ledger.makes τ false
      [.scraping _, .scraped _ _ _, .generating, .generated _ _] _ (ended - begun) _ rfl ?_ ?_, ?_⟩
    · simp [Event.type]
    · simp
    · rwa [List.append_nil]
  | true =>
    refine Attempt.shows_publish (Attempt.shows_load (takes _) ?_)
    refine Attempt.shows_quiet .clock fun now => shows_end ?_
    refine ⟨_, rfl, @Ledger.makes τ true
      [.scraping _, .scraped _ _ _, .generating, .generated _ _, .rendering] _ (ended - begun) _ rfl
      ?_ ?_, ?_⟩
    · simp [Event.type]
    · simp
    · rwa [List.append_nil]

end

/-! ## How a run begins -/

/-- the beginning of a run: the times at which it and the fetching began, and what was fetched -/
def fetched (k : Setup τ) (url : String) :
    Errand τ (τ × τ × Except Fault ScrapeResult × Except Fault ScrapeResult) := do
  let start ← Errand.clock
  Errand.publish (.scraping url)
  let begun ← Errand.clock
  let (content, shot) ← Plan.together k.turns (k.content url) (k.screenshot url)
  return (start, begun, content, shot)

theorem asks_fetched {k : Setup τ} (content : ∀ url, (k.content url).Asks Query.Unmodelled)
    (shot : ∀ url, (k.screenshot url).Asks Query.Unmodelled) (url : String) :
    (fetched k url).Asks Query.Unmodelled := by
  refine .bind .clock fun start => .bind (.question rfl) fun _ => .bind .clock fun begun => ?_
  exact .bind ((content url).together (shot url)) fun (content, shot) => .done _

/-- there is no content -/
def failed : Except Fault ScrapeResult → Bool
  | .ok r => !r.isSuccess
  | .error _ => true

theorem asks_fail {ok : Query τ → Prop} (publishes : ∀ e, ok (.publish e)) (r : Result τ)
    (message : String) : (fail r message).Asks ok :=
  .bind (.question (publishes _)) fun _ => .bind (.question (publishes _)) fun _ => .done r

theorem ofResults_of_failed {content : Except Fault ScrapeResult} (h : failed content = true)
    (shot : Except Fault ScrapeResult) : ∃ e, Acquired.ofResults content shot = .error e := by
  cases content with
  | error f => exact ⟨f.report, rfl⟩
  | ok r =>
    cases r with
    | failed e => exact ⟨e, rfl⟩
    | _ => cases h

variable [Sub τ]

theorem fetched_bind (k : Setup τ) (url : String) (f : τ → Acquired τ → Errand τ β) :
    (Errand.clock >>= fun start => Errand.publish (.scraping url) >>= fun _ =>
      acquire k.turns (k.content url) (k.screenshot url) >>= f start) =
    fetched k url >>= fun x => settled x.2.1 x.2.2.1 x.2.2.2 >>= f x.1 := by
  simp only [acquire_settled, fetched, Plan.bind_assoc, Plan.done_bind, Plan.pure_eq]

variable [OfNat τ 0]

/-- what follows the fetching; when it has failed, no model is asked, and no time goes to one -/
theorem run_fetched (k : Setup τ) (buffer : Bool) (url : String) : ∃ rest,
    (run k buffer url).run = fetched k (Address.complete url) >>= rest ∧
      ∀ x, failed x.2.2.1 = true → Errand.Asks Query.Unmodelled (rest x) ∧
        ∀ may, (rest x).Gives may fun _ r => ∃ r', r = .ok r' ∧ r'.generationDuration = 0 := by
  obtain ⟨f, same, fails⟩ : ∃ f : τ → Acquired τ → Errand τ (Except Fault (Result τ)),
      (run k buffer url).run = (Errand.clock >>= fun start =>
        Errand.publish (.scraping (Address.complete url)) >>= fun _ =>
          acquire k.turns (k.content (Address.complete url)) (k.screenshot (Address.complete url)) >>=
            f start) ∧
      ∀ start page e, page.outcome = .error e → (f start page).Asks Query.Unmodelled ∧
        ∀ may, (f start page).Gives may fun _ r => ∃ r', r = .ok r' ∧ r'.generationDuration = 0 := by
    apply Exists.intro
    apply And.intro
    · simp only [run, Attempt.run_ofErrand_bind]
      rfl
    · intro start page e he
      simp only [he]
      refine ⟨Attempt.Asks.bind (.ofErrand .clock) fun now => ?_, fun may => ?_⟩
      · exact .ofErrand (asks_fail (fun _ => rfl) _ _)
      · exact fun now _ _ _ _ _ => ⟨_, rfl, rfl⟩
  refine ⟨_, same.trans (fetched_bind k _ f), fun (start, begun, content, shot) h => ?_⟩
  obtain ⟨e, error⟩ := ofResults_of_failed h shot
  simp only [settled, error, Plan.bind_assoc, Plan.pure_eq, Plan.done_bind]
  refine ⟨.bind .clock fun now => (fails start _ e rfl).1, fun may now _ => ?_⟩
  exact ((fails start _ e rfl).2 may).imp fun _ _ => id

/-- no model is asked about a page that could not be fetched -/
theorem consults_of_failed {k : Setup τ} (content : ∀ url, (k.content url).Asks Query.Unmodelled)
    (shot : ∀ url, (k.screenshot url).Asks Query.Unmodelled) {buffer : Bool} {url : String}
    {w : Plan.World (@Query.Answer τ) σ} {s : σ}
    (fails : failed ((fetched k (Address.complete url)).run w s).1.2.2.1 = true) :
    consults ((run k buffer url).run.asked w s) = [] := by
  obtain ⟨rest, split, unasked⟩ := run_fetched k buffer url
  have begins := asks_fetched content shot (Address.complete url)
  rw [split, Errand.asked_bind, consults_append, consults_unmodelled (begins.asked w s),
    consults_unmodelled ((unasked _ fails).1.asked w _)]
  rfl

/-- whoever follows a run that has a result asks what the run asks, and ends where it ends -/
theorem stream_of_ok {k : Setup τ} {buffer : Bool} {url : String} {w : Plan.World (@Query.Answer τ) σ}
    {s : σ} {r : Result τ} (result : ((run k buffer url).run.run w s).1 = .ok r) :
    (stream k buffer url).run w s = ((), ((run k buffer url).run.run w s).2) ∧
      (stream k buffer url).asked w s = (run k buffer url).run.asked w s := by
  constructor
  · rw [stream, Plan.run_bind, result]
    rfl
  · rw [stream, Errand.asked_bind, result]
    exact List.append_nil _

/-- **A run touches the buffer only by succeeding.**  Whatever the network, the model and the clock do, and
whatever the listeners do in a buffer that takes every snippet: whoever follows a run and leaves before
its end has been told leaves the buffer as it was; and so does a run without a snippet.  A run that succeeds
puts the snippet that it tells, in the data of its events, into the buffer, once, if there is a buffer.  A
model is asked once at most, and not at all if the content of the page could not be fetched. -/
theorem run_loads_made (s : Settings) (machine : Machine) (caps : Capabilities) (turns : List Bool)
    (buffer : Bool) (url : String) [DecidableEq ι] (w : Plan.World (@Query.Answer τ) σ)
    (react : String → σ → List (Telling.Move ι)) (world : σ) (t : Telling ι) :
    let k : Setup τ := { Setup.ofSettings s machine with capabilities := caps, turns := turns }
    let w' := Errand.beside w react
    let plain := (run k buffer url).run.run w' (world, t)
    let qs := (stream k buffer url).asked w' (world, t)
    (∀ n, (∀ e ∈ told (((stream k buffer url).upTo n).asked w' (world, t)), e.type ≠ "done") →
      (((stream k buffer url).upTo n).run w' (world, t)).2.2 = t) ∧
    ∃ r, plain.1 = .ok r ∧ (stream k buffer url).run w' (world, t) = ((), plain.2) ∧
      (run k buffer url).run.asked w' (world, t) = qs ∧
      (∀ r', .done r' ∈ told qs ↔ r' = r) ∧
      (∀ e ∈ told qs, e.type = "done" → ∀ time : τ → Json,
        Json.get? "success" (e.fields time) = some (.bool r.outcome.toBool)) ∧
      (match r.outcome with
        | .error _ => loads qs = [] ∧ plain.2.2 = t
        | .ok made => (∃ u, .generated made u ∈ told qs) ∧
          (∀ m u, .generated m u ∈ told qs → m = made) ∧
          (∀ e ∈ told qs, e.type = "generated" ∨ e.type = "done" → ∀ time : τ → Json,
            Json.get? "code" (e.fields time) = some (.str made.code)) ∧
          loads qs = (if buffer then [made.code] else []) ∧
          if buffer then
            ∃ world', plain.2.2 = t.after (.edit (.set made.code) :: react made.code world')
          else plain.2.2 = t) ∧
      (consults qs).length ≤ 1 ∧
      (failed ((fetched k (Address.complete url)).run w' (world, t)).1.2.2.1 = true →
        consults qs = []) := by
  intro k w' plain qs
  have content : ∀ url, (k.content url).Asks Query.Quiet := fun url => asks_scraped s machine false url
  have shot : ∀ url, (k.screenshot url).Asks Query.Quiet := fun url => asks_scraped s machine true url
  have takes : ∀ code x, Query.answers w' (.load code) x → x = .ok () := by
    rintro code x ⟨world, rfl⟩
    rfl
  obtain ⟨r, result, ledger, once⟩ :=
    Errand.Gives.run (shows_run content shot takes buffer url) (world, t)
  obtain ⟨follows, asks⟩ := stream_of_ok result
  change qs = _ at asks
  change Ledger buffer (visible ((run k buffer url).run.asked w' (world, t))) r at ledger
  change (consults ((run k buffer url).run.asked w' (world, t))).length ≤ 1 at once
  have still (h : loads qs = []) : plain.2.2 = t := Errand.telling_still (asks ▸ h)
  rw [← asks] at ledger once
  have ends : ∀ e ∈ told qs, e.type = "done" → e = .done r := fun e mem type =>
    ledger.eq_done (told_visible qs ▸ mem) type
  refine ⟨fun n waits => ?_, r, result, follows, asks.symm, fun r' => ?_, fun e mem type time => ?_, ?_, once,
    fun fails => ?_⟩
  · refine Errand.telling_still ?_
    rw [Errand.asked_upTo] at waits ⊢
    change ∀ e ∈ told (early n qs), e.type ≠ "done" at waits
    change loads (early n qs) = []
    rw [← told_visible, visible_early] at waits
    rw [← loads_visible, visible_early]
    exact ledger.guarded n waits
  · rw [← told_visible]
    exact ledger.done_told r'
  · rw [ends e mem type]
    rfl
  · cases outcome : r.outcome with
    | error e =>
      have none : loads qs = [] := by
        rw [← loads_visible]
        exact ledger.loads_of_error outcome
      exact ⟨none, still none⟩
    | ok made =>
      obtain ⟨made_told, only, loaded⟩ := ledger.of_made outcome
      rw [loads_visible] at loaded
      rw [told_visible] at made_told only
      refine ⟨made_told, only, fun e mem type time => ?_, loaded, ?_⟩
      · rcases type with type | type
        · obtain ⟨m, u, rfl⟩ := Event.eq_generated type
          rw [← only m u mem]
          rfl
        · rw [ends e mem type, Event.fields, Result.toFields, outcome]
          rfl
      cases buffer with
      | false => exact still loaded
      | true => exact Errand.telling_once (asks ▸ loaded)
  · rw [asks]
    exact consults_of_failed (fun url => asks_scraped s machine false url)
      (fun url => asks_scraped s machine true url) fails

end Pipeline

end SnippetStudio
