import SnippetStudio.Pipeline.Run
import SnippetStudio.Proofs.Errand.Events

/-!
# What the steps of a run ask

Fetching, scraping and acquiring a page ask the network, the clock and the log (`Query.Admits`), and
generating asks a model besides.  None of them makes anything known: what is told of a run is told by the run
itself.
-/

namespace SnippetStudio

variable {τ : Type} {ok : Query τ → Prop}

theorem Scrape.asks_refuse (what : String) (r : Web.Response) :
    (refuse what r : Attempt τ Unit).Asks ok :=
  .bind (.ofExcept _) fun _ => .throw _

theorem Generation.asks_answer (s : Settings) (provider : Provider) (prompt : String) {image : Option Attachment}
    (consults : ∀ r, r.image = image → ok (.consult r)) :
    (answer s provider prompt image : Attempt τ String).Asks ok := by
  refine .guard (.throw _) (.guard (.throw _) ?_)
  exact .bind (.consult (consults _ rfl)) fun reply => .ofExcept _

variable [Query.Admits ok]

/-! ## Fetching -/

namespace Fetch

theorem asks_follow (n : Nat) (r : Web.Request) : (follow n r : Attempt τ Web.Response).Asks ok := by
  induction n generalizing r with
  | zero => exact .throw _
  | succ n ih =>
    refine .bind (.send r) fun response => .guard (.throw _) ?_
    split
    · exact .pure _
    · exact .bind (.ofExcept _) fun url => ih _

end Fetch

theorem asks_fetch (address : String) (params : Option (List (String × String))) :
    (fetch address params : Attempt τ Web.Response).Asks ok :=
  .bind (.ofExcept _) fun _ => Fetch.asks_follow _ _

/-! ## Scraping -/

namespace Scrape

theorem asks_screenshot (s : Settings) (machine : Machine) (r : Web.Response) :
    (screenshot s machine r : Attempt τ ScrapeResult).Asks ok := by
  refine .ite ?_ (.ite ?_ ?_)
  · refine .bind (.note _) fun _ => ?_
    refine .bind (asks_fetch _ _) fun file => ?_
    exact .guard (.throw _) (.pure _)
  · exact .bind (.note _) fun _ => .pure _
  · refine .bind (.note _) fun _ => ?_
    refine .bind (.ofExcept _) fun text => ?_
    exact .bind (.ofExcept _) fun _ => .pure _

theorem asks_attempt (s : Settings) (machine : Machine) (o : ScrapeOptions) :
    (attempt s machine o : Attempt τ ScrapeResult).Asks ok := by
  refine .guard (.throw _) (.bind (.ofExcept _) fun extra => .bind (.note _) fun _ => ?_)
  refine .bind (asks_fetch _ _) fun r => ?_
  refine .guard (asks_refuse _ r) (.ite (asks_screenshot s machine r) ?_)
  refine .bind (.ofExcept _) fun text => ?_
  refine .bind (.ofExcept _) fun body => ?_
  exact .bind (.note _) fun _ => .pure _

theorem asks_page (s : Settings) (machine : Machine) (o : ScrapeOptions) :
    (page s machine o : Errand τ ScrapeResult).Asks ok := by
  refine .bind (asks_attempt s machine o) fun r => ?_
  cases r with
  | ok r => exact .done r
  | error f => exact .bind (.note _) fun _ => .done _

theorem asks_pageOf (s : Settings) (machine : Machine) (options : Json) :
    (pageOf s machine options : Errand τ ScrapeResult).Asks ok := by
  unfold pageOf
  split
  · exact asks_page s machine _
  · exact .bind (.note _) fun _ => .done _

end Scrape

/-! ## Generating -/

namespace Generation

theorem asks_loadImage (address : String) : (loadImage address : Attempt τ Attachment).Asks ok := by
  refine .ite ?_ ?_
  · exact .bind (.ofExcept _) fun image => .pure _
  · refine .bind (asks_fetch _ _) fun r => ?_
    exact .guard (.throw _) (.pure _)

theorem asks_image? (address : Option String) :
    (image? address : Errand τ (Option Attachment)).Asks ok := by
  unfold image?
  split
  · exact .bind (.note _) fun _ => .done _
  · refine .bind (asks_loadImage _) fun r => ?_
    cases r with
    | ok image => exact .bind (.note _) fun _ => .done _
    | error f => exact .bind (.note _) fun _ => .done _

theorem asks_make {s : Settings} {caps : Capabilities} {url html : String} {screenshot : Option String}
    {P : Option Attachment → Prop}
    (loads : (image? screenshot : Errand τ _).Gives (fun _ _ => True) fun _ image => P image)
    (consults : ∀ r, P r.image → ok (.consult r)) :
    (make s caps url html screenshot : Attempt τ Pipeline.Made).Asks ok := by
  refine .bind (.ofExcept _) fun prompt => ?_
  refine .ofErrand_bind (asks_image? screenshot) loads fun image loaded => ?_
  split
  · exact .throw _
  · next provider _ =>
    refine .bind (asks_answer s provider prompt fun r e => consults r (e ▸ loaded)) fun text => ?_
    exact .guard (.throw _) (.pure _)

theorem asks_since {α : Type} {start : Option τ} {f : τ → Errand τ α} (h : ∀ t, (f t).Asks ok) :
    Errand.Asks ok (match start with
      | some t => pure t >>= f
      | none => Errand.clock >>= f) := by
  cases start with
  | some t => exact h t
  | none => exact .bind .clock h

end Generation

theorem asks_generate [Sub τ] {s : Settings} {caps : Capabilities} {url html : String}
    {screenshot : Option String} (start : Option τ)
    (make : (Generation.make s caps url html screenshot : Attempt τ Pipeline.Made).Asks ok) :
    (generate s caps url html screenshot start).Asks ok := by
  refine Generation.asks_since fun start => .bind make fun r => ?_
  cases r with
  | ok made => exact .bind .clock fun now => .bind (.note _) fun _ => .done _
  | error f =>
    refine .ite ?_ ?_
    · exact .bind (.note _) fun _ => .bind .clock fun now => .done _
    · exact .bind (.note _) fun _ => .bind .clock fun now => .done _

theorem silent_generate [Sub τ] (s : Settings) (caps : Capabilities) (url html : String)
    (screenshot : Option String) (start : Option τ) :
    (generate s caps url html screenshot start).Silent :=
  asks_generate start (Generation.asks_make Errand.gives_any fun _ _ => rfl)

/-! ## Acquiring a page -/

namespace Pipeline

theorem asks_scraped (s : Settings) (machine : Machine) (screenshot : Bool) (url : String) :
    (scraped s machine screenshot url : Errand τ (Except Fault ScrapeResult)).Asks ok :=
  .bind (Scrape.asks_pageOf s machine _) fun _ => .done _

theorem silent_scraped (s : Settings) (machine : Machine) (screenshot : Bool) (url : String) :
    (scraped s machine screenshot url : Errand τ (Except Fault ScrapeResult)).Silent :=
  asks_scraped s machine screenshot url

theorem asks_say (lines : List (LogLine τ)) : (say lines).Asks ok := by
  induction lines with
  | nil => exact .done _
  | cons line lines ih => exact .bind (.note line) fun _ => ih

/-- what becomes of a page once it is fetched -/
def settled [Sub τ] (begun : τ) (content shot : Except Fault ScrapeResult) : Errand τ (Acquired τ) := do
  let duration := (← Errand.clock) - begun
  let outcome := Acquired.ofResults content shot
  match outcome with
  | .ok page => say (Acquired.lines shot duration page)
  | .error _ => pure ()
  return { outcome, duration }

theorem acquire_settled [Sub τ] (turns : List Bool)
    (content shot : Errand τ (Except Fault ScrapeResult)) :
    acquire turns content shot = Errand.clock >>= fun begun =>
      Plan.together turns content shot >>= fun x => settled begun x.1 x.2 := rfl

theorem asks_settled [Sub τ] (begun : τ) (content shot : Except Fault ScrapeResult) :
    (settled begun content shot).Asks ok := by
  unfold settled
  refine .bind .clock fun now => ?_
  dsimp only
  split
  · exact .bind (asks_say _) fun _ => .done _
  · exact .done _

theorem asks_acquire [Sub τ] {turns : List Bool} {content shot : Errand τ (Except Fault ScrapeResult)}
    (hc : content.Asks ok) (hs : shot.Asks ok) : (acquire turns content shot).Asks ok := by
  rw [acquire_settled]
  exact .bind .clock fun begun => .bind (hc.together hs) fun x => asks_settled begun x.1 x.2

end Pipeline

end SnippetStudio
