import SnippetStudio.Capability.Catalogue
import SnippetStudio.Generation.Basic
import SnippetStudio.Pipeline.Acquire
import SnippetStudio.Web.Address

/-!
# Runs

A run leads from an address to a snippet: the page is acquired, a model is asked once, and the snippet is put
into the buffer if there is one (`run`).  Every step is told by an event, the last of which carries the
result (`plain`).  Only the buffer's listeners can break a run off; followed event by event (`stream`), it ends
with a result all the same.
-/

namespace SnippetStudio.Pipeline

/-- what a run is made with -/
structure Setup (τ : Type) where
  settings : Settings
  capabilities : Capabilities := .standard
  /-- the content of a page, and a screenshot of it -/
  content : String → Errand τ (Except Fault ScrapeResult)
  screenshot : String → Errand τ (Except Fault ScrapeResult)
  /-- the turns that the two take -/
  turns : List Bool := []

/-- the options that a page is acquired with -/
def pageOptions : List (String × Json) :=
  [("render_js", .bool true), ("ultra_premium", .bool true), ("device", .str "desktop")]

/-- a part of a page as the scraper gets it -/
def scraped {τ : Type} (s : Settings) (m : Machine) (screenshot : Bool) (url : String) :
    Errand τ (Except Fault ScrapeResult) := do
  return .ok (← Scrape.part s m screenshot pageOptions url)

/-- a run by the scraper -/
def Setup.ofSettings {τ : Type} (s : Settings) (m : Machine) : Setup τ where
  settings := s
  content := scraped s m false
  screenshot := scraped s m true

variable {τ : Type}

/-- a run that ends without a snippet -/
def fail (r : Result τ) (message : String) : Errand τ (Result τ) := do
  Errand.publish (.error message)
  Errand.publish (.done r)
  return r

/-- the snippet goes into the buffer, if there is one -/
def render (buffer : Bool) (code : String) : Attempt τ Unit := do
  if buffer then
    Attempt.ofErrand (Errand.publish .rendering)
    Attempt.load code

def run [Sub τ] [OfNat τ 0] (k : Setup τ) (buffer : Bool) (url : String) : Attempt τ (Result τ) := do
  let start ← Attempt.ofErrand Errand.clock
  let url := Address.complete url
  Attempt.ofErrand (Errand.publish (.scraping url))
  let page ← Attempt.ofErrand (acquire k.turns (k.content url) (k.screenshot url))
  match page.outcome with
  | .error e =>
    let message := "Scrape failed: " ++ e
    let now ← Attempt.ofErrand Errand.clock
    Attempt.ofErrand (fail
      { outcome := .error message, scrapeDuration := page.duration, generationDuration := 0
        totalDuration := now - start, screenshotUsed := false } message)
  | .ok acquired =>
    let screenshotUsed := acquired.screenshot.isSome
    Attempt.ofErrand (Errand.publish (.scraped acquired.html.length screenshotUsed page.duration))
    Attempt.ofErrand (Errand.publish .generating)
    let begun ← Attempt.ofErrand Errand.clock
    let generated ← Attempt.ofErrand
      (generate k.settings k.capabilities url acquired.html acquired.screenshot (some begun))
    let generationDuration := (← Attempt.ofErrand Errand.clock) - begun
    match generated.outcome with
    | .error e =>
      let message := "Generation failed: " ++ e
      let now ← Attempt.ofErrand Errand.clock
      Attempt.ofErrand (fail
        { outcome := .error message, scrapeDuration := page.duration, generationDuration
          totalDuration := now - start, screenshotUsed } message)
    | .ok made =>
      Attempt.ofErrand (Errand.publish (.generated made generationDuration))
      render buffer made.code
      let total := (← Attempt.ofErrand Errand.clock) - start
      let r : Result τ :=
        { outcome := .ok made, scrapeDuration := page.duration, generationDuration
          totalDuration := total, screenshotUsed }
      Attempt.note (.completed total page.duration generationDuration)
      Attempt.ofErrand (Errand.publish (.done r))
      return r

/-- the payload of the last event that is called `done` -/
def payload? (d : Durations τ) (events : List (Event τ)) : Option (List (String × Json)) :=
  (events.reverse.find? (·.type == "done")).map (·.fields d.write)

def noResult : Fault :=
  ⟨.type, "livepreview.pipeline.PipelineResult() argument after ** must be a mapping, not NoneType"⟩

/-- a run for someone who waits for its result, which is read off the event that ends it -/
def plain [Sub τ] [OfNat τ 0] (d : Durations τ) (k : Setup τ) (buffer : Bool) (url : String) :
    Attempt τ (Result τ) := do
  let (events, outcome) ← Attempt.ofErrand (run k buffer url).run.gathered
  let _ ← Attempt.ofExcept outcome
  match (payload? d events).bind (Result.ofFields? d) with
  | some r => return r
  | none => throw noResult

/-- a run for someone who follows its events -/
def stream [Sub τ] [OfNat τ 0] (k : Setup τ) (buffer : Bool) (url : String) : Errand τ Unit := do
  match ← (run k buffer url).run with
  | .ok _ => return
  | .error f =>
    Errand.note (.streamFailed f)
    Errand.publish (.error f.message)
    Errand.publish (.aborted f.message)

end SnippetStudio.Pipeline
