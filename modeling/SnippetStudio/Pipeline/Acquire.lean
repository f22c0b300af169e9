import SnippetStudio.Scrape.Basic

/-!
# Acquiring a page

The content of a page and a screenshot of it are fetched at the same time.  Only the content is needed:
`Acquired.ofResults` says what becomes of the two results.
-/

namespace SnippetStudio.Pipeline

/-- the markup of a page, and a screenshot if there is one -/
structure Acquired.Page where
  html : String
  screenshot : Option String
deriving Repr, DecidableEq

structure Acquired (τ : Type) where
  outcome : Except String Acquired.Page
  duration : τ

namespace Acquired

variable {τ : Type}

/-- the screenshot in a result, and what is said where there is none -/
def screenshot : Except Fault ScrapeResult → Except (LogLine τ) String
  | .error f => .error (.screenshotBroke f.message)
  | .ok r =>
    match r.screenshot?.filter (!·.isEmpty) with
    | some u => .ok u
    | none => .error (.screenshotLacking (match r.error?.filter (!·.isEmpty) with
        | some e => e
        | none => "empty response"))

/-- a page, or why there is none -/
def ofResults (content shot : Except Fault ScrapeResult) : Except String Page :=
  match content with
  | .error f => .error f.report
  | .ok (.failed e) => .error e
  | .ok r => .ok ⟨r.data.html, (@screenshot Unit shot).toOption⟩

/-- what is said on a page -/
def lines (shot : Except Fault ScrapeResult) (duration : τ) (page : Page) : List (LogLine τ) :=
  (match screenshot shot with
    | .ok _ => []
    | .error line => [line]) ++
    [.acquired page.html.length duration page.screenshot.isSome]

/-- the record of a page, given how a duration is written; without a page the markup is empty -/
def toFields (time : τ → Json) (a : Acquired τ) : List (String × Json) :=
  let textOf (s : Option String) : Json := (s.map Json.Tree.str).getD .null
  let (page, error) : Page × Option String := match a.outcome with
    | .ok p => (p, none)
    | .error e => (⟨"", none⟩, some e)
  [("success", .bool a.outcome.toBool), ("html", .str page.html), ("screenshot_url", textOf page.screenshot),
    ("error", textOf error), ("duration", time a.duration)]

end Acquired

/-- what is said, line by line -/
def say {τ : Type} : List (LogLine τ) → Errand τ Unit
  | [] => return
  | line :: lines => do
    Errand.note line
    say lines

/-- content and screenshot fetched together, in any turns -/
def acquire {τ : Type} [Sub τ] (turns : List Bool) (content shot : Errand τ (Except Fault ScrapeResult)) :
    Errand τ (Acquired τ) := do
  let start ← Errand.clock
  let (content, shot) ← Plan.together turns content shot
  let duration := (← Errand.clock) - start
  let outcome := Acquired.ofResults content shot
  match outcome with
  | .ok page => say (Acquired.lines shot duration page)
  | .error _ => pure ()
  return { outcome, duration }

end SnippetStudio.Pipeline
