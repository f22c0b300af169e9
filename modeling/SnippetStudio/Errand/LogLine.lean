import SnippetStudio.Fault
import SnippetStudio.Json.Plain

/-!
# Lines of the log

What the studio says while it scrapes, generates and runs from an address to a snippet.  The log takes every line:
texts are well-formed Unicode, and putting a line into the log does not fail, neither here nor at the desk of a preview
(`Preview.Signal.said`).
-/

namespace SnippetStudio

inductive LogLine (τ : Type) where
  /-- scraping -/
  | requesting (screenshot : Bool) (url : String) (params : List (String × String))
  | received (chars : Nat) (url : String)
  | invalidOptions (reason : String)
  | scrapeFailed (f : Fault)
  | screenshotAt (url : String)
  | screenshotInBody
  | screenshotMissing
  | probeAnswered (start : String)
  | probeFailed (message : String)
  /-- generation -/
  | withImage (mediaType : String) (bytes : Nat)
  | imageUnusable (reason : String)
  | withoutImage
  | generated (provider : String) (chars : Nat) (elapsed : τ) (findings : Nat)
  | generationTimedOut (message : String)
  | generationFailed (provider : String) (f : Fault)
  /-- the whole run -/
  | screenshotBroke (message : String)
  | screenshotLacking (reason : String)
  | acquired (chars : Nat) (duration : τ) (screenshot : Bool)
  | completed (total scrape generation : τ)
  | streamFailed (f : Fault)

namespace LogLine

/-- the text of a line, given how a duration is written -/
def text {τ : Type} (time : τ → String) : LogLine τ → String
  | requesting screenshot url params =>
    "[scraper] Requesting " ++ (if screenshot then "screenshot" else "content") ++ " for " ++ url ++
      " params=" ++ Json.shown (.obj (params.map fun p => (p.1, .str p.2)))
  | received chars url => "[scraper] Got " ++ toString chars ++ " chars for " ++ url
  | invalidOptions reason => "[scraper] Invalid options: " ++ reason
  | scrapeFailed f => "[scraper] Error: " ++ f.full
  | screenshotAt url => "[scraper] Screenshot URL in headers: " ++ url
  | screenshotInBody => "[scraper] Response body is the screenshot"
  | screenshotMissing => "[scraper] No screenshot in response, returning body"
  | probeAnswered start => "[scraper] Connection test response: " ++ start
  | probeFailed message => "[scraper] Connection test failed: " ++ message
  | withImage mediaType bytes =>
    "[generate] Multimodal request (" ++ mediaType ++ ", " ++ toString bytes ++ " bytes)"
  | imageUnusable reason => "[generate] Screenshot unusable, text-only request: " ++ reason
  | withoutImage => "[generate] Text-only request"
  | generated provider chars elapsed findings =>
    "[generate] " ++ provider ++ " returned " ++ toString chars ++ " chars in " ++ time elapsed ++
      "s, " ++ toString findings ++ " lint findings"
  | generationTimedOut message => "[generate] " ++ message
  | generationFailed provider f => "[generate] " ++ provider ++ " failed: " ++ f.full
  | screenshotBroke message => "[pipeline] Screenshot failed, continuing without it: " ++ message
  | screenshotLacking reason => "[pipeline] No screenshot, continuing without it: " ++ reason
  | acquired chars duration screenshot =>
    "[pipeline] Acquired " ++ toString chars ++ " chars in " ++ time duration ++ "s (screenshot: " ++
      Json.shown (.bool screenshot) ++ ")"
  | completed total scrape generation =>
    "[pipeline] Done in " ++ time total ++ "s (scrape " ++ time scrape ++ "s, ai " ++
      time generation ++ "s)"
  | streamFailed f => "[pipeline] Stream failed: " ++ f.full

end LogLine

end SnippetStudio
