import SnippetStudio.Form.Coerce
import SnippetStudio.Text.Lower

/-!
# Settings

The settings of the studio with their defaults.  They are filled in from named values and from the
environment (`Settings.fill`); a named value wins over the environment, and in the environment
letter case does not matter.  Every field is looked at before the settings are refused, so that all
issues come at once.
-/

namespace SnippetStudio

structure Settings where
  /-- credentials -/
  scraperApiKey : String := ""
  geminiApiKey : String := ""
  anthropicApiKey : String := ""
  /-- scraping; times in seconds -/
  scraperApiUrl : String := "https://api.scraperapi.com/"
  scrapeTimeout : Int := 70
  maxContentChars : Int := 200000
  /-- generation: `gemini` or `anthropic` -/
  generationProvider : String := "gemini"
  geminiModel : String := "gemini-2.0-flash"
  claudeModel : String := "claude-sonnet-4-5-20250929"
  promptHtmlChars : Int := 10000
  generationTimeout : Int := 120
  /-- the page of the preview -/
  reactUrl : String := "https://unpkg.com/react@18/umd/react.production.min.js"
  reactDomUrl : String := "https://unpkg.com/react-dom@18/umd/react-dom.production.min.js"
  babelUrl : String := "https://unpkg.com/@babel/standalone/babel.min.js"
  lucideUrl : String := "https://unpkg.com/lucide-react@0.460.0/dist/umd/lucide-react.min.js"
  clsxUrl : String := "https://esm.sh/clsx@2.1.1"
  tailwindMergeUrl : String := "https://esm.sh/tailwind-merge@2.5.5"
  tailwindUrl : String := "https://cdn.tailwindcss.com"
  headless : Bool := true
  viewportWidth : Int := 1280
  viewportHeight : Int := 800
  retryDelay : Float := 0.1
  /-- the example that a session starts with -/
  defaultExample : String := "button"
deriving Inhabited

namespace Settings

/-- a field's outside name, how its value is taken in, and how it is shown -/
structure Field where
  name : String
  fill : Json → Settings → Except Form.Cause Settings
  shown : Settings → Json

private def field {α : Type} (name : String) (read : Json → Except Form.Cause α)
    (put : α → Settings → Settings) (shown : Settings → Json) : Field :=
  ⟨name, fun v s => (read v).map fun a => put a s, shown⟩

/-- all fields, in their order -/
def fields : List Field :=
  [field "scraper_api_key" Form.text (fun a s => { s with scraperApiKey := a }) fun s => .str s.scraperApiKey,
   field "gemini_api_key" Form.text (fun a s => { s with geminiApiKey := a }) fun s => .str s.geminiApiKey,
   field "anthropic_api_key" Form.text (fun a s => { s with anthropicApiKey := a }) fun s => .str s.anthropicApiKey,
   field "scraper_api_url" Form.text (fun a s => { s with scraperApiUrl := a }) fun s => .str s.scraperApiUrl,
   field "scrape_timeout" Form.integer (fun a s => { s with scrapeTimeout := a }) fun s => .int s.scrapeTimeout,
   field "max_content_chars" Form.integer (fun a s => { s with maxContentChars := a }) fun s => .int s.maxContentChars,
   field "generation_provider" Form.text (fun a s => { s with generationProvider := a }) fun s => .str s.generationProvider,
   field "gemini_model" Form.text (fun a s => { s with geminiModel := a }) fun s => .str s.geminiModel,
   field "claude_model" Form.text (fun a s => { s with claudeModel := a }) fun s => .str s.claudeModel,
   field "prompt_html_chars" Form.integer (fun a s => { s with promptHtmlChars := a }) fun s => .int s.promptHtmlChars,
   field "generation_timeout" Form.integer (fun a s => { s with generationTimeout := a }) fun s => .int s.generationTimeout,
   field "react_url" Form.text (fun a s => { s with reactUrl := a }) fun s => .str s.reactUrl,
   field "react_dom_url" Form.text (fun a s => { s with reactDomUrl := a }) fun s => .str s.reactDomUrl,
   field "babel_url" Form.text (fun a s => { s with babelUrl := a }) fun s => .str s.babelUrl,
   field "lucide_url" Form.text (fun a s => { s with lucideUrl := a }) fun s => .str s.lucideUrl,
   field "clsx_url" Form.text (fun a s => { s with clsxUrl := a }) fun s => .str s.clsxUrl,
   field "tailwind_merge_url" Form.text (fun a s => { s with tailwindMergeUrl := a }) fun s => .str s.tailwindMergeUrl,
   field "tailwind_url" Form.text (fun a s => { s with tailwindUrl := a }) fun s => .str s.tailwindUrl,
   field "headless" Form.boolean (fun a s => { s with headless := a }) fun s => .bool s.headless,
   field "viewport_width" Form.integer (fun a s => { s with viewportWidth := a }) fun s => .int s.viewportWidth,
   field "viewport_height" Form.integer (fun a s => { s with viewportHeight := a }) fun s => .int s.viewportHeight,
   field "compiler_retry_delay" Form.number (fun a s => { s with retryDelay := a }) fun s => .real s.retryDelay,
   field "default_example" Form.text (fun a s => { s with defaultExample := a }) fun s => .str s.defaultExample]

def toJson (s : Settings) : Json := .obj (fields.map fun f => (f.name, f.shown s))

/-- the value of a name, letter case ignored: of several values the last -/
def find? (name : String) (values : List (String × Json)) : Option Json :=
  (values.reverse.find? fun f => String.ofList (Text.lower f.1.toList) == name).map (·.2)

/-- one field taken in: the settings so far, and the issues so far -/
def step (values environment : List (String × Json)) (acc : Settings × List Form.Issue) (f : Field) :
    Settings × List Form.Issue :=
  match (find? f.name values).or (find? f.name environment) with
  | none => acc
  | some v =>
    match f.fill v acc.1 with
    | .ok s => (s, acc.2)
    | .error c => (acc.1, acc.2 ++ [⟨[f.name], c⟩])

/-- the settings for named values and an environment, or what is wrong with them -/
def fill (values environment : List (String × Json)) : Except (List Form.Issue) Settings :=
  match fields.foldl (step values environment) ({}, []) with
  | (s, []) => .ok s
  | (_, issues) => .error issues

/-- the defaults with some fields replaced; values that do not fit are passed over -/
def ofOverrides (values : List (String × Json)) : Settings :=
  (fields.foldl (step values []) ({}, [])).1

end Settings

end SnippetStudio
