import SnippetStudio.Errand.Fetch
import SnippetStudio.Generation.Prompt
import SnippetStudio.Picture.DataUrl
import SnippetStudio.Snippet.Fence
import SnippetStudio.Snippet.Lint

/-!
# Generation

A model is asked once for a snippet that shows a page (`generate`).  It is shown the screenshot of the
page if there is one that can be loaded; otherwise it gets the prompt alone.  What the linter finds in the
snippet goes along as warnings.
-/

namespace SnippetStudio

open Pipeline (Made)

/-- a snippet or the reason why there is none, and the time that went by -/
structure Generated (τ : Type) where
  outcome : Except String Made
  elapsed : τ

/-- the record of a generation, given how a duration is written -/
def Generated.toFields {τ : Type} (time : τ → Json) (g : Generated τ) : List (String × Json) :=
  let (code, error, warnings) : Json × Json × List String := match g.outcome with
    | .ok m => (.str m.code, .null, m.warnings)
    | .error e => (.null, .str e, [])
  [("success", .bool g.outcome.toBool), ("code", code), ("error", error),
    ("processing_time", time g.elapsed), ("warnings", .arr (warnings.map .str))]

namespace Generation

variable {τ : Type}

def badStatus (r : Web.Response) : Fault :=
  ⟨.unknown "HTTPStatusError", "status " ++ toString r.status⟩

def isDataUrl (address : String) : Bool := Text.begins DataUrl.scheme address.toList

/-- the screenshot at an address, which may hold it itself -/
def loadImage (address : String) : Attempt τ Attachment := do
  if isDataUrl address then
    let (bytes, mediaType) ← Attempt.ofExcept (DataUrl.decode address)
    return ⟨mediaType, bytes⟩
  else
    let r ← fetch address
    if !r.isSuccess then throw (badStatus r)
    let mediaType := Text.trim (Text.upTo ';' (r.contentType?.getD "image/png").toList)
    return ⟨String.ofList mediaType, r.body⟩

/-- the screenshot that goes along, if it can be loaded -/
def image? (address : Option String) : Errand τ (Option Attachment) := do
  match address.filter (!·.isEmpty) with
  | none =>
    Errand.note .withoutImage
    return none
  | some address =>
    match ← (loadImage address).run with
    | .ok image =>
      Errand.note (.withImage image.mediaType image.bytes.length)
      return some image
    | .error f =>
      Errand.note (.imageUnusable f.message)
      return none

def outOfTime : Fault := ⟨.timeout, ""⟩

/-- the text that a model answers with; no time at all is too little even for the call -/
def answer (s : Settings) (provider : Provider) (prompt : String) (image : Option Attachment) :
    Attempt τ String := do
  if s.generationTimeout ≤ 0 then throw outOfTime
  let key := provider.key s
  if key.isEmpty then throw provider.missingKey
  let reply ← Attempt.consult { provider, key, model := provider.model s, image, prompt }
  Attempt.ofExcept (Chat.replyText provider reply)

/-- what the linter has to say, one line a finding -/
def warnings (caps : Capabilities) (code : String) : List String :=
  let v := lint code caps
  let line (label message : String) : String := "[" ++ label ++ "] " ++ message
  v.errors.map (fun f => line f.cause.label f.cause.message) ++
    v.warnings.map fun f => line f.cause.label f.cause.message

def make (s : Settings) (caps : Capabilities) (url html : String) (screenshot : Option String) :
    Attempt τ Made := do
  let prompt ← Attempt.ofExcept (prompt url html s.promptHtmlChars caps)
  let image ← Attempt.ofErrand (image? screenshot)
  match Provider.ofLabel? s.generationProvider with
  | none => throw (.value ("Unknown generation provider: " ++ s.generationProvider))
  | some provider =>
    let text ← answer s provider prompt image
    let code := unfenced text
    if code.isEmpty then throw (.runtime "Model returned an empty response")
    return ⟨code, warnings caps code⟩

def timeoutMessage (s : Settings) : String :=
  "Generation timed out after " ++ toString s.generationTimeout ++ "s"

end Generation

open Generation in
/-- a snippet for a page, with the time since `start` -/
def generate {τ : Type} [Sub τ] (s : Settings) (caps : Capabilities) (url html : String)
    (screenshot : Option String) (start : Option τ) : Errand τ (Generated τ) := do
  let start ← match start with
    | some t => pure t
    | none => Errand.clock
  match ← (make s caps url html screenshot).run with
  | .ok made =>
    let now ← Errand.clock
    Errand.note (.generated s.generationProvider made.code.length (now - start) made.warnings.length)
    return ⟨.ok made, now - start⟩
  | .error f =>
    if f.kind = .timeout then
      Errand.note (.generationTimedOut (timeoutMessage s))
      return ⟨.error (timeoutMessage s), (← Errand.clock) - start⟩
    else
      Errand.note (.generationFailed s.generationProvider f)
      return ⟨.error f.report, (← Errand.clock) - start⟩

end SnippetStudio
