import SnippetStudio.Pipeline.Run
import SnippetStudio.Rehearsal.Fault

/-!
# A scripted world outside

A world that answers errands by a script.  The network has rules: the first rule that fits a request and has
uses left decides the answer; a request that no rule fits gets the status 599.  Both models answer
by one more rule.  The clock moves only where a rule says so.

Requests, calls of a model, lines of the log and events are recorded.  Behind `load` is a buffer of any kind,
given by what loading does to it.
-/

namespace SnippetStudio.Rehearsal

/-- a number of a script as a double -/
def numberOf (v : Json) : Float :=
  match v with
  | .int n => Decimal.ofInt n
  | .real x => x
  | _ => 0

def secondsOf (key : String) (v : Json) : Float := numberOf ((v.field? key).getD .null)

/-! ## The network -/

structure NetworkRule where
  /-- must occur in the URL -/
  part : String := ""
  /-- whether the request must be for a screenshot, if that matters -/
  screenshot : Option Bool := none
  uses : Option Nat := none
  /-- seconds that go by -/
  delay : Float := 0
  outcome : Except Fault Web.Response

namespace NetworkRule

def bodyOf (v : Json) : Bytes :=
  match (v.present? "body_b64").bind (·.str?) with
  | some b => (Base64.decode b.toList).toOption.getD []
  | none => utf8Bytes (((v.field? "body").bind (·.str?)).getD "")

def responseOf (v : Json) : Web.Response where
  status := ((v.present? "status").bind (·.int?)).getD 200
  headers := (((v.field? "headers").bind (·.fields?)).getD []).map fun h => (h.1, h.2.str?.getD "")
  body := bodyOf v

def ofJson (v : Json) : NetworkRule where
  part := ((v.field? "contains").bind (·.str?)).getD ""
  screenshot := (v.field? "screenshot").bind (·.bool?)
  uses := ((v.field? "times").bind (·.int?)).map (·.toNat)
  delay := secondsOf "advance" v
  outcome := match fault? "raise" v with
    | some f => .error f
    | none => .ok (responseOf v)

/-- the request is for a screenshot -/
def wantsScreenshot (u : Url) : Bool :=
  (u.params.find? fun p => p.1 == "screenshot").map (·.2) == some "true"

def fits (r : NetworkRule) (u : Url) : Bool :=
  r.uses != some 0 && Text.contains r.part.toList u.text.toList &&
    (match r.screenshot with
      | some b => b == wantsScreenshot u
      | none => true)

/-- the rule for a URL, and the rules with one use of it gone -/
def choose (u : Url) : List NetworkRule → Option NetworkRule × List NetworkRule
  | [] => (none, [])
  | r :: rs =>
    if r.fits u then (some r, { r with uses := r.uses.map (· - 1) } :: rs)
    else let (found, rs) := choose u rs; (found, r :: rs)

end NetworkRule

/-! ## The models -/

structure ModelRule where
  text : Option String := none
  /-- blocks, where they are given one by one -/
  blocks : Option Chat.Reply := none
  delay : Float := 0
  fault : Option Fault := none

namespace ModelRule

def blockOf (v : Json) : Chat.Block :=
  if ((v.field? "type").bind (·.str?)) == some "text" then .text ((v.field? "text").bind (·.str?))
  else .other

def ofJson (v : Json) : ModelRule where
  text := (v.field? "text").bind (·.str?)
  blocks := ((v.present? "blocks").bind (·.items?)).map (·.map blockOf)
  delay := secondsOf "advance" v
  fault := fault? "raise" v

def reply (m : ModelRule) : Provider → Chat.Reply
  | .gemini => [.text m.text]
  | .anthropic => m.blocks.getD [.text m.text]

def outcome (m : ModelRule) (p : Provider) : Except Fault Chat.Reply :=
  match m.fault with
  | some f => .error f
  | none => .ok (m.reply p)

end ModelRule

/-! ## The world -/

structure Outside (σ : Type) where
  rules : List NetworkRule
  model : ModelRule
  time : Float := 1000
  requests : List Json := []
  calls : List Json := []
  lines : List String := []
  /-- the events that went out, as they stand on the wire -/
  events : List String := []
  buffer : σ

namespace Outside

variable {σ : Type}

/-- the world of a script -/
def ofJson (v : Json) (buffer : σ) : Outside σ where
  rules := (((v.field? "http").bind (·.items?)).getD []).map NetworkRule.ofJson
  model := ModelRule.ofJson ((v.field? "model").getD .null)
  buffer := buffer

/-- a request in a report -/
def requestJson (u : Url) : Json :=
  .obj [("url", .str u.withoutQuery.text),
    ("params", .arr (u.params.map fun p => .arr [.str p.1, .str p.2]))]

def imageJson (p : Provider) (a : Attachment) : Json :=
  .obj ((match p with
      | .gemini => []
      | .anthropic => [("type", .str "image"), ("source_type", .str "base64")]) ++
    [("mime", .str a.mediaType), ("data", .obj [("$b64", .str (Base64.text a.bytes))])])

/-- a call of a model in a report -/
def callJson (r : Chat.Request) : Json :=
  let prompt : Json := .obj [("prompt_chars", .int r.prompt.length)]
  .obj ([("provider", .str r.provider.label), ("api_key", .str r.key), ("model", .str r.model),
      ("contents", .arr ((r.image.map (imageJson r.provider)).toList ++ [prompt]))] ++
    match r.provider with
    | .gemini => [("temperature", .real Chat.temperature)]
    | .anthropic => [("max_tokens", .int Chat.maxTokens), ("roles", .arr [.str "user"])])

def send (w : Outside σ) (r : Web.Request) : Except Fault Web.Response × Outside σ :=
  let w := { w with requests := w.requests ++ [requestJson r.url] }
  match NetworkRule.choose r.url w.rules with
  | (some rule, rules) => (rule.outcome, { w with rules, time := w.time + rule.delay })
  | (none, _) => (.ok { status := 599 }, w)

def consult (w : Outside σ) (r : Chat.Request) : Except Fault Chat.Reply × Outside σ :=
  (w.model.outcome r.provider,
    { w with calls := w.calls ++ [callJson r], time := w.time + w.model.delay })

/-- how the world answers, given what loading a snippet does to the buffer -/
def answer (load : String → σ → Except Fault Unit × σ) : Plan.World (@Query.Answer Float) (Outside σ)
  | .send r, w => w.send r
  | .consult r, w => w.consult r
  | .clock, w => (w.time, w)
  | .note line, w => ((), { w with lines := w.lines ++ Text.lineTexts (line.text Decimal.onePlace) })
  | .publish e, w => ((), { w with events := w.events ++ [e.text .real] })
  | .load code, w =>
    let (result, buffer) := load code w.buffer
    (result, { w with buffer })

/-- an errand in a world without a buffer -/
def runBare {α : Type} (e : Errand Float α) (w : Outside Unit) : α × Outside Unit :=
  e.run (answer fun _ s => (.ok (), s)) w

/-! ## Reports -/

def isScraping (line : String) : Bool := Text.begins "[scraper]".toList line.toList

/-- a line on pictures, which reports leave out -/
def isImaging (line : String) : Bool := Text.begins "[image]".toList line.toList

/-- the lines of the log: those on scraping in order of their characters, the others as they came -/
def logFields (w : Outside σ) : List (String × Json) :=
  let texts (xs : List String) : Json := .arr (xs.map .str)
  [("scraper_logs", texts ((w.lines.filter isScraping).mergeSort fun a b => decide (a ≤ b))),
    ("logs", texts (w.lines.filter fun line => !isScraping line && !isImaging line))]

/-- the requests in the order of their texts -/
def sortedRequests (w : Outside σ) : Json :=
  .arr (w.requests.mergeSort fun a b => decide (Json.spell a ≤ Json.spell b))

end Outside

end SnippetStudio.Rehearsal
