import SnippetStudio.Pipeline.Stream

/-!
# Events of a run

A run from an address to a snippet tells of its steps by events, of which the last one carries its
result.  Times are of a type `τ`, so that durations may be doubles or exact numbers.
-/

namespace SnippetStudio.Pipeline

/-- a snippet with what the linter has to say on it -/
structure Made where
  code : String
  warnings : List String
deriving Repr, DecidableEq

structure Result (τ : Type) where
  /-- the snippet, or why there is none -/
  outcome : Except String Made
  scrapeDuration : τ
  generationDuration : τ
  totalDuration : τ
  screenshotUsed : Bool

inductive Event (τ : Type) where
  | scraping (url : String)
  | scraped (chars : Nat) (screenshot : Bool) (duration : τ)
  | generating
  | generated (made : Made) (duration : τ)
  | rendering
  | error (message : String)
  | done (result : Result τ)
  /-- the end of a run that broke off -/
  | aborted (message : String)

variable {τ : Type}

def Result.isSuccess (r : Result τ) : Bool := r.outcome.toBool

private def texts (xs : List String) : Json := .arr (xs.map .str)

/-- the fields of a result, given how a duration is written -/
def Result.toFields (time : τ → Json) (r : Result τ) : List (String × Json) :=
  let (code, error, warnings) : Json × Json × List String := match r.outcome with
    | .ok m => (.str m.code, .null, m.warnings)
    | .error e => (.null, .str e, [])
  [("success", .bool r.isSuccess), ("code", code), ("error", error), ("warnings", texts warnings),
    ("scrape_duration", time r.scrapeDuration), ("ai_duration", time r.generationDuration),
    ("total_duration", time r.totalDuration), ("screenshot_used", .bool r.screenshotUsed)]

/-- how durations are written, and read back -/
structure Durations (τ : Type) where
  write : τ → Json
  read? : Json → Option τ
  read?_write : ∀ t, read? (write t) = some t

def Durations.doubles : Durations Float where
  write := .real
  read? | .real x => some x | _ => none
  read?_write _ := rfl

/-- the result that some fields tell, if they tell one -/
def Result.ofFields? (d : Durations τ) (fields : List (String × Json)) : Option (Result τ) := do
  let success ← (← Json.get? "success" fields).bool?
  let outcome ←
    if success then do
      let warnings ← (← (← Json.get? "warnings" fields).items?).mapM (·.str?)
      some (.ok ⟨← (← Json.get? "code" fields).str?, warnings⟩)
    else do some (.error (← (← Json.get? "error" fields).str?))
  some {
    outcome
    scrapeDuration := ← d.read? (← Json.get? "scrape_duration" fields)
    generationDuration := ← d.read? (← Json.get? "ai_duration" fields)
    totalDuration := ← d.read? (← Json.get? "total_duration" fields)
    screenshotUsed := ← (← Json.get? "screenshot_used" fields).bool? }

theorem mapM_str? (xs : List String) : (xs.map (Json.Tree.str : String → Json)).mapM (·.str?) = some xs := by
  induction xs with
  | nil => rfl
  | cons x xs ih =>
    rw [List.map_cons, List.mapM_cons, ih]
    rfl

theorem Result.ofFields?_toFields (d : Durations τ) (r : Result τ) :
    Result.ofFields? d (r.toFields d.write) = some r := by
  obtain ⟨outcome, scraped, generated, total, used⟩ := r
  have durations := d.read?_write
  have texts_ (xs : List String) : (texts xs).items? = some (xs.map .str) := rfl
  have text (x : String) : (Json.Tree.str x : Json).str? = some x := rfl
  have flag (b : Bool) : (Json.Tree.bool b : Json).bool? = some b := rfl
  cases outcome with
  | ok m =>
    simp [ofFields?, toFields, isSuccess, Except.toBool, Json.get?, flag, text, texts_, mapM_str?, durations,
      -List.mapM_map]
  | error e => simp [ofFields?, toFields, isSuccess, Except.toBool, Json.get?, flag, text, durations]

namespace Event

/-- the type under which an event goes out -/
def type : Event τ → String
  | scraping _ | generating | rendering => "status"
  | scraped .. => "scraped"
  | generated .. => "generated"
  | error _ => "error"
  | done _ | aborted _ => "done"

private def status (step message : String) : List (String × Json) :=
  [("step", .str step), ("message", .str message)]

def fields (time : τ → Json) : Event τ → List (String × Json)
  | scraping url => status "scraping" ("Scraping " ++ url ++ "...")
  | generating => status "generating" "Generating component..."
  | rendering => status "rendering" "Loading code into the preview..."
  | scraped chars screenshot duration =>
    [("chars", .int chars), ("screenshot", .bool screenshot), ("duration", time duration)]
  | generated m duration =>
    [("code", .str m.code), ("warnings", texts m.warnings), ("duration", time duration)]
  | error message => [("message", .str message)]
  | done r => r.toFields time
  | aborted message => [("success", .bool false), ("error", .str message)]

/-- an event on the wire: the characters of a page are not so many that their number could not be written -/
def text (time : τ → Json) (e : Event τ) : String := eventOf (Json.spell (.obj (eventFields e.type (e.fields time))))

end Event

end SnippetStudio.Pipeline
