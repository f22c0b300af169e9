import SnippetStudio.Form.Coerce
import SnippetStudio.Web.Address

/-!
# Options of a scrape

What a page is fetched with (`ScrapeOptions`): its address, and how the scraping service is to load
it.  Options are filled in from JSON, where a field may stand under its name or under its outside name
(`Field.outsideName`), which wins.  The two premium tiers exclude one another; `toggle` clears the
one when it sets the other.
-/

namespace SnippetStudio

inductive Device where
  | desktop
  | mobile
  | tablet
deriving Repr, DecidableEq

def Device.label : Device → String
  | desktop => "desktop"
  | mobile => "mobile"
  | tablet => "tablet"

def Device.all : List Device := [desktop, mobile, tablet]

structure ScrapeOptions where
  url : String
  screenshot : Bool := false
  renderJs : Bool := true
  premium : Bool := false
  ultraPremium : Bool := false
  device : Device := .desktop
  autoScroll : Bool := false
  country : Option String := none
  /-- milliseconds -/
  waitFor : Option Int := none
deriving Repr, DecidableEq

namespace ScrapeOptions

inductive Field where
  | url
  | screenshot
  | renderJs
  | premium
  | ultraPremium
  | device
  | autoScroll
  | country
  | waitFor
deriving Repr, DecidableEq

namespace Field

def all : List Field :=
  [url, screenshot, renderJs, premium, ultraPremium, device, autoScroll, country, waitFor]

def name : Field → String
  | url => "url"
  | screenshot => "screenshot"
  | renderJs => "render_js"
  | premium => "premium"
  | ultraPremium => "ultra_premium"
  | device => "device"
  | autoScroll => "auto_scroll"
  | country => "country"
  | waitFor => "wait_for"

/-- the name under which a field stands outside -/
def outsideName : Field → String
  | renderJs => "renderJs"
  | ultraPremium => "ultraPremium"
  | autoScroll => "autoScroll"
  | waitFor => "waitFor"
  | f => f.name

/-- the field of a name or of an outside name -/
def find? (option : String) : Option Field :=
  (all.find? fun f => f.name == option).or (all.find? fun f => f.outsideName == option)

/-- the field is on or off -/
def isToggle : Field → Bool
  | screenshot | renderJs | premium | ultraPremium | autoScroll => true
  | _ => false

end Field

open Form (Cause Issue)

def readDevice (v : Json) : Except Cause Device :=
  match v with
  | .str s =>
    match Device.all.find? fun d => d.label == s with
    | some d => .ok d
    | none => .error (.notChoice (Device.all.map (·.label)))
  | _ => .error (.notChoice (Device.all.map (·.label)))

def readUrl (v : Json) : Except Cause String := do
  match Address.check (← Form.text v) with
  | .ok url => .ok url
  | .error r => .error (.refused r.message)

/-- a field's value taken into the options -/
def take (o : ScrapeOptions) (v : Json) : Field → Except Cause ScrapeOptions
  | .url => do return { o with url := ← readUrl v }
  | .screenshot => do return { o with screenshot := ← Form.boolean v }
  | .renderJs => do return { o with renderJs := ← Form.boolean v }
  | .premium => do return { o with premium := ← Form.boolean v }
  | .ultraPremium => do return { o with ultraPremium := ← Form.boolean v }
  | .device => do return { o with device := ← readDevice v }
  | .autoScroll => do return { o with autoScroll := ← Form.boolean v }
  | .country => do return { o with country := ← Form.optional Form.text v }
  | .waitFor => do return { o with waitFor := ← Form.optional Form.integer v }

/-- one field filled in: the options and the issues so far -/
def fillField (fields : List (String × Json)) (acc : ScrapeOptions × List Issue) (f : Field) :
    ScrapeOptions × List Issue :=
  match (Json.get? f.outsideName fields).or (Json.get? f.name fields) with
  | none => if f = .url then (acc.1, acc.2 ++ [⟨[f.outsideName], .missing⟩]) else acc
  | some v =>
    match take acc.1 v f with
    | .ok o => (o, acc.2)
    | .error c => (acc.1, acc.2 ++ [⟨[f.outsideName], c⟩])

/-- the options for given fields, or what is wrong with them -/
def fill (fields : List (String × Json)) : Except (List Issue) ScrapeOptions :=
  match Field.all.foldl (fillField fields) ({ url := "" }, []) with
  | (o, []) =>
    if o.premium && o.ultraPremium then
      .error [⟨[], .refused "premium and ultra_premium cannot both be enabled"⟩]
    else .ok o
  | (_, issues) => .error issues

/-- the options for a value, which must be a record -/
def ofJson : Json → Except (List Issue) ScrapeOptions
  | .obj fields => fill fields
  | _ => .error [⟨[], .notForm "ScrapeOptions"⟩]

/-- one on-or-off field set, the other premium tier cleared -/
def set (o : ScrapeOptions) (value : Bool) : Field → ScrapeOptions
  | .screenshot => { o with screenshot := value }
  | .renderJs => { o with renderJs := value }
  | .premium => { o with premium := value, ultraPremium := o.ultraPremium && !value }
  | .ultraPremium => { o with ultraPremium := value, premium := o.premium && !value }
  | .autoScroll => { o with autoScroll := value }
  | _ => o

def toggle (o : ScrapeOptions) (option : String) (value : Bool) : Except Fault ScrapeOptions :=
  match Field.find? option with
  | none => .error (.value ("Unknown scrape option: " ++ option))
  | some f =>
    if f.isToggle then .ok (o.set value f) else .error (.value (option ++ " is not a toggle"))

/-- the parameters of a request that are not at their default, but for the time to wait -/
def switches (o : ScrapeOptions) : List (String × String) :=
  (if o.renderJs then [] else [("render", "false")]) ++
    (if o.premium then [("premium", "true")] else []) ++
    (if o.ultraPremium then [("ultra_premium", "true")] else []) ++
    (if o.device = .desktop then [] else [("device", o.device.label)]) ++
    (if o.autoScroll then [("autoScroll", "true")] else []) ++
    (match o.country with
      | some c => if c.isEmpty then [] else [("country_code", c)]
      | none => [])

/-- the parameters of a request that are not at their default -/
def params (o : ScrapeOptions) : Except Fault (List (String × String)) :=
  match o.waitFor.filter (· ≠ 0) with
  | some n => return o.switches ++ [("wait_for", ← written n)]
  | none => return o.switches

theorem params_eq_ok_iff {o : ScrapeOptions} {ps : List (String × String)} :
    o.params = .ok ps ↔ (o.waitFor.filter (· ≠ 0)).all Text.isShort = true ∧
      ps = o.switches ++ ((o.waitFor.filter (· ≠ 0)).map fun n => ("wait_for", toString n)).toList := by
  rw [params]
  cases o.waitFor.filter (· ≠ 0) with
  | none => simp [pure, Except.pure, eq_comm]
  | some n =>
    rw [Option.all_some, Option.map_some, Option.toList_some]
    dsimp only
    constructor
    · intro h
      cases shown : written n with
      | error e =>
        rw [shown] at h
        cases h
      | ok t =>
        rw [shown] at h
        obtain ⟨short, rfl⟩ := written_eq_ok_iff.mp shown
        exact ⟨short, (Except.ok.inj h).symm⟩
    · rintro ⟨short, rfl⟩
      rw [written_eq_ok_iff.mpr ⟨short, rfl⟩]
      rfl

def toJson (o : ScrapeOptions) : Json :=
  .obj [("url", .str o.url), ("screenshot", .bool o.screenshot), ("render_js", .bool o.renderJs),
    ("premium", .bool o.premium), ("ultra_premium", .bool o.ultraPremium),
    ("device", .str o.device.label), ("auto_scroll", .bool o.autoScroll),
    ("country", (o.country.map Json.Tree.str).getD .null),
    ("wait_for", (o.waitFor.map Json.Tree.int).getD .null)]

end ScrapeOptions

end SnippetStudio
