import Mathlib.Control.Monad.Basic
import SnippetStudio.Scrape.Options

/-!
# Switching options on and off

An option that is on or off is switched under either of its names (`find?_eq_some`).  What a switch does is
said by the values of the fields before and after (`Switched`); this decides the new options, since options are
told apart by the values of their fields (`ext_value`).

* `switched_set`, `Switched.unique`  what a switch does, and that nothing else does it;
* `toggle_eq_ok`, `toggle_eq_error`  when an option is switched, and when it is refused;
* `exclusive_ofJson`                 options that were filled in have one premium tier at most;
* `Switched.exclusive`               a switch keeps it so, and with it a run of them (`exclusive_attempts`);
* `tiers_exclusive`                  **no run of switches leads to both premium tiers**.
-/

namespace SnippetStudio.ScrapeOptions

variable {o o' o'' : ScrapeOptions} {f g : Field} {option : String} {on : Bool}

/-! ## the names of fields -/

namespace Field

/-- an option is named by the name of its field, or by the name outside -/
def Named (option : String) (f : Field) : Prop := f.name = option ∨ f.outsideName = option

/-- the premium tier that a premium tier excludes -/
def rival : Field → Option Field
  | premium => some ultraPremium
  | ultraPremium => some premium
  | _ => none

theorem mem_all (f : Field) : f ∈ all := by
  cases f <;> decide

theorem Named.unique (named : Named option f) (named' : Named option g) : f = g := by
  have apart : ∀ f ∈ all, ∀ g ∈ all, f.name = g.name ∨ f.name = g.outsideName ∨ f.outsideName = g.name ∨
      f.outsideName = g.outsideName → f = g := by decide
  apply apart f (mem_all f) g (mem_all g)
  rcases named with rfl | rfl <;> rcases named' with same | same <;> simp [same]

theorem find?_eq_some : find? option = some f ↔ Named option f := by
  have sound {g : Field} (found : find? option = some g) : Named option g := by
    rcases Option.or_eq_some_iff.mp found with name | ⟨-, outside⟩
    · have name_ := List.find?_some name
      exact .inl (beq_iff_eq.mp name_)
    · have name_ := List.find?_some outside
      exact .inr (beq_iff_eq.mp name_)
  refine ⟨sound, fun named => ?_⟩
  cases found : find? option with
  | some g => rw [(sound found).unique named]
  | none =>
    obtain ⟨noName, noOutside⟩ := Option.or_eq_none_iff.mp found
    rcases named with name | outside
    · exact absurd (beq_iff_eq.mpr name) (List.find?_eq_none.mp noName f (mem_all f))
    · exact absurd (beq_iff_eq.mpr outside) (List.find?_eq_none.mp noOutside f (mem_all f))

theorem find?_eq_none : find? option = none ↔ ∀ f, ¬Named option f := by
  simp only [Option.eq_none_iff_forall_ne_some, ne_eq, find?_eq_some]

end Field

open SnippetStudio.ScrapeOptions.Field (Named find?_eq_some find?_eq_none)

/-! ## the values of fields -/

/-- what a field holds -/
def value (o : ScrapeOptions) : Field → Json
  | .url => .str o.url
  | .screenshot => .bool o.screenshot
  | .renderJs => .bool o.renderJs
  | .premium => .bool o.premium
  | .ultraPremium => .bool o.ultraPremium
  | .device => .str o.device.label
  | .autoScroll => .bool o.autoScroll
  | .country => (o.country.map Json.Tree.str).getD .null
  | .waitFor => (o.waitFor.map Json.Tree.int).getD .null

theorem label_inj {d d' : Device} (same : d.label = d'.label) : d = d' := by
  cases d <;> cases d' <;> first | rfl | exact absurd same (by decide)

theorem ext_value (same : ∀ f, o.value f = o'.value f) : o = o' := by
  obtain ⟨url, screenshot, renderJs, premium, ultraPremium, device, autoScroll, country, waitFor⟩ := o
  obtain ⟨url', screenshot', renderJs', premium', ultraPremium', device', autoScroll', country', waitFor'⟩ := o'
  have country_ : country = country' := by
    have held := same .country
    cases country <;> cases country' <;> cases held <;> rfl
  have waitFor_ : waitFor = waitFor' := by
    have held := same .waitFor
    cases waitFor <;> cases waitFor' <;> cases held <;> rfl
  rw [mk.injEq]
  exact ⟨Json.Tree.str.inj (same .url), Json.Tree.bool.inj (same .screenshot), Json.Tree.bool.inj (same .renderJs),
    Json.Tree.bool.inj (same .premium), Json.Tree.bool.inj (same .ultraPremium),
    label_inj (Json.Tree.str.inj (same .device)), Json.Tree.bool.inj (same .autoScroll), country_, waitFor_⟩

/-- a field that is on or off -/
def Field.IsSwitch (f : Field) : Prop := ∀ o : ScrapeOptions, ∃ on, o.value f = .bool on

theorem isToggle_iff : f.isToggle = true ↔ f.IsSwitch := by
  constructor
  · intro toggle o
    cases f <;> first | exact ⟨_, rfl⟩ | cases toggle
  · intro switch
    obtain ⟨on, held⟩ := switch { url := "" }
    cases f <;> first | rfl | cases held

/-! ## what a switch does -/

/-- A field has been switched: it holds what was asked for, a premium tier that was switched on has switched
off the other one, and no other field has changed. -/
structure Switched (f : Field) (on : Bool) (o o' : ScrapeOptions) : Prop where
  set : o'.value f = .bool on
  cleared : on = true → ∀ g ∈ f.rival, o'.value g = .bool false
  kept : ∀ g, g ≠ f → (on = true → g ∉ f.rival) → o'.value g = o.value g

theorem switched_set (switch : f.IsSwitch) : Switched f on o (o.set on f) where
  set := by
    have toggle := isToggle_iff.mpr switch
    cases f <;> first | rfl | cases toggle
  cleared := by
    rintro rfl g rival
    cases f <;> cases rival <;> exact congrArg Json.Tree.bool (Bool.and_false _)
  kept := by
    intro g other free
    have rival_kept (tier : Bool) (off : on = false) : Json.Tree.bool (ρ := Float) (tier && !on) = .bool tier := by
      rw [off, Bool.not_false, Bool.and_true]
    cases f with
    | premium =>
      cases g with
      | premium => exact absurd rfl other
      | ultraPremium => exact rival_kept _ (Bool.eq_false_iff.mpr fun on_ => free on_ rfl)
      | _ => rfl
    | ultraPremium =>
      cases g with
      | ultraPremium => exact absurd rfl other
      | premium => exact rival_kept _ (Bool.eq_false_iff.mpr fun on_ => free on_ rfl)
      | _ => rfl
    | _ => cases g <;> first | rfl | exact absurd rfl other

theorem Switched.unique (switched : Switched f on o o') (switched' : Switched f on o o'') : o' = o'' := by
  refine ext_value fun g => ?_
  by_cases self : g = f
  · rw [self, switched.set, switched'.set]
  · by_cases cleared : on = true ∧ g ∈ f.rival
    · rw [switched.cleared cleared.1 g cleared.2, switched'.cleared cleared.1 g cleared.2]
    · have other : on = true → g ∉ f.rival := fun on_ mem => cleared ⟨on_, mem⟩
      rw [switched.kept g self other, switched'.kept g self other]

theorem toggle_of_named (named : Named option f) : o.toggle option on =
    if f.isToggle then .ok (o.set on f) else .error (.value (option ++ " is not a toggle")) := by
  rw [toggle, find?_eq_some.mpr named]

theorem toggle_of_unknown (unknown : ∀ f, ¬Named option f) :
    o.toggle option on = .error (.value ("Unknown scrape option: " ++ option)) := by
  rw [toggle, find?_eq_none.mpr unknown]

theorem toggle_eq_ok : o.toggle option on = .ok o' ↔ ∃ f, Named option f ∧ f.IsSwitch ∧ Switched f on o o' := by
  constructor
  · intro done
    by_cases known : ∃ f, Named option f
    · obtain ⟨f, named⟩ := known
      rw [toggle_of_named named] at done
      split at done
      · next toggle =>
        have switch := isToggle_iff.mp toggle
        exact ⟨f, named, switch, Except.ok.inj done ▸ switched_set switch⟩
      · cases done
    · rw [toggle_of_unknown (not_exists.mp known)] at done
      cases done
  · rintro ⟨f, named, switch, switched⟩
    rw [toggle_of_named named, if_pos (isToggle_iff.mpr switch), (switched_set switch).unique switched]

/-- no field has the name, or it is a field that is not on or off -/
def Refused (option : String) (e : Fault) : Prop :=
  (∀ f, ¬Named option f) ∧ e = .value ("Unknown scrape option: " ++ option) ∨
    (∃ f, Named option f ∧ ¬f.IsSwitch) ∧ e = .value (option ++ " is not a toggle")

theorem toggle_eq_error {e : Fault} : o.toggle option on = .error e ↔ Refused option e := by
  constructor
  · intro refused
    by_cases known : ∃ f, Named option f
    · obtain ⟨f, named⟩ := known
      rw [toggle_of_named named] at refused
      split at refused
      · cases refused
      · next other =>
        have other_ : ¬f.IsSwitch := fun switch => other (isToggle_iff.mpr switch)
        exact .inr ⟨⟨f, named, other_⟩, (Except.error.inj refused).symm⟩
    · rw [toggle_of_unknown (not_exists.mp known)] at refused
      exact .inl ⟨not_exists.mp known, (Except.error.inj refused).symm⟩
  · rintro (⟨unknown, rfl⟩ | ⟨⟨f, named, other⟩, rfl⟩)
    · exact toggle_of_unknown unknown
    · rw [toggle_of_named named, if_neg fun toggle => other (isToggle_iff.mp toggle)]

/-! ## runs of switches -/

/-- one premium tier at most -/
def Exclusive (o : ScrapeOptions) : Prop := ¬(o.premium = true ∧ o.ultraPremium = true)

/-- the options after an attempt to switch one of them; they stay where it is refused -/
def attempt (o : ScrapeOptions) (asked : String × Bool) : ScrapeOptions :=
  (o.toggle asked.1 asked.2).toOption.getD o

def attempts (o : ScrapeOptions) (asked : List (String × Bool)) : ScrapeOptions := asked.foldl attempt o

theorem exclusive_ofJson {json : Json} (given : ofJson json = .ok o) : o.Exclusive := by
  rintro ⟨premium, ultraPremium⟩
  unfold ofJson at given
  split at given
  · unfold fill at given
    split at given
    · split at given
      · cases given
      · next tiers =>
        obtain rfl := Except.ok.inj given
        rw [premium, ultraPremium] at tiers
        exact tiers rfl
    · cases given
  · cases given

theorem Switched.exclusive (switched : Switched f on o o') (before : o.Exclusive) : o'.Exclusive := by
  rintro ⟨premium, ultraPremium⟩
  have premium_ : o'.value .premium = .bool true := congrArg Json.Tree.bool premium
  have ultraPremium_ : o'.value .ultraPremium = .bool true := congrArg Json.Tree.bool ultraPremium
  cases f with
  | premium =>
    have on_ : on = true := Json.Tree.bool.inj (switched.set.symm.trans premium_)
    have off := switched.cleared on_ .ultraPremium rfl
    rw [ultraPremium_] at off
    cases off
  | ultraPremium =>
    have on_ : on = true := Json.Tree.bool.inj (switched.set.symm.trans ultraPremium_)
    have off := switched.cleared on_ .premium rfl
    rw [premium_] at off
    cases off
  | _ =>
    refine before ⟨?_, ?_⟩
    · exact Json.Tree.bool.inj ((switched.kept .premium nofun nofun).symm.trans premium_)
    · exact Json.Tree.bool.inj ((switched.kept .ultraPremium nofun nofun).symm.trans ultraPremium_)

theorem exclusive_attempt (before : o.Exclusive) (asked : String × Bool) : (o.attempt asked).Exclusive := by
  unfold attempt
  cases done : o.toggle asked.1 asked.2 with
  | error e => exact before
  | ok o' =>
    obtain ⟨f, -, -, switched⟩ := toggle_eq_ok.mp done
    exact switched.exclusive before

theorem exclusive_attempts (before : o.Exclusive) (asked : List (String × Bool)) : (o.attempts asked).Exclusive := by
  induction asked generalizing o with
  | nil => exact before
  | cons first asked ih => exact ih (exclusive_attempt before first)

/-- the parameters of a request tell the premium tiers -/
theorem tiers_params {ps : List (String × String)} (h : o.params = .ok ps) :
    ("premium" ∈ ps.map (·.1) ↔ o.premium = true) ∧ ("ultra_premium" ∈ ps.map (·.1) ↔ o.ultraPremium = true) := by
  have only {p : Prop} [Decidable p] {key : String} {entry : String × String} :
      key ∈ (if p then [entry] else []).map (·.1) ↔ p ∧ key = entry.1 := by
    split <;> simp [*]
  have unless_ {p : Prop} [Decidable p] {key : String} {entry : String × String} :
      key ∈ (if p then [] else [entry]).map (·.1) ↔ ¬p ∧ key = entry.1 := by
    split <;> simp [*]
  obtain ⟨-, rfl⟩ := params_eq_ok_iff.mp h
  cases country : o.country <;> cases wait : o.waitFor.filter (· ≠ 0) <;>
    simp [switches, country, only, unless_, -List.mem_map]

/-- **No run of switches leads to both premium tiers.**  A switch that is made does what it says and nothing
else, under either name of a field; one that is refused changes nothing. -/
theorem tiers_exclusive :
    (∀ json o, ofJson json = .ok o → ∀ asked, (o.attempts asked).Exclusive ∧
      ∀ ps, (o.attempts asked).params = .ok ps →
        ¬("premium" ∈ ps.map (·.1) ∧ "ultra_premium" ∈ ps.map (·.1))) ∧
    (∀ o option on o', o.toggle option on = .ok o' ↔ ∃ f, Named option f ∧ f.IsSwitch ∧ Switched f on o o') ∧
    (∀ (o : ScrapeOptions) (f : Field) on, (o.toggle f.outsideName on).toOption = (o.toggle f.name on).toOption) ∧
    ∀ (o : ScrapeOptions) option on e, (o.toggle option on = .error e ↔ Refused option e) ∧
      (Refused option e → o.attempt (option, on) = o) := by
  refine ⟨?runs, fun o option on o' => toggle_eq_ok, ?names, ?refusals⟩
  case runs =>
    intro json o given asked
    have last : (o.attempts asked).Exclusive := exclusive_attempts (exclusive_ofJson given) asked
    refine ⟨last, fun ps sent => ?_⟩
    obtain ⟨premium, ultraPremium⟩ := tiers_params sent
    rwa [premium, ultraPremium]
  case names =>
    intro o f on
    have name : Named f.name f := .inl rfl
    have outside : Named f.outsideName f := .inr rfl
    rw [toggle_of_named name, toggle_of_named outside]
    split <;> rfl
  case refusals =>
    intro o option on e
    refine ⟨toggle_eq_error, fun refused => ?_⟩
    rw [attempt, toggle_eq_error.mpr refused]
    rfl

/-- the tiers in turn under both of their names, and two options that are refused -/
theorem tiers_exclusive_in_turn :
    let o : ScrapeOptions := { url := "https://example.com", premium := true }
    ofJson (.obj [("url", .str "https://example.com"), ("premium", .int 1)]) = .ok o ∧
      (o.attempts [("ultraPremium", true), ("turbo", true), ("wait_for", true), ("premium", true),
        ("ultra_premium", true), ("ultraPremium", false)]).Exclusive ∧
      Refused "wait_for" (.value "wait_for is not a toggle") ∧ o.attempt ("wait_for", true) = o := by
  intro o
  have given : ofJson (.obj [("url", .str "https://example.com"), ("premium", .int 1)]) = .ok o := by
    decide +kernel
  have runs := tiers_exclusive.1 _ o given
  have refusals := tiers_exclusive.2.2.2 o "wait_for" true (.value "wait_for is not a toggle")
  have refused : Refused "wait_for" (.value "wait_for is not a toggle") := refusals.1.mp rfl
  exact ⟨given, (runs _).1, refused, refusals.2 refused⟩

end SnippetStudio.ScrapeOptions
