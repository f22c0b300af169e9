import SnippetStudio.Pipeline.Run
import SnippetStudio.Proofs.Errand.Trace
import SnippetStudio.Proofs.Scrape.Filled
import SnippetStudio.Proofs.Snippet.Fence

/-!
# What the services answer

A scrape and a generation can go wrong in many places, but each ends with a record of one of two shapes: it
tells of a success and of no error, or of a failure with its reason and of nothing that was brought (`Succeeds`,
`Fails`).

* `Scrape.gives_page`          what a scrape brings;
* `Generation.gives_generate`  what a generation brings;
* `services_consistent`        **the records of the two services**.
-/

namespace SnippetStudio

variable {τ σ : Type} {may : (q : Query τ) → q.Answer → Prop}

/-- a record that tells of a success -/
structure Succeeds (record : List (String × Json)) : Prop where
  success : record.lookup "success" = some (.bool true)
  error : record.lookup "error" = some .null

/-- a record that tells of a failure and its reason, and of nothing under these names -/
structure Fails (record : List (String × Json)) (names : List String) : Prop where
  success : record.lookup "success" = some (.bool false)
  error : ∃ reason, record.lookup "error" = some (.str reason) ∧ reason ≠ ""
  without : ∀ name ∈ names, record.lookup name = some .null

/-! ## Scraping -/

namespace Scrape

/-- the record of a scrape that brings a screenshot only if one was asked for, and then nothing else -/
def Consistent (asked : Prop) (record : List (String × Json)) : Prop :=
  (Succeeds record ∧ (record.lookup "screenshot_url" = some .null ∨
    asked ∧ (∃ url, record.lookup "screenshot_url" = some (.str url)) ∧
      record.lookup "data" = some .null)) ∨
  Fails record ["data", "screenshot_url"]

/-- a result with a screenshot only if one was asked for, and with a reason if there is nothing else -/
def Kept (asked : Prop) : ScrapeResult → Prop
  | .body _ => True
  | .screenshot _ => asked
  | .failed reason => reason ≠ ""

theorem Kept.consistent {asked : Prop} {x : ScrapeResult} (h : Kept asked x) : Consistent asked x.toFields := by
  cases x with
  | body data => exact .inl ⟨⟨rfl, rfl⟩, .inl rfl⟩
  | screenshot url => exact .inl ⟨⟨rfl, rfl⟩, .inr ⟨h, ⟨url, rfl⟩, rfl⟩⟩
  | failed reason =>
    have neither : ∀ name ∈ ["data", "screenshot_url"],
        (ScrapeResult.failed reason).toFields.lookup name = some .null :=
      List.forall_mem_cons.mpr ⟨rfl, List.forall_mem_singleton.mpr rfl⟩
    exact .inr ⟨rfl, ⟨reason, rfl, h⟩, neither⟩

section

open Attempt

variable (s : Settings) (machine : Machine)

theorem yields_screenshot_kept {asked : Prop} (h : asked) (r : Web.Response) :
    (screenshot s machine r : Attempt τ ScrapeResult).Yields may fun _ x => Kept asked x := by
  unfold screenshot
  extract_lets address
  split
  · refine yields_after fun _ _ => yields_after fun _ file => ?_
    exact yields_guard (yields_throw _) fun _ => yields_pure h
  · split
    · exact yields_after fun _ _ => yields_pure h
    · exact yields_after fun _ _ => yields_after fun _ text => yields_after fun _ body => yields_pure trivial

theorem yields_attempt_kept (o : ScrapeOptions) :
    (attempt s machine o : Attempt τ ScrapeResult).Yields may fun _ x => Kept (o.screenshot = true) x := by
  refine yields_guard (yields_throw _) fun _ => yields_after fun _ _ => yields_after fun _ _ =>
    yields_after fun _ r => ?_
  refine yields_guard (yields_after fun _ _ => yields_throw _) fun _ => ?_
  split
  · -- whatever is looked for here was asked for
    next asked => exact yields_screenshot_kept s machine asked r
  · exact yields_after fun _ text => yields_after fun _ body => yields_after fun _ _ => yields_pure trivial

theorem gives_page (o : ScrapeOptions) : (page s machine o : Errand τ ScrapeResult).Gives may fun _ x =>
    Kept (o.screenshot = true) x := by
  refine Errand.gives_bind.mpr (Errand.Gives.imp (yields_attempt_kept s machine o) fun t r h => ?_)
  cases r with
  | ok x => exact h x rfl
  | error f => exact fun _ _ => f.report_ne_empty

/-- options that ask for a screenshot -/
def AsksForShot (options : Json) : Prop := ∃ o, ScrapeOptions.ofJson options = .ok o ∧ o.screenshot = true

theorem gives_pageOf (options : Json) : (pageOf s machine options : Errand τ ScrapeResult).Gives may fun _ x =>
    Kept (AsksForShot options) x := by
  unfold pageOf
  split
  · next o read =>
    refine (gives_page s machine o).imp fun t x kept => ?_
    cases x with
    | screenshot url => exact ⟨o, read, kept⟩
    | _ => exact kept
  · next issues refused => exact fun _ _ => ScrapeOptions.reason_of_ofJson refused

end

end Scrape

/-! ## Generating -/

namespace Generation

/-- the record of a generation, with code that has no blanks around it if there is any -/
def Consistent (record : List (String × Json)) : Prop :=
  (Succeeds record ∧
    ∃ code, record.lookup "code" = some (.str code) ∧ code ≠ "" ∧ trimmed code = code) ∨
  Fails record ["code"]

/-- code without blanks around it, or a reason -/
def Kept : Except String Pipeline.Made → Prop
  | .ok made => made.code ≠ "" ∧ trimmed made.code = made.code
  | .error reason => reason ≠ ""

theorem Kept.consistent {g : Generated τ} (h : Kept g.outcome) (time : τ → Json) :
    Consistent (g.toFields time) := by
  obtain ⟨outcome, elapsed⟩ := g
  cases outcome with
  | ok made => exact .inl ⟨⟨rfl, rfl⟩, made.code, rfl, h⟩
  | error reason => exact .inr ⟨rfl, ⟨reason, rfl, h⟩, List.forall_mem_singleton.mpr rfl⟩

section

open Attempt

variable (s : Settings) (caps : Capabilities) (url html : String) (screenshot : Option String)

theorem yields_make : (make s caps url html screenshot : Attempt τ Pipeline.Made).Yields may fun _ made =>
    Kept (.ok made) := by
  refine yields_after fun _ prompt => yields_after fun _ image => ?_
  split
  · exact yields_throw _
  · refine yields_after fun _ text => yields_guard (yields_throw _) fun some => yields_pure ⟨?_, ?_⟩
    · simpa using some
    · exact trimmed_unfenced text

theorem timeoutMessage_ne_empty : timeoutMessage s ≠ "" := by
  have words : "Generation timed out after " ≠ "" := by decide
  intro empty
  have front := (String.append_eq_empty_iff.mp empty).1
  exact words (String.append_eq_empty_iff.mp front).1

theorem gives_since {α : Type} {start : Option τ} {f : τ → Errand τ α} {P : α → Prop}
    (h : ∀ begun, (f begun).Gives may fun _ a => P a) : Errand.Gives may (match start with
      | some t => pure t >>= f
      | none => Errand.clock >>= f) fun _ a => P a := by
  cases start with
  | some t => exact h t
  | none => exact fun now _ => h now

theorem gives_generate [Sub τ] (start : Option τ) :
    (generate s caps url html screenshot start).Gives may fun _ g => Kept g.outcome := by
  refine gives_since fun begun => Errand.gives_bind.mpr ?_
  refine Errand.Gives.imp (yields_make s caps url html screenshot) fun t r h => ?_
  cases r with
  | ok made => exact fun now _ _ _ => h made rfl
  | error f =>
    dsimp only
    split
    · exact fun _ _ now _ => timeoutMessage_ne_empty s
    · exact fun _ _ now _ => f.report_ne_empty

end

end Generation

/-- **The records of the two services.**  Whatever the network, the codec, the model and the clock do, and
whatever is asked for: a scrape ends with a record that is consistent, for options that are typed or given by
a value, and so does a generation.  None of them breaks off. -/
theorem services_consistent [Sub τ] (s : Settings) (machine : Machine) (caps : Capabilities)
    (w : Plan.World (@Query.Answer τ) σ) (world : σ) (time : τ → Json) :
    (∀ o : ScrapeOptions, Scrape.Consistent (o.screenshot = true)
      ((Scrape.page s machine o).run w world).1.toFields) ∧
    (∀ options : Json, Scrape.Consistent (Scrape.AsksForShot options)
      ((Scrape.pageOf s machine options).run w world).1.toFields) ∧
    ∀ (url html : String) (screenshot : Option String) (start : Option τ), Generation.Consistent
      (((generate s caps url html screenshot start).run w world).1.toFields time) := by
  refine ⟨fun o => ?_, fun options => ?_, fun url html screenshot start => ?_⟩
  · have kept := (Scrape.gives_page s machine o).run (w := w) world
    exact kept.consistent
  · have kept := (Scrape.gives_pageOf s machine options).run (w := w) world
    exact kept.consistent
  · have kept := (Generation.gives_generate s caps url html screenshot start).run (w := w) world
    exact Generation.Kept.consistent kept time

end SnippetStudio
