import SnippetStudio.Proofs.Pipeline.Screenshot

/-!
# The markup of a page

The content of a page and a screenshot of it are fetched at the same time, in any turns.  What the content
comes to depends on what it is answered itself (`contentShare`), and on nothing that the screenshot does: so the
markup is the same with any screenshot, or none.

* `lookup_toFields`        the fields that tell of the markup, or why there is none;
* `lookup_screenshot`      the field that tells of the screenshot;
* `markup_of_any_shot`     **the markup of a page, whatever becomes of its screenshot**.
-/

namespace SnippetStudio

variable {τ σ σ' : Type}

namespace Pipeline

/-! ## Fields of a page -/

namespace Acquired

theorem ofResults_map_html (content shot shot' : Except Fault ScrapeResult) :
    (ofResults content shot).map (·.html) = (ofResults content shot').map (·.html) := by
  unfold ofResults
  split <;> rfl

theorem toOption_screenshot {shot : Except Fault ScrapeResult} {u : String} :
    (@screenshot Unit shot).toOption = some u ↔ shot = .ok (.screenshot u) ∧ u ≠ "" := by
  cases shot with
  | error f => exact iff_of_false nofun nofun
  | ok r =>
    cases r with
    | screenshot url =>
      by_cases empty : url = ""
      · subst empty
        refine iff_of_false nofun ?_
        rintro ⟨⟨⟩, there⟩
        exact there rfl
      · have there : (some url).filter (!·.isEmpty) = some url :=
          Option.filter_some_pos (by simpa using empty)
        simp only [screenshot, ScrapeResult.screenshot?, there]
        refine ⟨?_, ?_⟩
        · rintro ⟨⟩
          exact ⟨rfl, empty⟩
        · rintro ⟨⟨⟩, -⟩
          rfl
    | _ => exact iff_of_false nofun nofun

/-- a page has the screenshot that the other fetch has brought, unless that is empty or there is no content -/
theorem ofResults_bind_screenshot (content shot : Except Fault ScrapeResult) (u : String) :
    (ofResults content shot).toOption.bind (·.screenshot) = some u ↔
      (∃ r, content = .ok r ∧ r.isSuccess = true) ∧ shot = .ok (.screenshot u) ∧ u ≠ "" := by
  cases content with
  | error f =>
    refine iff_of_false nofun ?_
    rintro ⟨⟨r, ⟨⟩, -⟩, -⟩
  | ok r =>
    cases r with
    | failed e =>
      refine iff_of_false nofun ?_
      rintro ⟨⟨r, ⟨⟩, ⟨⟩⟩, -⟩
    | _ => exact toOption_screenshot.trans (iff_and_self.mpr fun _ => ⟨_, rfl, rfl⟩)

theorem lookup_toFields {a a' : Acquired τ} (same : a.outcome.map (·.html) = a'.outcome.map (·.html))
    (time : τ → Json) : ∀ name ∈ ["success", "html", "error"],
      (a.toFields time).lookup name = (a'.toFields time).lookup name := by
  suffices fields : (a.toFields time).lookup "success" = (a'.toFields time).lookup "success" ∧
      (a.toFields time).lookup "html" = (a'.toFields time).lookup "html" ∧
      (a.toFields time).lookup "error" = (a'.toFields time).lookup "error" by
    simpa using fields
  obtain ⟨outcome, duration⟩ := a
  obtain ⟨outcome', duration'⟩ := a'
  cases outcome with
  | error e =>
    cases outcome' with
    | error e' =>
      obtain rfl : e = e' := Except.error.inj same
      exact ⟨rfl, rfl, rfl⟩
    | ok page' => cases same
  | ok page =>
    cases outcome' with
    | error e' => cases same
    | ok page' =>
      obtain ⟨html, shot⟩ := page
      obtain ⟨html', shot'⟩ := page'
      obtain rfl : html = html' := Except.ok.inj same
      exact ⟨rfl, rfl, rfl⟩

theorem lookup_screenshot (a : Acquired τ) (time : τ → Json) :
    (a.toFields time).lookup "screenshot_url" =
      some (((a.outcome.toOption.bind (·.screenshot)).map Json.Tree.str).getD .null) := by
  obtain ⟨outcome, duration⟩ := a
  cases outcome with
  | error e => rfl
  | ok page => rfl

end Acquired

/-! ## The two fetches -/

section

variable (turns : List Bool) (content shot : Errand τ (Except Fault ScrapeResult))
  (w : Plan.World (@Query.Answer τ) σ) (s : σ)

/-- what the content of a page asks while the page is acquired, with the answers that it gets -/
def contentShare : List (Exchange τ) := (Plan.shares w turns content shot (w .clock s).2).1

/-- what the content of a page and its screenshot come to, and the world when both are there -/
def bothFetched : (Except Fault ScrapeResult × Except Fault ScrapeResult) × σ :=
  (Plan.together turns content shot).run w (w .clock s).2

theorem follows_contentShare : content.Follows (contentShare turns content shot w s)
    (bothFetched turns content shot w s).1.1 :=
  Plan.follows_shares.1

variable [Sub τ]

theorem run_settled (begun : τ) (content shot : Except Fault ScrapeResult) :
    ((settled begun content shot).run w s).1 =
      ⟨Acquired.ofResults content shot, (w .clock s).1 - begun⟩ := by
  unfold settled
  rw [Plan.run_bind]
  cases Acquired.ofResults content shot with
  | error e => rfl
  | ok page =>
    dsimp only
    rw [Plan.run_bind]
    rfl

/-- the page is made of the two results, and its duration of two readings of the clock -/
theorem run_acquire : ((acquire turns content shot).run w s).1 =
    ⟨Acquired.ofResults (bothFetched turns content shot w s).1.1 (bothFetched turns content shot w s).1.2,
      (w .clock (bothFetched turns content shot w s).2).1 - (w .clock s).1⟩ := by
  rw [acquire_settled, Plan.run_bind, Plan.run_bind]
  exact run_settled w _ _ _ _

end

/-- **The markup of a page, whatever becomes of its screenshot.**  A page is acquired twice, in any turns and in
any two worlds, with any two fetches of its screenshot, which may bring one, fail or break off.  If the fetch of
the content gets the same answers, then the two pages tell the same of the markup, or of why there is none.
The screenshot of a page is the one that was fetched, if it is not empty and there is content; and its
duration is what the clock says. -/
theorem markup_of_any_shot [Sub τ] (content shot shot' : Errand τ (Except Fault ScrapeResult))
    (turns turns' : List Bool) (w : Plan.World (@Query.Answer τ) σ) (w' : Plan.World (@Query.Answer τ) σ')
    (s : σ) (s' : σ') (time : τ → Json)
    (same : contentShare turns content shot w s = contentShare turns' content shot' w' s') :
    let page := ((acquire turns content shot).run w s).1
    let page' := ((acquire turns' content shot').run w' s').1
    let both := bothFetched turns content shot w s
    (∀ name ∈ ["success", "html", "error"],
      (page.toFields time).lookup name = (page'.toFields time).lookup name) ∧
    (∃ url : Option String,
      (page.toFields time).lookup "screenshot_url" = some ((url.map Json.Tree.str).getD .null) ∧
      ∀ u, url = some u ↔
        (∃ r, both.1.1 = .ok r ∧ r.isSuccess = true) ∧ both.1.2 = .ok (.screenshot u) ∧ u ≠ "") ∧
    page.duration = (w .clock both.2).1 - (w .clock s).1 := by
  intro page page' both
  have made : page = ⟨Acquired.ofResults both.1.1 both.1.2, (w .clock both.2).1 - (w .clock s).1⟩ :=
    run_acquire turns content shot w s
  have made' : page'.outcome = Acquired.ofResults both.1.1 (bothFetched turns' content shot' w' s').1.2 := by
    have content_eq : both.1.1 = (bothFetched turns' content shot' w' s').1.1 :=
      (follows_contentShare turns content shot w s).unique
        (same ▸ follows_contentShare turns' content shot' w' s')
    rw [content_eq]
    exact congrArg (·.outcome) (run_acquire turns' content shot' w' s')
  refine ⟨Acquired.lookup_toFields ?_ time, ⟨_, Acquired.lookup_screenshot page time, fun u => ?_⟩, ?_⟩
  · rw [made, made']
    exact Acquired.ofResults_map_html ..
  · rw [made]
    exact Acquired.ofResults_bind_screenshot ..
  · rw [made]

/-- a world without a memory gives the content the same answers in any turns -/
theorem contentShare_of_subsingleton [Subsingleton σ] (turns : List Bool)
    (content shot : Errand τ (Except Fault ScrapeResult)) (w : Plan.World (@Query.Answer τ) σ) (s : σ) :
    contentShare turns content shot w s = content.trace w s := by
  rw [contentShare, Subsingleton.elim (w .clock s).2 s]
  fun_induction Plan.shares w turns content shot s with
  | case1 turns q next shot s ih => exact congrArg (_ :: ·) ih
  | case2 turns content q next s ih => exact ih.trans (congrArg (content.trace w) (Subsingleton.elim _ s))
  | case3 => rfl

/-- the fetch of a part of a page, with a key -/
def keyedPart (screenshot : Bool) : Errand Nat (Except Fault ScrapeResult) :=
  scraped { scraperApiKey := "k" } (.blind 9) screenshot "https://a"

/-- a fetch that breaks off at once -/
def brokenOff : Errand Nat (Except Fault ScrapeResult) := .done (.error .cancelled)

/-- a screenshot that comes after the content, and one that never comes -/
theorem markup_of_any_shot_broken :
    let page := ((acquire [true, true, true] (keyedPart false) (keyedPart true)).run oneName ()).1
    let page' := ((acquire [] (keyedPart false) brokenOff).run oneName ()).1
    page.outcome.toOption.map (·.screenshot.isSome) = some true ∧
      page'.outcome.toOption.map (·.screenshot.isSome) = some false ∧
      ∀ name ∈ ["success", "html", "error"],
        (page.toFields fun n : Nat => .int n).lookup name =
          (page'.toFields fun n : Nat => .int n).lookup name := by
  intro page page'
  refine ⟨by decide +kernel, by decide +kernel, ?_⟩
  refine (markup_of_any_shot (keyedPart false) (keyedPart true) brokenOff [true, true, true] [] oneName oneName
    () () (fun n : Nat => .int n) ?_).1
  rw [contentShare_of_subsingleton, contentShare_of_subsingleton]

end Pipeline

end SnippetStudio
