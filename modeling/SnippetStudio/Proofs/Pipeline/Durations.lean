import Mathlib.Algebra.Order.Group.Unbundled.Basic
import Mathlib.Algebra.Order.Ring.Rat
import SnippetStudio.Proofs.Pipeline.Loading

/-!
# Durations of a run

A run reads the clock when it begins and when it ends, and before and after each of its two parts.  As long as the
clock does not go back, the parts do not overlap, whatever happens in between: so none of the durations
is negative, and those of the parts are together no longer than the whole.

* `Errand.Since`          what holds of an errand from a reading of the clock on;
* `Errand.Since.run`      a clock that does not go back in a run;
* `since_acquire`         the fetching lies between two readings;
* `durations_add_up`      **the durations of a run**.
-/

namespace SnippetStudio

variable {τ α β σ : Type}

/-! ## Readings of the clock -/

/-- the last reading of the clock once a question has been answered -/
def Query.reading (now : τ) : (q : Query τ) → q.Answer → τ
  | clock, later => later
  | _, _ => now

/-- the reading of the clock in an exchange -/
def Exchange.reading? : Exchange τ → Option τ
  | ⟨.clock, now⟩ => some now
  | _ => none

/-- all readings of the clock, in order -/
def readings (t : List (Exchange τ)) : List τ := t.filterMap Exchange.reading?

section

variable [Preorder τ] {now : τ}

/-- a clock that goes on from a reading does so with every exchange -/
theorem pairwise_readings_cons {x : Exchange τ} {t : List (Exchange τ)}
    (steady : (now :: readings (x :: t)).Pairwise (· ≤ ·)) :
    now ≤ x.1.reading now x.2 ∧ (x.1.reading now x.2 :: readings t).Pairwise (· ≤ ·) := by
  obtain ⟨q, answer⟩ := x
  cases q with
  | clock =>
    obtain ⟨first, rest⟩ := List.pairwise_cons.mp steady
    exact ⟨first _ List.mem_cons_self, rest⟩
  | _ => exact ⟨le_refl now, steady⟩

namespace Errand

/-- whatever the answers are, when the clock has shown `now` and does not go back: its last reading and the
result are as said -/
def Since (now : τ) : Errand τ α → (τ → α → Prop) → Prop
  | .done a, P => P now a
  | .ask q next, P => ∀ x, now ≤ q.reading now x → Since (q.reading now x) (next x) P

variable {p : Errand τ α} {f : α → Errand τ β} {P : τ → α → Prop}

theorem since_bind {P : τ → β → Prop} : (p >>= f).Since now P ↔
    p.Since now fun later a => (f a).Since later P := by
  induction p generalizing now with
  | done a => rfl
  | ask q next ih => exact forall_congr' fun x => imp_congr_right fun _ => ih x

theorem since_of_le (h : ∀ later a, now ≤ later → P later a) : p.Since now P := by
  induction p generalizing now with
  | done a => exact h now a (le_refl now)
  | ask q next ih => exact fun x step => ih x fun later a le => h later a (step.trans le)

theorem Since.imp {P' : τ → α → Prop} (hp : p.Since now P) (h : ∀ later a, P later a → P' later a) :
    p.Since now P' := by
  induction p generalizing now with
  | done a => exact h now a hp
  | ask q next ih => exact fun x step => ih x (hp x step)

theorem Since.ends (h : p.Since now P) (w : Plan.World (@Query.Answer τ) σ) (s : σ)
    (steady : (now :: readings (p.trace w s)).Pairwise (· ≤ ·)) : ∃ last, P last (p.run w s).1 := by
  induction p generalizing now s with
  | done a => exact ⟨now, h⟩
  | ask q next ih =>
    obtain ⟨step, rest⟩ := pairwise_readings_cons steady
    exact ih _ (h _ step) _ rest

/-- what holds from every reading on, holds of a run in which the clock does not go back -/
theorem Since.run [Inhabited τ] (h : ∀ now, p.Since now P) (w : Plan.World (@Query.Answer τ) σ) (s : σ)
    (steady : (readings (p.trace w s)).Pairwise (· ≤ ·)) : ∃ last, P last (p.run w s).1 := by
  cases shown : readings (p.trace w s) with
  | nil =>
    refine (h default).ends w s ?_
    rw [shown]
    exact List.pairwise_singleton _ _
  | cons first later =>
    refine (h first).ends w s ?_
    rw [shown] at steady ⊢
    refine List.pairwise_cons.mpr ⟨List.forall_mem_cons.mpr ⟨le_refl first, ?_⟩, steady⟩
    exact (List.pairwise_cons.mp steady).1

end Errand

end

namespace Pipeline

variable [AddCommGroup τ] [PartialOrder τ] {now : τ} {r : Result τ}

/-- the two parts of a run are not negative, and together no longer than the whole -/
structure Result.AddsUp (r : Result τ) : Prop where
  scrape : 0 ≤ r.scrapeDuration
  generation : 0 ≤ r.generationDuration
  total : r.scrapeDuration + r.generationDuration ≤ r.totalDuration

/-- the fetching of a page lies between two readings of the clock -/
def Acquired.Between (start later : τ) (page : Acquired τ) : Prop :=
  ∃ begun ended, start ≤ begun ∧ begun ≤ ended ∧ ended ≤ later ∧ page.duration = ended - begun

/-! ## From reading to reading -/

theorem since_settled (begun : τ) (content shot : Except Fault ScrapeResult) :
    (settled begun content shot).Since now fun later page =>
      ∃ ended, now ≤ ended ∧ ended ≤ later ∧ page.duration = ended - begun := by
  refine Errand.since_bind.mpr fun ended order => ?_
  dsimp only
  split
  · refine Errand.since_bind.mpr (Errand.since_of_le fun later _ le => ?_)
    exact ⟨ended, order, le, rfl⟩
  · exact ⟨ended, order, le_refl ended, rfl⟩

theorem since_acquire (turns : List Bool) (content shot : Errand τ (Except Fault ScrapeResult)) :
    (acquire turns content shot).Since now fun later page => page.Between now later := by
  rw [acquire_settled]
  refine Errand.since_bind.mpr fun begun began => Errand.since_bind.mpr ?_
  refine Errand.since_of_le fun fetched results order => ?_
  refine (since_settled begun results.1 results.2).imp fun later page h => ?_
  obtain ⟨ended, order', le, duration⟩ := h
  exact ⟨begun, ended, began, order.trans order', le, duration⟩

/-- from this reading of the clock on, a run ends with durations that add up, if it ends with a result -/
abbrev Timely (now : τ) (x : Attempt τ (Result τ)) : Prop :=
  x.run.Since now fun _ r => ∀ r', r = .ok r' → r'.AddsUp

theorem timely_ofErrand {e : Errand τ α} {f : α → Attempt τ (Result τ)}
    (he : e.Since now fun later a => Timely later (f a)) : Timely now (Attempt.ofErrand e >>= f) := by
  rw [Timely, Attempt.run_ofErrand_bind]
  exact Errand.since_bind.mpr he

theorem timely_after {x : Attempt τ α} {f : α → Attempt τ (Result τ)}
    (h : ∀ later a, now ≤ later → Timely later (f a)) : Timely now (x >>= f) := by
  refine Errand.since_bind.mpr (Errand.since_of_le fun later r le => ?_)
  cases r with
  | ok a => exact h later a le
  | error e => exact nofun

theorem timely_clock {f : τ → Attempt τ (Result τ)} (h : ∀ later, now ≤ later → Timely later (f later)) :
    Timely now (Attempt.ofErrand Errand.clock >>= f) :=
  timely_ofErrand fun later le => h later le

theorem timely_fail {message : String} (h : r.AddsUp) : Timely now (Attempt.ofErrand (fail r message)) := by
  rintro _ _ _ _ _ ⟨⟩
  exact h

theorem timely_end {line : LogLine τ} (h : r.AddsUp) : Timely now (do
    Attempt.note line
    Attempt.ofErrand (Errand.publish (.done r))
    return r) := by
  rintro _ _ _ _ _ ⟨⟩
  exact h

/-! ## The durations of a run -/

section

variable [IsOrderedAddMonoid τ] {page : Acquired τ} {start later : τ} {outcome : Except String Made}
  {used : Bool}

theorem Acquired.Between.duration_le (fetching : page.Between start later) (le : later ≤ now) :
    0 ≤ page.duration ∧ page.duration ≤ now - start := by
  obtain ⟨begun, ended, began, order, before, duration⟩ := fetching
  rw [duration]
  exact ⟨sub_nonneg.mpr order, sub_le_sub (before.trans le) began⟩

theorem addsUp_of_unscraped (fetching : page.Between start later) (le : later ≤ now) : Result.AddsUp
    { outcome, scrapeDuration := page.duration, generationDuration := 0, totalDuration := now - start
      screenshotUsed := used } := by
  obtain ⟨fetch, whole⟩ := fetching.duration_le le
  refine ⟨fetch, le_refl 0, ?_⟩
  show page.duration + 0 ≤ now - start
  rwa [add_zero]

theorem addsUp_of_scraped (fetching : page.Between start later) {asked made : τ} (after : later ≤ asked)
    (order : asked ≤ made) (le : made ≤ now) : Result.AddsUp
    { outcome, scrapeDuration := page.duration, generationDuration := made - asked
      totalDuration := now - start, screenshotUsed := used } := by
  obtain ⟨fetch, first⟩ := fetching.duration_le after
  refine ⟨fetch, sub_nonneg.mpr order, ?_⟩
  calc page.duration + (made - asked)
      ≤ (asked - start) + (now - asked) := add_le_add first (sub_le_sub_right le asked)
    _ = now - start := sub_add_sub_cancel' asked start now

theorem timely_run (k : Setup τ) (buffer : Bool) (url : String) (now : τ) : Timely now (run k buffer url) := by
  refine timely_clock fun start _ => timely_after fun told _ le => ?_
  refine timely_ofErrand ((since_acquire _ _ _).imp fun fetched page fetching => ?_)
  obtain ⟨begun, ended, began, order, before, duration⟩ := fetching
  have fetching : page.Between start fetched := ⟨begun, ended, le.trans began, order, before, duration⟩
  split
  · refine timely_clock fun now after => timely_fail ?_
    exact addsUp_of_unscraped fetching after
  refine timely_after fun t₁ _ le₁ => timely_after fun t₂ _ le₂ => ?_
  refine timely_clock fun asked le₃ => timely_after fun answered generated le₄ => ?_
  refine timely_clock fun made le₅ => ?_
  have after : fetched ≤ asked := (le₁.trans le₂).trans le₃
  split
  · refine timely_clock fun now le₆ => timely_fail ?_
    exact addsUp_of_scraped fetching after (le₄.trans le₅) le₆
  refine timely_after fun t₆ _ le₆ => timely_after fun t₇ _ le₇ => ?_
  refine timely_clock fun now le₈ => timely_end ?_
  exact addsUp_of_scraped fetching after (le₄.trans le₅) ((le₆.trans le₇).trans le₈)

/-- **The durations of a run.**  Whatever the network, the model and the buffer do, and however long they take:
if a run ends with a result, and the clock has not gone back in it, then neither part took less than no time,
and the parts together took no longer than the run.  No time goes to a model when the content of the page
could not be fetched. -/
theorem durations_add_up (k : Setup τ) (buffer : Bool) (url : String) (w : Plan.World (@Query.Answer τ) σ)
    (world : σ) (steady : (readings ((run k buffer url).run.trace w world)).Pairwise (· ≤ ·))
    (ended : ((run k buffer url).run.run w world).1 = .ok r) :
    0 ≤ r.scrapeDuration ∧ 0 ≤ r.generationDuration ∧
      r.scrapeDuration + r.generationDuration ≤ r.totalDuration ∧
      (failed ((fetched k (Address.complete url)).run w world).1.2.2.1 = true → r.generationDuration = 0) := by
  have : Inhabited τ := ⟨0⟩
  obtain ⟨last, addsUp⟩ := Errand.Since.run (timely_run k buffer url) w world steady
  obtain ⟨scrape, generation, total⟩ := addsUp r ended
  refine ⟨scrape, generation, total, fun fails => ?_⟩
  obtain ⟨rest, split, unasked⟩ := run_fetched k buffer url
  have unspent := ((unasked _ fails).2 (Query.answers w)).run ((fetched k (Address.complete url)).run w world).2
  obtain ⟨r', ended', none⟩ := unspent
  rw [split, Plan.run_bind] at ended
  obtain rfl : r' = r := Except.ok.inj (ended'.symm.trans ended)
  exact none

end

/-- a world in which every answer takes its time -/
def ticking : Plan.World (@Query.Answer ℚ) ℚ
  | .send _, t => (.ok ⟨200, [], []⟩, t + 1 / 2)
  | .consult _, t => (.ok [.text (some "function Preview() {}")], t + 3 / 2)
  | .clock, t => (t, t + 1 / 10)
  | .note _, t => ((), t)
  | .publish _, t => ((), t)
  | .load _, t => (.ok (), t + 1 / 3)

/-- a run there, with a buffer -/
def tickingRun : Errand ℚ (Except Fault (Result ℚ)) :=
  (run { Setup.ofSettings { scraperApiKey := "k", geminiApiKey := "g" } (.blind 9) with
    capabilities := .standard, turns := [] } true "a").run

/-- two fetches and the model's answer, with a little time for each look at the clock -/
theorem durations_add_up_ticking : ∃ r, (tickingRun.run ticking 0).1 = .ok r ∧
    r.scrapeDuration = 11 / 10 ∧ r.generationDuration = 17 / 10 ∧ r.totalDuration = 103 / 30 ∧
    r.scrapeDuration + r.generationDuration ≤ r.totalDuration := by
  have steady : (readings (tickingRun.trace ticking 0)).Pairwise (· ≤ ·) := by decide +kernel
  have told : (tickingRun.run ticking 0).1.toOption.map
      (fun r => (r.scrapeDuration, r.generationDuration, r.totalDuration)) =
        some (11 / 10, 17 / 10, 103 / 30) := by decide +kernel
  unfold tickingRun at steady told ⊢
  cases ended : ((run { Setup.ofSettings { scraperApiKey := "k", geminiApiKey := "g" } (.blind 9) with
      capabilities := .standard, turns := [] } true "a").run.run ticking 0).1 with
  | error e => simp [ended, Except.toOption] at told
  | ok r =>
    have sums := durations_add_up _ true "a" ticking 0 steady ended
    rw [ended] at told
    obtain ⟨scrape, rest⟩ := Prod.mk.inj (Option.some.inj told)
    obtain ⟨generation, total⟩ := Prod.mk.inj rest
    exact ⟨r, rfl, scrape, generation, total, sums.2.2.1⟩

end Pipeline

end SnippetStudio
