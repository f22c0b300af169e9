import SnippetStudio.Proofs.Errand.Trace
import SnippetStudio.Scrape.Basic

/-!
# Files of answers

What an errand takes from the network stands in its trace (`received`).  Fetching gives an answer that came in
(`yields_fetch`), and a screenshot is the file of such an answer.

* `Shot`           the files that count as screenshots;
* `sources_part`   **a screenshot that is scraped is one of them**.
-/

namespace SnippetStudio

variable {τ : Type}

/-- an answer that came in -/
def Exchange.file? : Exchange τ → Option Web.Response
  | ⟨.send _, .ok r⟩ => some r
  | _ => none

/-- what came in from the network -/
def received (t : List (Exchange τ)) : List Web.Response := t.filterMap Exchange.file?

theorem received_append (t t' : List (Exchange τ)) :
    received (t ++ t') = received t ++ received t' := List.filterMap_append

theorem received_subset {t t' : List (Exchange τ)} (h : t ⊆ t') : received t ⊆ received t' := by
  intro file mem
  obtain ⟨x, hx, came⟩ := List.mem_filterMap.mp mem
  exact List.mem_filterMap.mpr ⟨x, h hx, came⟩

variable {may : (q : Query τ) → q.Answer → Prop}

open Attempt (yields_bind yields_after yields_guard yields_pure yields_throw)

namespace Fetch

theorem yields_follow (n : Nat) (r : Web.Request) :
    (follow n r : Attempt τ Web.Response).Yields may fun t file => file ∈ received t := by
  induction n generalizing r with
  | zero => exact yields_throw _
  | succ n ih =>
    refine yields_bind fun x _ file came => yields_guard (yields_throw _) fun _ => ?_
    have mem : file ∈ received [(⟨.send r, x⟩ : Exchange τ)] := by
      rw [came]
      exact List.mem_singleton_self file
    split
    · refine yields_pure ?_
      rwa [List.append_nil]
    · refine yields_after fun t url => (ih _).imp fun t' file' h => ?_
      rw [received_append, received_append]
      exact List.mem_append_right _ (List.mem_append_right _ h)

end Fetch

theorem yields_fetch (address : String) (params : Option (List (String × String))) :
    (fetch address params : Attempt τ Web.Response).Yields may fun t file => file ∈ received t := by
  refine yields_after fun t request => (Fetch.yields_follow _ _).imp fun t' file h => ?_
  rw [received_append]
  exact List.mem_append_right _ h

/-! ## Screenshots are files of answers -/

namespace Scrape

/-- a file that counts as a screenshot: an answer that is a picture, or one that was fetched from where another
answer tells -/
structure Shot (files : List Web.Response) (file : Web.Response) : Prop where
  came : file ∈ files
  success : file.isSuccess = true
  picture : Text.contains "image".toList (file.contentType?.getD "").toList = true ∨
    ∃ page ∈ files, (page.header? screenshotHeader).getD "" ≠ ""

variable {codec : Codec} {machine : Machine} {files files' : List Web.Response} {x : ScrapeResult}

theorem Shot.mono {file : Web.Response} (h : Shot files file) (sub : files ⊆ files') :
    Shot files' file where
  came := sub h.came
  success := h.success
  picture := h.picture.imp id fun ⟨page, mem, tells⟩ => ⟨page, sub mem, tells⟩

/-- if there is a screenshot in a result, it is one of these files -/
def Sourced (codec : Codec) (files : List Web.Response) (x : ScrapeResult) : Prop :=
  ∀ url, x.screenshot? = some url → ∃ file, Shot files file ∧ x = shot codec file

theorem Sourced.mono (h : Sourced codec files x) (sub : files ⊆ files') : Sourced codec files' x := by
  intro url some
  obtain ⟨file, came, same⟩ := h url some
  exact ⟨file, came.mono sub, same⟩

theorem yields_screenshot (s : Settings) {r : Web.Response} (success : r.isSuccess = true) :
    (screenshot s machine r : Attempt τ ScrapeResult).Yields may fun t x =>
      Sourced machine.toCodec (r :: received t) x := by
  unfold screenshot
  extract_lets address
  split
  · next tells =>
    refine yields_after fun t _ => yields_bind ?_
    refine (yields_fetch address none).imp fun t' file came => yields_guard (yields_throw _) fun ok => ?_
    refine yields_pure fun url _ => ⟨file, ⟨?_, by simpa using ok, .inr ⟨r, ?_, ?_⟩⟩, rfl⟩
    · rw [received_append, List.append_nil]
      exact List.mem_cons_of_mem _ (List.mem_append_right _ came)
    · exact List.mem_cons_self
    · simpa using tells
  · split
    · next picture =>
      refine yields_after fun t _ => yields_pure fun url _ => ?_
      exact ⟨r, ⟨List.mem_cons_self, success, .inl picture⟩, rfl⟩
    · refine yields_after fun t _ => yields_after fun t' text => yields_after fun t'' body => ?_
      exact yields_pure nofun

theorem yields_attempt (s : Settings) (o : ScrapeOptions) :
    (attempt s machine o : Attempt τ ScrapeResult).Yields may fun t x => Sourced machine.toCodec (received t) x := by
  have refused (what : String) (r : Web.Response) :
      (refuse what r : Attempt τ Unit).Yields may fun _ _ => False :=
    yields_after fun _ _ => yields_throw _
  refine yields_guard (yields_throw _) fun _ => yields_after fun _ _ => yields_after fun t _ => yields_bind ?_
  refine (yields_fetch _ _).imp fun t' r came => yields_guard (refused _ r) fun ok => ?_
  split
  · refine (yields_screenshot s (by simpa using ok)).imp fun t'' x sourced => sourced.mono ?_
    have parts (t₀ : List (Exchange τ)) : received (t₀ ++ (t ++ (t' ++ t''))) =
        received t₀ ++ (received t ++ (received t' ++ received t'')) := by simp only [received_append]
    rw [parts]
    refine List.cons_subset.mpr ⟨?_, ?_⟩
    · exact List.mem_append_right _ (List.mem_append_right _ (List.mem_append_left _ came))
    · exact fun file mem => List.mem_append_right _ (List.mem_append_right _ (List.mem_append_right _ mem))
  · refine yields_after fun _ text => yields_after fun _ body => yields_after fun _ _ => ?_
    exact yields_pure nofun

/-- whatever the answers are, a screenshot in the result is the file of one of them -/
structure Sources (codec : Codec) (e : Errand τ ScrapeResult) : Prop where
  gives : ∀ may, e.Gives may fun t x => Sourced codec (received t) x

theorem sources_page (s : Settings) (o : ScrapeOptions) :
    Sources machine.toCodec (page s machine o : Errand τ ScrapeResult) := by
  refine ⟨fun may => Errand.gives_bind.mpr (Errand.Gives.imp (yields_attempt s o) fun t r h => ?_)⟩
  cases r with
  | ok x =>
    show Sourced machine.toCodec (received (t ++ [])) x
    rw [List.append_nil]
    exact h x rfl
  | error f => exact fun _ _ => nofun

theorem sources_pageOf (s : Settings) (options : Json) :
    Sources machine.toCodec (pageOf s machine options : Errand τ ScrapeResult) := by
  unfold pageOf
  split
  · exact sources_page s _
  · exact ⟨fun _ _ _ => nofun⟩

theorem sources_part (s : Settings) (screenshot : Bool) (fields : List (String × Json)) (url : String) :
    Sources machine.toCodec (part s machine screenshot fields url : Errand τ ScrapeResult) :=
  sources_pageOf s _

end Scrape

end SnippetStudio
