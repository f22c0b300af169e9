import Mathlib
import SnippetStudio.Proofs.Errand.Buffered
import SnippetStudio.Proofs.Scrape.Key
import SnippetStudio.Proofs.Web.Query

/-!
# The request for a page

The options of a page go to the scraping service as parameters of the first request, and options at their
default are left out.  No two of the parameters have one name, and what is left out is told by its absence: so the
parameters tell what was asked for.

* `params_eq`             the parameters, with those that are left out;
* `lookup_params_inj`     what two lists of parameters tell;
* `first_page`            the first request;
* `params_tell_options`   **the first request tells the options**.
-/

namespace SnippetStudio

variable {τ σ σ' : Type}

/-- the request that a question sends -/
def Query.send? : Query τ → Option Web.Request
  | send r => some r
  | _ => none

/-- what is sent, in order -/
def sends (qs : List (Query τ)) : List Web.Request := qs.filterMap Query.send?

namespace Scrape

/-! ## Parameters -/

/-- the parameters of the request for a page, each with its value where there is one -/
def entries (key : String) (o : ScrapeOptions) : List (String × Option String) :=
  let on (b : Bool) : Option String := if b then some "true" else none
  [("api_key", some key), ("url", some o.url), ("render", if o.renderJs then none else some "false"),
    ("premium", on o.premium), ("ultra_premium", on o.ultraPremium),
    ("device", if o.device = .desktop then none else some o.device.label), ("autoScroll", on o.autoScroll),
    ("country_code", o.country.filter (· != "")), ("wait_for", (o.waitFor.filter (· != 0)).map toString),
    ("screenshot", on o.screenshot)]

/-- a name with its value, where there is one -/
def valued (e : String × Option String) : List (String × String) := (e.2.map (e.1, ·)).toList

theorem valued_if (name v : String) {c : Prop} [Decidable c] :
    valued (name, if c then some v else none) = if c then [(name, v)] else [] := by
  split <;> rfl

theorem valued_unless (name v : String) {c : Prop} [Decidable c] :
    valued (name, if c then none else some v) = if c then [] else [(name, v)] := by
  split <;> rfl

theorem valued_country (name c : String) :
    valued (name, (some c).filter (· != "")) = if c.isEmpty then [] else [(name, c)] := by
  by_cases empty : c = "" <;> simp [valued, empty]

theorem valued_waitFor (x : Option Int) :
    valued ("wait_for", (x.filter (· != 0)).map toString) =
      ((x.filter (· ≠ 0)).map fun n => ("wait_for", toString n)).toList := by
  have same : (fun n : Int => decide (n ≠ 0)) = (· != 0) := by
    funext n
    by_cases zero : n = 0 <;> simp [zero]
  rw [valued, Option.map_map, same]
  rfl

theorem params_eq {o : ScrapeOptions} {extra : List (String × String)} (options : o.params = .ok extra) (key : String) :
    params key o extra = (entries key o).flatMap valued := by
  obtain ⟨-, rfl⟩ := ScrapeOptions.params_eq_ok_iff.mp options
  rw [entries]
  simp only [List.flatMap_cons, List.flatMap_nil, valued_if, valued_unless, valued_waitFor]
  simp only [params, ScrapeOptions.switches, List.append_assoc, List.append_nil]
  cases o.country with
  | none => rfl
  | some c =>
    rw [valued_country]
    rfl

theorem map_valued_sublist (es : List (String × Option String)) :
    ((es.flatMap valued).map Prod.fst).Sublist (es.map Prod.fst) := by
  induction es with
  | nil => exact .slnil
  | cons e es ih =>
    obtain ⟨name, value⟩ := e
    cases value with
    | none => exact ih.cons name
    | some v => exact ih.cons_cons name

theorem lookup_of_not_mem {β : Type} {l : List (String × β)} {name : String} (no : name ∉ l.map Prod.fst) :
    l.lookup name = none := by
  refine List.lookup_eq_none_iff.mpr fun p mem => bne_iff_ne.mpr ?_
  rintro rfl
  exact no (List.mem_map_of_mem mem)

theorem lookup_valued {es : List (String × Option String)} (h : (es.map Prod.fst).Nodup) (name : String) :
    (es.flatMap valued).lookup name = (es.lookup name).join := by
  induction es with
  | nil => rfl
  | cons e es ih =>
    obtain ⟨n, value⟩ := e
    obtain ⟨new, rest⟩ := List.nodup_cons.mp h
    by_cases same : name = n
    · subst same
      rw [List.lookup_cons_self]
      cases value with
      | some v => exact List.lookup_cons_self
      | none =>
        exact lookup_of_not_mem fun again => new ((map_valued_sublist es).subset again)
    · have other : (name == n) = false := beq_false_of_ne same
      rw [List.lookup_cons, other]
      cases value with
      | none => exact ih rest
      | some v =>
        show ((n, v) :: es.flatMap valued).lookup name = (es.lookup name).join
        rw [List.lookup_cons, other]
        exact ih rest

theorem eq_of_lookup {es es' : List (String × Option String)} (names : es.map Prod.fst = es'.map Prod.fst)
    (h : (es.map Prod.fst).Nodup) (same : ∀ name, (es.lookup name).join = (es'.lookup name).join) : es = es' := by
  induction es generalizing es' with
  | nil => exact (List.map_eq_nil_iff.mp names.symm).symm
  | cons e es ih =>
    obtain ⟨n, v⟩ := e
    obtain _ | ⟨⟨n', v'⟩, es'⟩ := es'
    · cases names
    obtain ⟨rfl, others⟩ := List.cons.inj names
    obtain ⟨new, rest⟩ := List.nodup_cons.mp h
    have first : v = v' := by simpa [List.lookup_cons_self] using same n
    rw [first, ih others rest fun name => ?_]
    by_cases again : name = n
    · subst again
      rw [lookup_of_not_mem new, lookup_of_not_mem (others ▸ new)]
    · have other : (name == n) = false := beq_false_of_ne again
      simpa [List.lookup_cons, other] using same name

/-! ## Options that ask for the same -/

/-- the same options, but that no country is as good as an empty one, and no time to wait as none at all -/
structure SameRequest (o o' : ScrapeOptions) : Prop where
  url : o.url = o'.url
  screenshot : o.screenshot = o'.screenshot
  renderJs : o.renderJs = o'.renderJs
  premium : o.premium = o'.premium
  ultraPremium : o.ultraPremium = o'.ultraPremium
  device : o.device = o'.device
  autoScroll : o.autoScroll = o'.autoScroll
  country : o.country.getD "" = o'.country.getD ""
  waitFor : o.waitFor.getD 0 = o'.waitFor.getD 0

theorem filter_ne {α : Type} [DecidableEq α] (a : α) (x : Option α) :
    x.filter (· != a) = if x.getD a = a then none else some (x.getD a) := by
  cases x with
  | none => simp
  | some b => by_cases same : b = a <;> simp [same]

theorem filter_ne_inj {α : Type} [DecidableEq α] {a : α} {x y : Option α} :
    x.filter (· != a) = y.filter (· != a) ↔ x.getD a = y.getD a := by
  have back (x : Option α) : (x.filter (· != a)).getD a = x.getD a := by
    rw [filter_ne]
    split
    · next none => exact none.symm
    · rfl
  refine ⟨fun same => ?_, fun same => ?_⟩
  · rw [← back x, same, back y]
  · rw [filter_ne, filter_ne, same]

theorem if_inj {v : String} {b b' : Bool} :
    (if b then some v else none) = (if b' then some v else none) ↔ b = b' := by
  cases b <;> cases b' <;> simp

theorem unless_inj {v : String} {b b' : Bool} :
    (if b then none else some v) = (if b' then none else some v) ↔ b = b' := by
  cases b <;> cases b' <;> simp

theorem device_inj {d d' : Device} : (if d = .desktop then none else some d.label) =
    (if d' = .desktop then none else some d'.label) ↔ d = d' := by
  cases d <;> cases d' <;> decide

theorem waitFor_inj {x y : Option Int} : (x.filter (· != 0)).map toString = (y.filter (· != 0)).map toString ↔
    x.getD 0 = y.getD 0 := by
  have injective : Function.Injective (toString : Int → String) := fun _ _ => Int.repr_injective
  rw [(Option.map_injective injective).eq_iff, filter_ne_inj]

theorem entries_inj {key key' : String} {o o' : ScrapeOptions} :
    entries key o = entries key' o' ↔ key = key' ∧ SameRequest o o' := by
  constructor
  · intro same
    simp only [entries, List.cons.injEq, Prod.mk.injEq, Option.some.injEq, true_and, and_true] at same
    obtain ⟨rfl, url, render, premium, ultraPremium, device, autoScroll, country, waitFor, screenshot⟩ := same
    exact ⟨rfl, url, if_inj.mp screenshot, unless_inj.mp render, if_inj.mp premium, if_inj.mp ultraPremium,
      device_inj.mp device, if_inj.mp autoScroll, filter_ne_inj.mp country, waitFor_inj.mp waitFor⟩
  · rintro ⟨rfl, same⟩
    simp only [entries, same.url, same.screenshot, same.renderJs, same.premium, same.ultraPremium, same.device,
      same.autoScroll, filter_ne_inj.mpr same.country, waitFor_inj.mpr same.waitFor]

theorem nodup_entries (key : String) (o : ScrapeOptions) : ((entries key o).map Prod.fst).Nodup := by
  show ["api_key", "url", "render", "premium", "ultra_premium", "device", "autoScroll", "country_code", "wait_for",
    "screenshot"].Nodup
  decide

/-- the parameters tell the same exactly for the same key and options that ask for the same -/
theorem lookup_params_inj {key key' : String} {o o' : ScrapeOptions} {extra extra' : List (String × String)}
    (options : o.params = .ok extra) (options' : o'.params = .ok extra') :
    (∀ name, (params key o extra).lookup name = (params key' o' extra').lookup name) ↔
      key = key' ∧ SameRequest o o' := by
  have nodup := nodup_entries key o
  have names : (entries key o).map Prod.fst = (entries key' o').map Prod.fst := rfl
  rw [← entries_inj, params_eq options, params_eq options']
  refine ⟨fun same => eq_of_lookup names nodup fun name => ?_, fun same name => same ▸ rfl⟩
  rw [← lookup_valued nodup, ← lookup_valued (names ▸ nodup), same]

theorem nodup_params {o : ScrapeOptions} {extra : List (String × String)} (options : o.params = .ok extra)
    (key : String) : ((params key o extra).map Prod.fst).Nodup := by
  rw [params_eq options]
  exact (map_valued_sublist _).nodup (nodup_entries key o)

/-! ## The first request -/

theorem params_of_request {address : String} {ps : Option (List (String × String))} {r : Web.Request}
    (h : Fetch.request address ps = .ok r) : r.params = ps := by
  have ending (u : Url) (h : (do
      let request : Web.Request := { target := u, params := ps }
      if ps.isSome then discard request.url.fit
      return request : Except Url.Flaw Web.Request) = .ok r) : r.params = ps := by
    simp only [bind, Except.bind] at h
    split at h
    · split at h
      · cases h
      · cases h
        rfl
    · cases h
      rfl
  unfold Fetch.request at h
  simp only [bind, Except.bind] at h
  split at h
  · cases h
  · next url parsed =>
    split at h
    · exact ending url h
    · split at h
      · cases h
      · next target rooted => exact ending target h

/-- what is sent first for a page, if anything is -/
theorem first_page (s : Settings) (machine : Machine) (o : ScrapeOptions)
    (w : Plan.World (@Query.Answer τ) σ) (world : σ) :
    (sends ((page s machine o).asked w world)).head? =
      if s.scraperApiKey = "" then none
      else o.params.toOption.bind fun extra =>
        (Fetch.request s.scraperApiUrl (some (params s.scraperApiKey o extra))).toOption := by
  by_cases given : s.scraperApiKey = ""
  · rw [if_pos given]
    have missing : (attempt s machine o : Attempt τ ScrapeResult).run = .done (.error missingKey) := by
      unfold attempt
      rw [if_pos (by simpa using given)]
      rfl
    rw [page, missing]
    rfl
  · rw [if_neg given, page]
    cases options : o.params with
    | error f =>
      have sent := @attempt_withKey τ _ given s machine o
      change attempt s machine o = _ at sent
      rw [sent, options]
      rfl
    | ok extra =>
      have sent := @attempt_withParams τ _ given s machine _ _ options
      change attempt s machine o = _ at sent
      show _ = (Fetch.request s.scraperApiUrl (some (params s.scraperApiKey o extra))).toOption
      rw [sent, fetch]
      cases Fetch.request s.scraperApiUrl (some (params s.scraperApiKey o extra)) with
      | error flaw => rfl
      | ok r => rfl

/-- what the other side reads in the URL of the first request for a page -/
theorem params_first {s : Settings} {machine : Machine} {o : ScrapeOptions} {w : Plan.World (@Query.Answer τ) σ}
    {world : σ} {r : Web.Request} (sent : (sends ((page s machine o).asked w world)).head? = some r) :
    ∃ extra, o.params = .ok extra ∧ r.params = some (params s.scraperApiKey o extra) ∧
      r.url.params = params s.scraperApiKey o extra := by
  rw [first_page] at sent
  split at sent
  · cases sent
  · cases options : o.params with
    | error f =>
      rw [options] at sent
      cases sent
    | ok extra =>
      rw [options] at sent
      cases made : Fetch.request s.scraperApiUrl (some (params s.scraperApiKey o extra)) with
      | error flaw => simp [made, Except.toOption] at sent
      | ok r' =>
        obtain rfl : r' = r := by simpa [made, Except.toOption] using sent
        have given := params_of_request made
        have url : r'.url = r'.target.withParams (params s.scraperApiKey o extra) := by
          rw [Web.Request.url, given]
        exact ⟨extra, rfl, given, url ▸ Url.params_withParams _ (nodup_params options _)⟩

/-- **The request for a page tells its options.**  Whatever the network answers, and whatever else is set: the
parameters of the first request, as they are read from its URL, have names of their own; the key and the address
stand among them as they are; and the parameters for two pages tell the same exactly if the keys are the same
and the options ask for the same. -/
theorem params_tell_options (s s' : Settings) (machine machine' : Machine) (o o' : ScrapeOptions)
    (w : Plan.World (@Query.Answer τ) σ) (w' : Plan.World (@Query.Answer τ) σ') (world : σ) (world' : σ')
    {r r' : Web.Request} (sent : (sends ((page s machine o).asked w world)).head? = some r)
    (sent' : (sends ((page s' machine' o').asked w' world')).head? = some r') :
    r.params = some r.url.params ∧ (r.url.params.map Prod.fst).Nodup ∧
      r.url.params.lookup "api_key" = some s.scraperApiKey ∧ r.url.params.lookup "url" = some o.url ∧
      ((∀ name, r.url.params.lookup name = r'.url.params.lookup name) ↔
        s.scraperApiKey = s'.scraperApiKey ∧ SameRequest o o') := by
  obtain ⟨extra, options, given, read⟩ := params_first sent
  obtain ⟨extra', options', -, read'⟩ := params_first sent'
  rw [read, read']
  exact ⟨given, nodup_params options _, rfl, rfl, lookup_params_inj options options'⟩

/-- the first request for a page there, with a key -/
def firstKeyed (o : ScrapeOptions) : Option Web.Request :=
  (sends ((page { scraperApiKey := "k" } (.blind 9) o).asked obliging ())).head?

/-- an empty country and no time to wait are left out; another device is not -/
theorem params_tell_options_left_out : ∃ r r' r'',
    firstKeyed { url := "https://example.com" } = some r ∧
    firstKeyed { url := "https://example.com", country := some "", waitFor := some 0 } = some r' ∧
    firstKeyed { url := "https://example.com", device := .mobile } = some r'' ∧
    (∀ name, r.url.params.lookup name = r'.url.params.lookup name) ∧
    ¬ ∀ name, r.url.params.lookup name = r''.url.params.lookup name := by
  obtain ⟨r, sent⟩ : ∃ r, firstKeyed { url := "https://example.com" } = some r :=
    Option.isSome_iff_exists.mp (by decide +kernel)
  obtain ⟨r', sent'⟩ : ∃ r,
      firstKeyed { url := "https://example.com", country := some "", waitFor := some 0 } = some r :=
    Option.isSome_iff_exists.mp (by decide +kernel)
  obtain ⟨r'', sent''⟩ : ∃ r, firstKeyed { url := "https://example.com", device := .mobile } = some r :=
    Option.isSome_iff_exists.mp (by decide +kernel)
  refine ⟨r, r', r'', sent, sent', sent'', ?_, fun same => ?_⟩
  · obtain ⟨-, -, -, -, told⟩ := params_tell_options _ _ _ _ _ _ obliging obliging () () sent sent'
    exact told.mpr ⟨rfl, rfl, rfl, rfl, rfl, rfl, rfl, rfl, rfl, rfl⟩
  · obtain ⟨-, -, -, -, told⟩ := params_tell_options _ _ _ _ _ _ obliging obliging () () sent sent''
    exact absurd (told.mp same).2.device (by decide)

end Scrape

end SnippetStudio
