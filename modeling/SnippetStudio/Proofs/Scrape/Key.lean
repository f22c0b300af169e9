import SnippetStudio.Proofs.Errand.Alike
import SnippetStudio.Scrape.Basic

/-!
# The key of the scraping service

The key goes to the scraping service as a parameter of the request for a page, and nowhere else: for two keys,
and a network that does not look at the parameter, a page and a trial have the same results and the same
lines in the log, and ask for the same, but for the key in requests to the service.

* `likewise_locate`   where a client is sent on to from the service;
* `alike_fetch`       a request to the service, and those that follow from it;
* `key_hidden`        **two runs with different keys**;
* `page_of_long`      a key that is too long.

There are two limits to this (`key_told`): a key may be so long that the client refuses the URL, and then the run
ends there; and where the address of the service has no scheme, the client refuses the answer, and tells the
whole URL.
-/

namespace SnippetStudio

variable {τ α β σ : Type} {k k' : String} {e : Url}

/-- the settings with another key of the scraping service -/
def Settings.withKey (s : Settings) (k : String) : Settings := { s with scraperApiKey := k }

/-- the parameter that the key goes in -/
def Scrape.keyName : String := "api_key"

/-- two requests to an address that differ in the key alone -/
def Web.Request.Keyed (address k k' : String) (r r' : Web.Request) : Prop :=
  ∃ e, Url.parse address = .ok e ∧ Url.Keyed Scrape.keyName k k' e r.url r'.url

/-- the client refuses a URL with the first key that it takes with the other -/
def Fetch.Lost (address k k' : String) (f : Fault) : Prop :=
  ∃ e flaw, Url.parse address = .ok e ∧ Url.Outgrown Scrape.keyName k k' e flaw ∧ f = badUrl flaw

/-! ## The way of a request -/

namespace Fetch

theorem likewise_refused {address : String} (parsed : Url.parse address = .ok e) {R : α → β → Prop}
    {x : Except Url.Flaw α} {y : Except Url.Flaw β}
    (h : Likewise R (Url.Outgrown Scrape.keyName k k' e) (Url.Outgrown Scrape.keyName k' k e) x y) :
    Likewise R (Lost address k k') (Lost address k' k) (x.mapError badUrl) (y.mapError badUrl) :=
  h.mapError (fun flaw gone => ⟨e, flaw, parsed, gone, rfl⟩) fun flaw gone => ⟨e, flaw, parsed, gone, rfl⟩

theorem likewise_locate {address : String} (parsed : Url.parse address = .ok e) {asked asked' : Url}
    (h : Url.Keyed Scrape.keyName k k' e asked asked') (location : String) :
    Likewise (fun u u' => u = u' ∨ Url.Keyed Scrape.keyName k k' e u u') (Lost address k k') (Lost address k' k)
      (locate asked location) (locate asked' location) := by
  unfold locate
  cases (Url.parse location).mapError badLocation with
  | error f => exact .error f
  | ok link =>
    refine likewise_refused parsed ?_
    rw [Url.housed_congr h.host]
    cases asked'.housed link with
    | error flaw => exact .error flaw
    | ok link =>
      refine (Url.likewise_led h link).bind fun u u' related => ?_
      rw [Url.withFragmentOf_congr h.fragment]
      rcases related with rfl | keyed
      · exact .refl (fun _ => .inl rfl) _
      · exact (Url.likewise_withFragmentOf asked' keyed).imp fun _ _ => .inr

theorem alike_follow {address : String} (parsed : Url.parse address = .ok e)
    {R : Web.Request → Web.Request → Prop} (absolute : e.isAbsolute = true)
    (related : ∀ r r', Url.Keyed Scrape.keyName k k' e r.url r'.url → R r r') (n : Nat)
    {r r' : Web.Request} (h : Url.Keyed Scrape.keyName k k' e r.url r'.url) :
    (follow n r : Attempt τ Web.Response).Alike R (Lost address k k') (Lost address k' k) (follow n r') := by
  have named : e.scheme.isEmpty = false := by
    have both := absolute
    simp only [Url.isAbsolute, Bool.and_eq_true, Bool.not_eq_true'] at both
    exact both.1
  induction n generalizing r r' with
  | zero => exact .same _
  | succ n ih =>
    refine .sent (related r r' h) fun response => ?_
    rw [h.scheme.1, h.scheme.2, named]
    simp only [Bool.false_eq_true, if_false]
    cases response.location? with
    | none => exact .same _
    | some location =>
      refine .ofExcept (likewise_locate parsed h location) fun u u' moved => ?_
      rcases moved with rfl | keyed
      · exact .same _
      · exact ih keyed

theorem request_of_isAbsolute {address : String} (parsed : Url.parse address = .ok e)
    (absolute : e.isAbsolute = true) (ps : List (String × String)) :
    request address (some ps) = (e.withParams ps).fit.map fun _ => { target := e, params := some ps } := by
  unfold request
  rw [parsed]
  show (do
    let target ← if e.isAbsolute then pure e else e.rooted.fit
    let request : Web.Request := { target, params := some ps }
    if (some ps).isSome then discard request.url.fit
    return request : Except Url.Flaw Web.Request) = _
  rw [if_pos absolute]
  show (do
    discard (e.withParams ps).fit
    return { target := e, params := some ps } : Except Url.Flaw Web.Request) = _
  cases (e.withParams ps).fit <;> rfl

theorem likewise_request {address : String} (parsed : Url.parse address = .ok e)
    (absolute : e.isAbsolute = true) (ps : List (String × String)) :
    Likewise (fun r r' => Url.Keyed Scrape.keyName k k' e r.url r'.url) (Url.Outgrown Scrape.keyName k k' e)
      (Url.Outgrown Scrape.keyName k' k e) (request address (some ((Scrape.keyName, k) :: ps)))
      (request address (some ((Scrape.keyName, k') :: ps))) := by
  have keyed : Url.Keyed Scrape.keyName k k' e (e.withParams ((Scrape.keyName, k) :: ps))
      (e.withParams ((Scrape.keyName, k') :: ps)) := ⟨e, ps, rfl, rfl, rfl⟩
  rw [request_of_isAbsolute parsed absolute, request_of_isAbsolute parsed absolute]
  refine (Url.likewise_fit keyed).map fun _ _ _ => ?_
  exact keyed

/-- a request to the service, and those that follow from it -/
theorem alike_fetch {address : String} (absolute : ∀ e, Url.parse address = .ok e → e.isAbsolute = true)
    (ps : List (String × String)) :
    (fetch address (some ((Scrape.keyName, k) :: ps)) : Attempt τ Web.Response).Alike
      (Web.Request.Keyed address k k') (Lost address k k') (Lost address k' k)
      (fetch address (some ((Scrape.keyName, k') :: ps))) := by
  cases parsed : Url.parse address with
  | error flaw =>
    have refused (params : List (String × String)) : request address (some params) = .error flaw := by
      rw [request, parsed]
      rfl
    rw [fetch, fetch, refused, refused]
    exact .same _
  | ok e =>
    refine .ofExcept (likewise_refused parsed (likewise_request parsed (absolute e parsed) ps)) ?_
    intro r r' related
    exact alike_follow parsed (absolute e parsed) (fun r r' h => ⟨e, parsed, h⟩) _ related

end Fetch

/-! ## Pages and trials -/

namespace Scrape

/-- what is done with the answer of the service -/
def answered (s : Settings) (machine : Machine) (o : ScrapeOptions) (r : Web.Response) :
    Attempt τ ScrapeResult := do
  if !r.isSuccess then refuse "Scrape" r
  if o.screenshot then screenshot s machine r
  else
    let text ← textOf r
    let body ← readBody s machine text
    Attempt.note (.received text.length o.url)
    return .body body

/-- what is done with the answer to a trial -/
def tried (s : Settings) (machine : Machine) (r : Web.Response) : Attempt τ Body := do
  if !r.isSuccess then refuse "Test" r
  let text ← textOf r
  Attempt.note (.probeAnswered (firstChars 200 text))
  readBody s machine text

theorem attempt_withKey (given : k ≠ "") (s : Settings) (machine : Machine) (o : ScrapeOptions) :
    (attempt (s.withKey k) machine o : Attempt τ ScrapeResult) = (do
      let extra ← Attempt.ofExcept o.params
      Attempt.note (.requesting o.screenshot o.url extra)
      let r ← fetch s.scraperApiUrl (some (params k o extra))
      answered s machine o r) := by
  have there : ¬ (s.withKey k).scraperApiKey.isEmpty = true := by simpa [Settings.withKey] using given
  unfold attempt
  rw [if_neg there]
  rfl

theorem attempt_withParams (given : k ≠ "") (s : Settings) (machine : Machine) {o : ScrapeOptions}
    {extra : List (String × String)} (options : o.params = .ok extra) :
    (attempt (s.withKey k) machine o : Attempt τ ScrapeResult) = (do
      Attempt.note (.requesting o.screenshot o.url extra)
      let r ← fetch s.scraperApiUrl (some (params k o extra))
      answered s machine o r) := by
  rw [attempt_withKey given, options]
  rfl

theorem tryKey_withKey (given : k ≠ "") (s : Settings) (machine : Machine) :
    (tryKey (s.withKey k) machine : Attempt τ Body) = (do
      let r ← fetch s.scraperApiUrl (some [(keyName, k), ("url", trialUrl)])
      tried s machine r) := by
  have there : ¬ (s.withKey k).scraperApiKey.isEmpty = true := by simpa [Settings.withKey] using given
  unfold tryKey
  rw [if_neg there]
  rfl

/-- the client refuses a URL with the first key that it takes with the other: a line of the log tells so, nothing
is asked any more, and the run has failed -/
def Refused (address k k' : String) (line : Fault → LogLine τ) (failed : String → α) (qs : List (Query τ)) (x : α) :
    Prop :=
  ∃ e flaw, Url.parse address = .ok e ∧ Url.Outgrown keyName k k' e flaw ∧
    qs = [.note (line (Fetch.badUrl flaw))] ∧ x = failed flaw.message

theorem report_badUrl {flaw : Url.Flaw} (h : Url.Outgrown keyName k k' e flaw) :
    (Fetch.badUrl flaw).report = flaw.message := by
  obtain ⟨u, u', -, ⟨rfl, -⟩ | ⟨rfl, -⟩⟩ := h <;> decide

/-- a fault of a lost request becomes the reason in the result -/
theorem always_refused {address : String} (line : Fault → LogLine τ) (failed : String → β) {qs : List (Query τ)}
    {r : Except Fault α} (gone : Attempt.Ends (Fetch.Lost address k k') qs r) : ∃ f, r = .error f ∧
      (Errand.note (line f) >>= fun _ => Plan.done (failed f.report) : Errand τ β).Always fun qs' x =>
        Refused address k k' line failed (qs ++ qs') x := by
  obtain ⟨rfl, _, rfl, e, flaw, parsed, outgrown, rfl⟩ := gone
  exact ⟨_, rfl, fun _ _ => ⟨e, flaw, parsed, outgrown, rfl, congrArg failed (report_badUrl outgrown)⟩⟩

/-- two attempts whose faults become a line of the log, and the reason in the result -/
theorem alike_reported {address : String} {R : Web.Request → Web.Request → Prop} {p p' : Attempt τ α}
    {line : Fault → LogLine τ} {failed : String → β} {rest : Except Fault α → Errand τ β}
    (alike : p.Alike R (Fetch.Lost address k k') (Fetch.Lost address k' k) p')
    (reports : ∀ f, rest (.error f) = Errand.note (line f) >>= fun _ => Plan.done (failed f.report)) :
    (p.run >>= rest).Alike R (Refused address k k' line failed) (Refused address k' k line failed)
      (p'.run >>= rest) := by
  refine Errand.Alike.bind alike (fun qs r gone => ?_) fun qs r gone => ?_
  all_goals
    obtain ⟨f, rfl, always⟩ := always_refused line failed gone
    rw [reports]
    exact always

section

variable {s : Settings} (absolute : ∀ e, Url.parse s.scraperApiUrl = .ok e → e.isAbsolute = true)
  (given : k ≠ "") (given' : k' ≠ "")

include absolute given given'

theorem alike_page (machine : Machine) (o : ScrapeOptions) :
    (page (s.withKey k) machine o : Errand τ ScrapeResult).Alike (Web.Request.Keyed s.scraperApiUrl k k')
      (Refused s.scraperApiUrl k k' .scrapeFailed .failed) (Refused s.scraperApiUrl k' k .scrapeFailed .failed)
      (page (s.withKey k') machine o) := by
  have alike : (attempt (s.withKey k) machine o : Attempt τ ScrapeResult).Alike
      (Web.Request.Keyed s.scraperApiUrl k k') (Fetch.Lost s.scraperApiUrl k k') (Fetch.Lost s.scraperApiUrl k' k)
      (attempt (s.withKey k') machine o) := by
    rw [attempt_withKey given, attempt_withKey given']
    refine .ofExcept (.refl (R := Eq) (fun _ => rfl) o.params) fun extra _ same => ?_
    obtain rfl := same
    refine .note ?_ ((Fetch.alike_fetch absolute _).bind _)
    rintro address ⟨⟩
  exact alike_reported alike fun f => rfl

theorem alike_pageOf (machine : Machine) (options : Json) :
    (pageOf (s.withKey k) machine options : Errand τ ScrapeResult).Alike
      (Web.Request.Keyed s.scraperApiUrl k k') (Refused s.scraperApiUrl k k' .scrapeFailed .failed)
      (Refused s.scraperApiUrl k' k .scrapeFailed .failed) (pageOf (s.withKey k') machine options) := by
  unfold pageOf
  cases ScrapeOptions.ofJson options with
  | ok o => exact alike_page absolute given given' machine o
  | error issues => exact .same _

theorem alike_trial (machine : Machine) :
    (trial (s.withKey k) machine : Errand τ (Except String Body)).Alike (Web.Request.Keyed s.scraperApiUrl k k')
      (Refused s.scraperApiUrl k k' (.probeFailed ·.message) .error)
      (Refused s.scraperApiUrl k' k (.probeFailed ·.message) .error) (trial (s.withKey k') machine) := by
  have alike : (tryKey (s.withKey k) machine : Attempt τ Body).Alike
      (Web.Request.Keyed s.scraperApiUrl k k') (Fetch.Lost s.scraperApiUrl k k') (Fetch.Lost s.scraperApiUrl k' k)
      (tryKey (s.withKey k') machine) := by
    rw [tryKey_withKey given, tryKey_withKey given']
    exact (Fetch.alike_fetch absolute _).bind _
  exact alike_reported alike fun f => rfl

end

/-! ## Two runs -/

/-- two requests that differ in the key alone -/
def Apart (k k' : String) (r r' : Web.Request) : Prop := ∃ e, Url.Keyed keyName k k' e r.url r'.url

/-- what two runs with different keys have in common: the result, the lines of the log, and what they ask but
for the key in requests to the service; and from the line on that tells where a screenshot is fetched,
all that they ask -/
structure Agree (address k k' : String) (x x' : α × List (Query τ)) : Prop where
  result : x.1 = x'.1
  lines : logged x.2 = logged x'.2
  asked : List.Forall₂ (Query.Alike (Web.Request.Keyed address k k')) x.2 x'.2
  download : ∀ q : Query τ, q.Announces → ∀ before after, x.2 = before ++ q :: after →
    ∃ before', x'.2 = before' ++ q :: after

variable {w : Plan.World (@Query.Answer τ) σ} {sim : σ → σ → Prop} {s₁ s₂ : σ} {p p' : Errand τ α}

/-- two errands agree; or they ask the same, but for the key in requests to the service, until the client refuses a
URL for the length of its key -/
def Hidden (address k k' : String) (line : Fault → LogLine τ) (failed : String → α)
    (w : Plan.World (@Query.Answer τ) σ) (s₁ s₂ : σ) (p p' : Errand τ α) : Prop :=
  let x := ((p.run w s₁).1, p.asked w s₁)
  let x' := ((p'.run w s₂).1, p'.asked w s₂)
  Parted (Web.Request.Keyed address k k') (Refused address k k' line failed) (Refused address k' k line failed) x x' ∨
    Agree address k k' x x'

theorem hidden_of_alike {address : String} {line : Fault → LogLine τ} {failed : String → α}
    (h : p.Alike (Web.Request.Keyed address k k') (Refused address k k' line failed)
      (Refused address k' k line failed) p')
    (unseeing : Unseeing (Apart k k') w sim) (start : sim s₁ s₂) :
    Hidden address k k' line failed w s₁ s₂ p p' := by
  have narrow : Unseeing (Web.Request.Keyed address k k') w sim :=
    ⟨unseeing.same, fun ⟨e, _, keyed⟩ => unseeing.sent ⟨e, keyed⟩⟩
  refine (h.run narrow start).imp_right ?_
  rintro ⟨result, matched⟩
  exact ⟨result, matched.logged_eq, matched.forall₂, fun q announces _ _ => matched.announced announces⟩

/-- **The key is hidden.**  Where the address of the service has a scheme and a host, if it is the address of a
URL at all, and the network does not look at the key, a page and a trial agree for any two keys.  The one exception
is a URL that is too long for the client with one of the keys, and not with the other: so far the two runs ask the
same, and the one with the long key ends there. -/
theorem key_hidden {s : Settings} (absolute : ∀ e, Url.parse s.scraperApiUrl = .ok e → e.isAbsolute = true)
    (given : k ≠ "") (given' : k' ≠ "") (unseeing : Unseeing (Apart k k') w sim) (start : sim s₁ s₂)
    (machine : Machine) :
    (∀ options : Json, Hidden s.scraperApiUrl k k' .scrapeFailed .failed w s₁ s₂
      (pageOf (s.withKey k) machine options) (pageOf (s.withKey k') machine options)) ∧
    (∀ o : ScrapeOptions, Hidden s.scraperApiUrl k k' .scrapeFailed .failed w s₁ s₂
      (page (s.withKey k) machine o) (page (s.withKey k') machine o)) ∧
    Hidden s.scraperApiUrl k k' (.probeFailed ·.message) .error w s₁ s₂ (trial (s.withKey k) machine)
      (trial (s.withKey k') machine) :=
  ⟨fun options => hidden_of_alike (alike_pageOf absolute given given' machine options) unseeing start,
    fun o => hidden_of_alike (alike_page absolute given given' machine o) unseeing start,
    hidden_of_alike (alike_trial absolute given given' machine) unseeing start⟩

/-- a world in which the service tells where a screenshot is, and every other answer is a picture -/
def gallery : Plan.World (@Query.Answer Nat) Nat
  | .send r, n =>
    (.ok (if r.url.host = "api.scraperapi.com"
      then ⟨200, [(screenshotHeader, "https://img.example/1.png")], []⟩
      else ⟨200, [("content-type", "image/png")], [0x71]⟩), n + 1)
  | .consult _, n => (.ok [], n)
  | .clock, n => (n, n)
  | .note _, n => ((), n)
  | .publish _, n => ((), n)
  | .load _, n => (.ok (), n)

theorem unseeing_gallery (k k' : String) : Unseeing (Apart k k') gallery Eq where
  same := by
    rintro q s _ rfl
    exact ⟨rfl, rfl⟩
  sent := by
    rintro r r' s _ ⟨e, keyed⟩ rfl
    simp only [gallery, keyed.host]
    exact ⟨trivial, trivial⟩

/-- a screenshot there -/
def pictured (k : String) : Errand Nat ScrapeResult :=
  page (({} : Settings).withKey k) (.blind 9) { url := "https://example.com", screenshot := true }

theorem parse_usual : Url.parse ({} : Settings).scraperApiUrl =
    .ok { scheme := "https", host := "api.scraperapi.com", path := "/" } := by
  decide +kernel

theorem key_hidden_screenshot :
    ((pictured "one").asked gallery 0).length = 4 ∧
    Agree "https://api.scraperapi.com/" "one" "another"
      (((pictured "one").run gallery 0).1, (pictured "one").asked gallery 0)
      (((pictured "another").run gallery 0).1, (pictured "another").asked gallery 0) := by
  have fine : ((pictured "one").run gallery 0).1.error? = none ∧
      ((pictured "another").run gallery 0).1.error? = none := by decide +kernel
  have absolute : ∀ e, Url.parse ({} : Settings).scraperApiUrl = .ok e → e.isAbsolute = true := by
    intro e parsed
    rw [← Except.ok.inj (parse_usual.symm.trans parsed)]
    decide
  obtain ⟨-, hidden, -⟩ :=
    key_hidden absolute (by decide) (by decide) (unseeing_gallery "one" "another") rfl (.blind 9)
  refine ⟨by decide +kernel, ?_⟩
  rcases hidden { url := "https://example.com", screenshot := true } with
    ⟨_, _, _, _, -, -, -, ⟨_, _, -, -, -, lost⟩ | ⟨_, _, -, -, -, lost⟩⟩ | agree
  · have failed := congrArg ScrapeResult.error? lost
    exact absurd (failed.symm.trans fine.1) nofun
  · have failed := congrArg ScrapeResult.error? lost
    exact absurd (failed.symm.trans fine.2) nofun
  · exact agree

/-! ## Where the key is told -/

theorem written_replicate (n : Nat) : Url.written (String.ofList (List.replicate n 'k')) = n := by
  have plain : Percent.encodeForm (List.replicate n 'k') = List.replicate n 'k' := by
    induction n with
    | zero => rfl
    | succ n ih =>
      rw [List.replicate_succ, Percent.encodeForm, List.flatMap_cons]
      exact congrArg ('k' :: ·) ih
  rw [Url.written, String.toList_ofList, plain, List.length_replicate]

theorem page_of_long {s : Settings} {e : Url} (parsed : Url.parse s.scraperApiUrl = .ok e)
    (absolute : e.isAbsolute = true)
    (fits : [("scheme", e.scheme), ("authority", e.normal.authority), ("path", e.path)].find?
      (fun p => Url.lengthLimit < p.2.length) = none)
    (long : Url.lengthLimit < Url.written k) (machine : Machine) {o : ScrapeOptions} {extra : List (String × String)}
    (options : o.params = .ok extra) (w : Plan.World (@Query.Answer τ) σ) (start : σ) :
    ((page (s.withKey k) machine o).run w start).1 = .failed "URL component 'query' too long" := by
  have given : k ≠ "" := by
    rintro rfl
    exact absurd long (by decide)
  have refused : Fetch.request s.scraperApiUrl (some (params k o extra)) = .error (.longPart "query") := by
    obtain ⟨ps, split⟩ : ∃ ps, params k o extra = (keyName, k) :: ps := ⟨_, rfl⟩
    obtain ⟨others, length⟩ := Url.length_queryText keyName ps
    have exceeds : Url.lengthLimit < (Url.queryText ((keyName, k) :: ps)).length := by
      rw [length]
      omega
    rw [split, Fetch.request_of_isAbsolute parsed absolute, Url.fit_withParams, fits]
    simp only [if_pos exceeds]
    rfl
  rw [page, attempt_withParams given s machine options, fetch, refused]
  rfl

/-- a world in which every answer is two letters -/
def obliging : Plan.World (@Query.Answer Nat) Unit
  | .send _, s => (.ok ⟨200, [], [0x6F, 0x6B]⟩, s)
  | .consult _, s => (.ok [], s)
  | .clock, s => (0, s)
  | .note _, s => ((), s)
  | .publish _, s => ((), s)
  | .load _, s => (.ok (), s)

theorem unseeing_obliging (k k' : String) : Unseeing (Apart k k') obliging Eq where
  same := by
    rintro q s _ rfl
    exact ⟨rfl, rfl⟩
  sent := by
    rintro r r' s _ - rfl
    exact ⟨rfl, rfl⟩

/-- a page there -/
def obliged (address k : String) : ScrapeResult :=
  ((page (({ scraperApiUrl := address } : Settings).withKey k) (.blind 9) { url := "https://example.com" }).run
    obliging ()).1

theorem obliged_of_long (long : Url.lengthLimit < Url.written k) :
    obliged "https://api.scraperapi.com/" k = .failed "URL component 'query' too long" :=
  page_of_long parse_usual (by decide) (by decide) long (.blind 9) rfl obliging ()

/-- Where the address of the service has no scheme, the client tells the key when it refuses the answer; and a
key may be so long that the client refuses to send it. -/
theorem key_told :
    (∀ k k', Unseeing (Apart k k') obliging Eq) ∧
    (obliged "api.scraperapi.com" "one").error? =
      some "unknown url type: '/api.scraperapi.com?api_key=one&url=https%3A%2F%2Fexample.com'" ∧
    obliged "api.scraperapi.com" "one" ≠ obliged "api.scraperapi.com" "another" ∧
    obliged "https://api.scraperapi.com/" (String.ofList (List.replicate 65537 'k')) ≠
      obliged "https://api.scraperapi.com/" "one" := by
  have one : (obliged "api.scraperapi.com" "one").error? =
      some "unknown url type: '/api.scraperapi.com?api_key=one&url=https%3A%2F%2Fexample.com'" := by
    decide +kernel
  have another : (obliged "api.scraperapi.com" "another").error? =
      some "unknown url type: '/api.scraperapi.com?api_key=another&url=https%3A%2F%2Fexample.com'" := by
    decide +kernel
  have fine : (obliged "https://api.scraperapi.com/" "one").error? = none := by decide +kernel
  refine ⟨unseeing_obliging, one, fun same => ?_, fun same => ?_⟩
  · rw [same, another] at one
    exact absurd (Option.some.inj one) (by decide)
  · have long : Url.lengthLimit < Url.written (String.ofList (List.replicate 65537 'k')) := by
      rw [written_replicate]
      decide
    rw [← same, obliged_of_long long] at fine
    cases fine

end Scrape

end SnippetStudio
