import SnippetStudio.Proofs.Errand.Buffered
import SnippetStudio.Proofs.Picture.DataUrl
import SnippetStudio.Proofs.Pipeline.Silence
import SnippetStudio.Proofs.Scrape.Files

/-!
# The screenshot of a run

A screenshot goes from an answer of the network into a data URL, and from there into the request to the
model.  A run says that it has used one as soon as there is a URL; whether the URL can be read is seen only
when the request is made (`attached`).

* `gives_image?`          what goes along with a request is what can be read;
* `asks_generate_shown`   every request to the model carries it;
* `gives_acquire`         the screenshot of a page is the file of an answer;
* `screenshot_used_iff`   **what a run says of its screenshot, and what the model was shown**.
-/

namespace SnippetStudio

variable {τ α β σ : Type}

/-- a request to a model carries this image, if it is one -/
def Query.Carries (image : Option Attachment) (q : Query τ) : Prop :=
  ∀ r, q.consult? = some r → r.image = image

instance {image : Option Attachment} : Query.Admits (@Query.Carries τ image) :=
  ⟨fun _ => nofun, nofun, fun _ => nofun⟩

theorem Query.Unmodelled.carries {q : Query τ} (h : q.Unmodelled) (image : Option Attachment) :
    q.Carries image := by
  intro r asked
  rw [h] at asked
  cases asked

variable {may : (q : Query τ) → q.Answer → Prop}

/-! ## What goes along with a request -/

/-- the URL of a file as a screenshot -/
def Scrape.shotUrl (codec : Codec) (file : Web.Response) : String :=
  DataUrl.ofFile codec file.body (mediaType file.contentType? screenshotType)

namespace Generation

open Scrape (shotUrl screenshotType)

/-- what is shown to a model of a screenshot: what can be read back -/
def attached (codec : Codec) (file : Web.Response) : Option Attachment :=
  (DataUrl.readable codec file.body (mediaType file.contentType? screenshotType)).map
    fun (bytes, m) => ⟨m, bytes⟩

/-- a screenshot that can be read back: the codec makes it smaller, or its media type has two names -/
def Readable (codec : Codec) (file : Web.Response) : Prop :=
  (∃ smaller, codec.reduce file.body = .ok smaller) ∨
    DataUrl.IsMediaType (mediaType file.contentType? screenshotType).toList

theorem isSome_attached {codec : Codec} {file : Web.Response} :
    (attached codec file).isSome = true ↔ Readable codec file := by
  unfold attached DataUrl.readable Readable
  rw [Option.isSome_map]
  cases codec.reduce file.body with
  | ok smaller => exact iff_of_true rfl (.inl ⟨smaller, rfl⟩)
  | error f =>
    dsimp only
    split
    · next named => exact iff_of_true rfl (.inr named)
    · next unnamed => exact iff_of_false Bool.false_ne_true (not_or.mpr ⟨nofun, unnamed⟩)

theorem run_loadImage {address : String} (h : isDataUrl address = true) :
    (loadImage address : Attempt τ Attachment).run =
      .done ((DataUrl.decode address).map fun (bytes, m) => ⟨m, bytes⟩) := by
  unfold loadImage
  rw [if_pos h]
  cases DataUrl.decode address <;> rfl

theorem decode_shotUrl (codec : Codec) (file : Web.Response) :
    (DataUrl.decode (shotUrl codec file)).toOption.map (fun (bytes, m) => ⟨m, bytes⟩) =
      attached codec file := by
  have png : ';' ∉ screenshotType.toList ∧ screenshotType ≠ "" := by decide
  obtain ⟨plain, nonempty⟩ := mediaType_plain file.contentType? png.1 png.2
  rw [shotUrl, DataUrl.decode_ofFile codec file.body plain nonempty]
  rfl

theorem gives_image? (codec : Codec) (file : Option Web.Response) :
    (image? (file.map (shotUrl codec)) : Errand τ _).Gives may fun _ image =>
      image = file.bind (attached codec) := by
  cases file with
  | none => exact fun _ _ => rfl
  | some file =>
    obtain ⟨rest, begins⟩ : ∃ rest, (shotUrl codec file).toList = DataUrl.scheme ++ rest :=
      DataUrl.begins_ofFile ..
    have isData : isDataUrl (shotUrl codec file) = true := Text.begins_iff.mpr ⟨rest, begins⟩
    have there : (some (shotUrl codec file)).filter (!·.isEmpty) = some (shotUrl codec file) := by
      refine Option.filter_some_pos ?_
      rw [Bool.not_eq_true', ← Bool.not_eq_true, String.isEmpty_iff]
      intro empty
      rw [empty] at begins
      cases begins
    show Errand.Gives may (image? (some (shotUrl codec file))) fun _ image => image = attached codec file
    have read := decode_shotUrl codec file
    unfold image?
    rw [there]
    dsimp only
    rw [run_loadImage isData]
    cases decoded : DataUrl.decode (shotUrl codec file) with
    | ok image =>
      rw [decoded] at read
      exact fun _ _ => read
    | error f =>
      rw [decoded] at read
      exact fun _ _ => read

theorem asks_generate_shown [Sub τ] (codec : Codec) (file : Option Web.Response) (s : Settings)
    (caps : Capabilities) (url html : String) (start : Option τ) :
    (generate s caps url html (file.map (shotUrl codec)) start).Asks
      (Query.Carries (file.bind (attached codec))) := by
  refine asks_generate start (asks_make (gives_image? codec file) fun r loaded => ?_)
  rintro _ ⟨⟩
  exact loaded

end Generation

namespace Pipeline

open Generation (attached Readable isSome_attached)
open Scrape (Shot Sourced shotUrl)

/-! ## The screenshot of a page -/

variable {codec : Codec}

/-- whatever the answers are, a screenshot in the result is the file of one of them -/
structure Sources (codec : Codec) (e : Errand τ (Except Fault ScrapeResult)) : Prop where
  gives : ∀ may, e.Gives may fun t r => ∀ x, r = .ok x → Sourced codec (received t) x

theorem Sources.of_scrape {e : Errand τ ScrapeResult} (h : Scrape.Sources codec e) :
    Sources codec (e >>= fun x => pure (.ok x)) := by
  refine ⟨fun may => Errand.gives_bind.mpr ((h.gives may).imp fun t x sourced => ?_)⟩
  rintro _ ⟨⟩
  rw [List.append_nil]
  exact sourced

theorem sources_scraped (s : Settings) (machine : Machine) (screenshot : Bool) (url : String) :
    Sources machine.toCodec (scraped s machine screenshot url : Errand τ _) :=
  .of_scrape (Scrape.sources_part s screenshot pageOptions url)

theorem ofResults_screenshot {content shot : Except Fault ScrapeResult} {page : Acquired.Page}
    (h : Acquired.ofResults content shot = .ok page) {url : String} (there : page.screenshot = some url) :
    ∃ x, shot = .ok x ∧ x.screenshot? = some url := by
  have taken : (@Acquired.screenshot Unit shot).toOption = some url := by
    unfold Acquired.ofResults at h
    split at h
    · cases h
    · cases h
    · obtain rfl := Except.ok.inj h
      exact there
  unfold Acquired.screenshot at taken
  split at taken
  · cases taken
  · next x =>
    refine ⟨x, rfl, ?_⟩
    split at taken
    · next u some =>
      obtain rfl : u = url := Option.some.inj taken
      exact (Option.filter_eq_some_iff.mp some).1
    · cases taken

/-- the screenshot of a page is a file of these, if there is one -/
def Acquired.Page.Sourced (codec : Codec) (files : List Web.Response) (page : Acquired.Page) : Prop :=
  ∃ file : Option Web.Response, (∀ f ∈ file, Shot files f) ∧ page.screenshot = file.map (shotUrl codec)

theorem gives_settled [Sub τ] (begun : τ) (content shot : Except Fault ScrapeResult) :
    (settled begun content shot).Gives may fun _ a => a.outcome = Acquired.ofResults content shot := by
  unfold settled
  refine Errand.gives_bind.mpr fun now _ => ?_
  dsimp only
  split
  · exact Errand.gives_bind.mpr (Errand.gives_any.imp fun _ _ _ => rfl)
  · rfl

theorem gives_acquire [Sub τ] {turns : List Bool} {content shot : Errand τ (Except Fault ScrapeResult)}
    (hc : content.Asks Query.Unmodelled) (hs : shot.Asks Query.Unmodelled)
    (sources : Sources codec shot) :
    (acquire turns content shot).Gives may fun t a => (∀ y ∈ t, y.1.Unmodelled) ∧
      ∀ page, a.outcome = .ok page → page.Sourced codec (received t) := by
  refine ((asks_acquire hc hs).gives fun t _ h => h).and ?_
  rw [acquire_settled]
  refine Errand.gives_bind.mpr fun begun _ => Errand.gives_bind.mpr ?_
  refine (Errand.gives_together Errand.gives_any (sources.gives may)).imp fun t results both => ?_
  obtain ⟨t₁, t₂, perm, -, sourced⟩ := both
  refine (gives_settled begun results.1 results.2).imp fun t' a same page outcome => ?_
  cases there : page.screenshot with
  | none => exact ⟨none, fun f hf => absurd hf (Option.not_mem_none f), there⟩
  | some url =>
    obtain ⟨x, result, some⟩ := ofResults_screenshot (same.symm.trans outcome) there
    obtain ⟨file, came, rfl⟩ := sourced x result url some
    refine ⟨file, ?_, there.trans some.symm⟩
    rintro _ ⟨⟩
    refine came.mono (received_subset fun y hy => ?_)
    have mem : y ∈ t := perm.mem_iff.mpr (List.mem_append_right t₁ hy)
    simp [mem]

/-! ## The screenshot of a run -/

/-- a run whose requests to a model carry this image, and whose result tells so; it breaks off only if the
buffer does not take the snippet -/
def Reports (used : Bool) (image : Option Attachment) (t : List (Exchange τ))
    (x : Except Fault (Result τ)) : Prop :=
  (∀ y ∈ t, y.1.Carries image) ∧ match x with
    | .ok r => r.screenshotUsed = used
    | .error f => ∃ code, (⟨.load code, .error f⟩ : Exchange τ) ∈ t

variable {used : Bool} {image : Option Attachment} {r : Result τ}

theorem reports_ok (h : r.screenshotUsed = used) : Reports used image [] (.ok r) :=
  ⟨fun _ hy => absurd hy List.not_mem_nil, h⟩

theorem Reports.append {t t' : List (Exchange τ)} {x : Except Fault (Result τ)}
    (h : Reports used image t' x) (before : ∀ y ∈ t, y.1.Carries image) :
    Reports used image (t ++ t') x := by
  refine ⟨List.forall_mem_append.mpr ⟨before, h.1⟩, ?_⟩
  cases x with
  | ok r => exact h.2
  | error f =>
    obtain ⟨code, mem⟩ := h.2
    exact ⟨code, List.mem_append_right t mem⟩

theorem reports_step {e : Errand τ α} {f : α → Attempt τ (Result τ)}
    (he : e.Asks (Query.Carries image)) (h : ∀ a, (f a).Gives may (Reports used image)) :
    (Attempt.ofErrand e >>= f).Gives may (Reports used image) :=
  Attempt.gives_ofErrand_bind.mpr (he.gives fun _ a carries =>
    (h a).imp fun _ _ tells => tells.append carries)

theorem reports_publish {e : Event τ} {f : Unit → Attempt τ (Result τ)}
    (h : (f ()).Gives may (Reports used image)) :
    (Attempt.ofErrand (Errand.publish e) >>= f).Gives may (Reports used image) :=
  reports_step (.question nofun) fun _ => h

theorem reports_load {code : String} {f : Unit → Attempt τ (Result τ)}
    (h : (f ()).Gives may (Reports used image)) :
    (Attempt.load code >>= f).Gives may (Reports used image) := by
  have plain : ∀ y ∈ [(⟨.load code, .ok ()⟩ : Exchange τ)], y.1.Carries image := by
    rintro _ (_ | ⟨_, ⟨⟩⟩) _ ⟨⟩
  refine Attempt.gives_bind.mpr fun x _ => ?_
  cases x with
  | ok u => exact h.imp fun t r tells => tells.append plain
  | error e => exact ⟨by rintro _ (_ | ⟨_, ⟨⟩⟩) _ ⟨⟩, code, List.mem_cons_self⟩

theorem reports_done {line : LogLine τ} (h : r.screenshotUsed = used) :
    (do
      Attempt.note line
      Attempt.ofErrand (Errand.publish (.done r))
      return r : Attempt τ (Result τ)).Gives may (Reports used image) :=
  reports_step (.note line) fun _ => reports_publish (reports_ok h)

theorem reports_fail {message : String} (h : r.screenshotUsed = used) :
    (Attempt.ofErrand (fail r message)).Gives may (Reports used image) :=
  reports_publish (reports_publish (reports_ok h))

/-- a run that tells of the file of an answer, or of none -/
def Shown (codec : Codec) (t : List (Exchange τ)) (x : Except Fault (Result τ)) : Prop :=
  ∃ file : Option Web.Response, (∀ f ∈ file, Shot (received t) f) ∧
    Reports file.isSome (file.bind (attached codec)) t x

theorem Reports.shown {file : Option Web.Response} {t t' : List (Exchange τ)}
    {x : Except Fault (Result τ)} (h : Reports file.isSome (file.bind (attached codec)) t' x)
    (came : ∀ f ∈ file, Shot (received t) f) (before : ∀ y ∈ t, y.1.Unmodelled) :
    Shown codec (t ++ t') x :=
  ⟨file, fun f hf => (came f hf).mono (received_subset (List.subset_append_left t t')),
    h.append fun y hy => (before y hy).carries _⟩

theorem shown_step {e : Errand τ α} {f : α → Attempt τ (Result τ)} (he : e.Asks Query.Unmodelled)
    (h : ∀ a, (f a).Gives may (Shown codec)) :
    (Attempt.ofErrand e >>= f).Gives may (Shown codec) := by
  refine Attempt.gives_ofErrand_bind.mpr (he.gives fun t a before => (h a).imp fun t' x shown => ?_)
  obtain ⟨file, came, tells⟩ := shown
  exact ⟨file, fun f hf => (came f hf).mono (received_subset (List.subset_append_right t t')),
    tells.append fun y hy => (before y hy).carries _⟩

section

variable [Sub τ] [OfNat τ 0] {k : Setup τ}

theorem shown_run (content : ∀ url, (k.content url).Asks Query.Unmodelled)
    (shot : ∀ url, (k.screenshot url).Asks Query.Unmodelled)
    (sources : ∀ url, Sources codec (k.screenshot url)) (buffer : Bool) (url : String) :
    (run k buffer url).Gives may (Shown codec) := by
  refine shown_step .clock fun start => shown_step (.question rfl) fun _ => ?_
  refine Attempt.gives_ofErrand_bind.mpr ((gives_acquire (content _) (shot _) (sources _)).imp
    fun t page ⟨unmodelled, sourced⟩ => ?_)
  split
  · refine Errand.Gives.imp (P := Reports false none) ?_ fun t' x tells =>
      ⟨none, nofun, tells.append fun y hy => (unmodelled y hy).carries none⟩
    exact reports_step .clock fun now => reports_fail rfl
  · next acquired outcome =>
    obtain ⟨file, came, screenshot⟩ := sourced acquired outcome
    have used : (file.map (shotUrl codec)).isSome = file.isSome := Option.isSome_map
    refine Errand.Gives.imp (P := Reports file.isSome (file.bind (attached codec))) ?_ fun t' x tells =>
      tells.shown came unmodelled
    refine reports_publish (reports_publish (reports_step .clock fun begun => ?_))
    rw [screenshot]
    refine reports_step (Generation.asks_generate_shown ..) fun generated => ?_
    refine reports_step .clock fun ended => ?_
    split
    · exact reports_step .clock fun now => reports_fail used
    · refine reports_publish ?_
      cases buffer with
      | false => exact reports_step .clock fun now => reports_done used
      | true =>
        refine reports_publish (reports_load ?_)
        exact reports_step .clock fun now => reports_done used

/-- **What a run says of its screenshot, and what the model was shown.**  Whatever the network, the codec, the
model and the clock do: all requests to a model carry what can be read back of one file of the network,
if there is one, and the run says that it has used a screenshot when there is such a file.  So it tells the truth
exactly if the file can be read back. -/
theorem screenshot_used_iff (s : Settings) (machine : Machine) (caps : Capabilities) (turns : List Bool)
    (buffer : Bool) (url : String) (w : Plan.World (@Query.Answer τ) σ) (world : σ) :
    let k : Setup τ := { Setup.ofSettings s machine with capabilities := caps, turns := turns }
    let run := (run k buffer url).run
    let qs := consults (run.asked w world)
    ∃ file : Option Web.Response, (∀ f ∈ file, Shot (received (run.trace w world)) f) ∧
      (∀ q ∈ qs, q.image = file.bind (attached machine.toCodec)) ∧
      match (run.run w world).1 with
        | .ok r => r.screenshotUsed = file.isSome ∧
          ∀ q ∈ qs, r.screenshotUsed = q.image.isSome ↔ ∀ f ∈ file, Readable machine.toCodec f
        | .error f => ∃ code, ⟨.load code, .error f⟩ ∈ run.trace w world := by
  intro k run qs
  have content : ∀ url, (k.content url).Asks Query.Unmodelled := fun url => asks_scraped s machine false url
  have shot : ∀ url, (k.screenshot url).Asks Query.Unmodelled := fun url => asks_scraped s machine true url
  obtain ⟨file, came, carries, reported⟩ :=
    Errand.Gives.run (shown_run content shot (sources_scraped s machine true) buffer url) world
  have shows : ∀ q ∈ qs, q.image = file.bind (attached machine.toCodec) := by
    intro q hq
    obtain ⟨ask, mem, asked⟩ := List.mem_filterMap.mp hq
    obtain ⟨y, hy, rfl⟩ := List.mem_map.mp mem
    exact carries y hy q asked
  refine ⟨file, came, shows, ?_⟩
  change match (run.run w world).1 with
    | .ok r => r.screenshotUsed = file.isSome
    | .error f => ∃ code, ⟨.load code, .error f⟩ ∈ run.trace w world at reported
  revert reported
  cases (run.run w world).1 with
  | error f => exact id
  | ok r =>
    refine fun reported => ⟨reported, fun q hq => ?_⟩
    rw [reported, shows q hq]
    cases file with
    | none => exact iff_of_true rfl nofun
    | some f =>
      show true = (attached machine.toCodec f).isSome ↔ _
      rw [eq_comm, isSome_attached]
      refine ⟨fun h f' hf => ?_, fun h => h f rfl⟩
      obtain rfl : f = f' := Option.some.inj hf
      exact h

end

/-- a world in which every answer is a picture of one byte, of a type that has one name only -/
def oneName : Plan.World (@Query.Answer Nat) Unit
  | .send _, s => (.ok ⟨200, [("content-type", "image")], [0x71]⟩, s)
  | .consult _, s => (.ok [.text (some "function Preview() {}")], s)
  | .clock, s => (0, s)
  | .note _, s => ((), s)
  | .publish _, s => ((), s)
  | .load _, s => (.ok (), s)

/-- a run there, by a codec that reads no picture -/
def oneNameRun : Errand Nat (Except Fault (Result Nat)) :=
  (run { Setup.ofSettings { scraperApiKey := "k", geminiApiKey := "g" } (.blind 9) with
    capabilities := .standard, turns := [] } false "a").run

/-- it says that it has used a screenshot, but none can be read back, and none was shown -/
theorem screenshot_used_iff_unread : ∃ f ∈ received (oneNameRun.trace oneName ()),
    ¬Readable .blind f ∧ (∃ r, (oneNameRun.run oneName ()).1 = .ok r ∧ r.screenshotUsed = true) ∧
      (consults (oneNameRun.asked oneName ())).map (·.image) = [none] := by
  have shown : (consults (oneNameRun.asked oneName ())).map (·.image) = [none] := by decide +kernel
  have used : (oneNameRun.run oneName ()).1.toOption.map (·.screenshotUsed) = some true := by
    decide +kernel
  unfold oneNameRun at shown used ⊢
  obtain ⟨file, came, -, ended⟩ := screenshot_used_iff { scraperApiKey := "k", geminiApiKey := "g" }
    (.blind 9) .standard [] false "a" oneName ()
  split at ended
  · next r result =>
    rw [result] at used ⊢
    have used : r.screenshotUsed = true := Option.some.inj used
    obtain ⟨told, truth⟩ := ended
    obtain ⟨f, rfl⟩ : ∃ f, file = some f := Option.isSome_iff_exists.mp (told.symm.trans used)
    refine ⟨f, (came f rfl).came, fun readable => ?_, ⟨r, rfl, used⟩, shown⟩
    obtain ⟨q, hq, without⟩ := List.mem_map.mp (shown ▸ List.mem_singleton_self none)
    have agrees : r.screenshotUsed = q.image.isSome :=
      (truth q hq).mpr fun f' hf => Option.some.inj hf ▸ readable
    rw [used, without] at agrees
    cases agrees
  · next f result =>
    rw [result] at used
    cases used

end Pipeline

end SnippetStudio
