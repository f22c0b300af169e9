import SnippetStudio.Browser.Host

/-!
# How a host starts

A start of a host goes through steps (`Step`), of which each may fail for a reason of its own
(`Step.fault?`).  What it leaves running is told by the operations that were done with the browser
(`Processes.of`); what the host knows of it is its record, and the two agree as long as what is to be closed can be
closed (`Track.Honest`).

* `exec_load`    loading ends as the first step says that fails;
* `exec_stop`    after a stop nothing is running;
* `exec_start`   **a start that fails leaves nothing running**, and one that succeeds has a page.
-/

namespace SnippetStudio.Host

variable {α β : Type}

namespace Run

/-- a run from a track -/
def exec (r : Run α) (b : Browser) (t : Track) : Except Fault α × Track := ((r b).run).run t

variable {r : Run α} {k : α → Run β} {b : Browser} {t : Track}

theorem exec_bind : (r >>= k).exec b t = match r.exec b t with
    | (.ok a, t') => (k a).exec b t'
    | (.error f, t') => (.error f, t') := by
  show (ExceptT.bind (r b) fun a => k a b) t = match (r b) t with
    | (.ok a, t') => (k a b) t'
    | (.error f, t') => (.error f, t')
  simp only [ExceptT.bind, ExceptT.mk, bind, StateT.bind]
  cases (r b) t with
  | mk x t' => cases x <;> rfl

theorem exec_tryCatch {handle : Fault → Run α} : (tryCatch r handle).exec b t = match r.exec b t with
    | (.ok a, t') => (.ok a, t')
    | (.error f, t') => (handle f).exec b t' := by
  show (ExceptT.tryCatch (r b) fun f => handle f b) t = match (r b) t with
    | (.ok a, t') => (.ok a, t')
    | (.error f, t') => (handle f b) t'
  simp only [ExceptT.tryCatch, ExceptT.mk, bind, StateT.bind]
  cases (r b) t with
  | mk x t' => cases x <;> rfl

end Run

/-- an operation, written down -/
def Track.asked (t : Track) (o : Operation) : Track := { t with operations := t.operations ++ [o] }

/-- what the host knows to have running -/
def Track.holding (t : Track) (h : Host) : Track := { t with host := h }

section
open Run

variable {k : Json → Run β} {b : Browser} {t : Track} {o : Operation}

theorem exec_ask (o : Operation) : (ask o).exec b t = (b o, t.asked o) := by
  have note : (modify fun t => { t with operations := t.operations ++ [o] } : Run PUnit).exec b t =
      (.ok ⟨⟩, t.asked o) := rfl
  have look : (read : Run Browser).exec b (t.asked o) = (.ok b, t.asked o) := rfl
  simp only [ask, exec_bind, note, look]
  cases b o <;> rfl

theorem exec_given (x : Except Fault α) : (given x : Run α).exec b t = (x, t) := by
  cases x <;> rfl

theorem after_ask {P : Except Fault β × Track → Prop} (fails : ∀ f, b o = .error f → P (.error f, t.asked o))
    (goesOn : ∀ v, b o = .ok v → P ((k v).exec b (t.asked o))) : P ((ask o >>= k).exec b t) := by
  rw [exec_bind, exec_ask]
  cases h : b o with
  | error f => exact fails f h
  | ok v => exact goesOn v h

theorem after_hold {k : Unit → Run β} {P : Except Fault β × Track → Prop} (g : Host → Host)
    (goesOn : P ((k ()).exec b (t.holding (g t.host)))) :
    P ((host >>= fun h => setHost (g h) >>= k).exec b t) := goesOn

theorem after_given {k : α → Run β} {x : Except Fault α} {P : Except Fault β × Track → Prop}
    (fails : ∀ f, x = .error f → P (.error f, t)) (goesOn : ∀ a, x = .ok a → P ((k a).exec b t)) :
    P ((given x >>= k).exec b t) := by
  rw [exec_bind, exec_given]
  cases x with
  | error f => exact fails f rfl
  | ok a => exact goesOn a rfl

end

end Host

/-! ## What is running -/

/-- the processes of a browser: the driver's, and the browser's own -/
structure Processes where
  driver : Bool := false
  browser : Bool := false
deriving Repr, DecidableEq

namespace Processes

/-- what an operation starts and ends -/
def done (p : Processes) : Operation → Processes
  | .startDriver => { p with driver := true }
  | .launch _ => { p with browser := true }
  | .closeBrowser => { p with browser := false }
  | .stopDriver => { p with driver := false }
  | _ => p

/-- an operation that fails starts and ends nothing -/
def after (b : Browser) (p : Processes) (o : Operation) : Processes :=
  match b o with
  | .ok _ => p.done o
  | .error _ => p

/-- what some operations leave running -/
def of (b : Browser) (os : List Operation) : Processes := os.foldl (after b) {}

variable {b : Browser} {os : List Operation} {o : Operation}

@[simp] theorem of_concat : of b (os ++ [o]) = (of b os).after b o := by
  rw [of, List.foldl_append]
  rfl

theorem after_of_ok {v : Json} (h : b o = .ok v) (p : Processes) : p.after b o = p.done o := by
  rw [after, h]

theorem after_of_error {f : Fault} (h : b o = .error f) (p : Processes) : p.after b o = p := by
  rw [after, h]

end Processes

namespace Host

/-- what the host knows to be running is running, and nothing else -/
def Track.Honest (b : Browser) (t : Track) : Prop :=
  Processes.of b t.operations = ⟨t.host.driver, t.host.browser⟩

/-! ## The steps of a start -/

inductive Step where
  | driver
  | launch
  | page
  /-- the page's console and errors are listened to -/
  | listeners
  | document
  | components
  /-- the page reports the names that it was given -/
  | names
  | compiler
  | root
deriving Repr, DecidableEq

/-- the failure of something -/
def failure? : Except Fault α → Option Fault
  | .error f => some f
  | .ok _ => none

theorem failure?_error {f : Fault} : failure? (.error f : Except Fault α) = some f := rfl

theorem failure?_ok (a : α) : failure? (.ok a : Except Fault α) = none := rfl

/-- what the page answers when the components are handed over -/
def reported (caps : Capabilities) (b : Browser) : Except Fault Json := do b (.install (← caps.payload))

/-- the names that the page reports are the right ones -/
def checkReported (caps : Capabilities) (answer : Json) : Except Fault Unit := do
  let installed ← Json.parts answer
  if installed.map (·.str?) ≠ caps.names.map some then
    throw (.runtime ("Host installed " ++ toString installed.length ++ " components, expected " ++
      toString caps.names.length))

section

variable (s : Settings) (caps : Capabilities) (b : Browser)

/-- why a step fails, if it does -/
def Step.fault? : Step → Option Fault
  | driver => failure? (b .startDriver)
  | launch => failure? (b (.launch s.headless))
  | page => failure? (b (.newPage s.viewportWidth s.viewportHeight))
  | listeners => (failure? (b (.listen "console"))).or (failure? (b (.listen "pageerror")))
  | document => failure? (b (.setContent (Page.document s)))
  | components => failure? (reported caps b)
  | names => failure? ((reported caps b).toOption.elim (.ok ()) (checkReported caps))
  | compiler => failure? (b (.loadCompiler s.babelUrl))
  | root => failure? (b Call.createRoot.operation)

/-- the first of some steps that fails, and why -/
def first? (steps : List Step) : Option (Step × Fault) :=
  steps.findSome? fun step => (step.fault? s caps b).map (step, ·)

/-- the steps of loading the page, once the driver is started -/
def loading : List Step := [.launch, .page, .listeners, .document, .components, .names, .compiler]

/-- how loading ends, with some steps before it: as the first of them says that fails -/
def Loads (steps : List Step) (t : Track) (x : Except Fault Nat × Track) : Prop :=
  x.2.Honest b ∧ match first? s caps b steps with
    | some (step, f) => x.1 = .error f ∧ x.2.host = { t.host with browser := decide (step ≠ .launch) }
    | none => (∃ count, x.1 = .ok count) ∧ x.2.host = { t.host with browser := true }

end

variable {s : Settings} {caps : Capabilities} {b : Browser} {t t' : Track} {o : Operation} {f : Fault}
  {step : Step} {rest : List Step} {x : Except Fault Nat × Track}

theorem first?_of_fails (h : step.fault? s caps b = some f) :
    first? s caps b (step :: rest) = some (step, f) := by
  simp [first?, h]

theorem first?_of_done (h : step.fault? s caps b = none) :
    first? s caps b (step :: rest) = first? s caps b rest := by
  simp [first?, h]

theorem first?_append (steps more : List Step) :
    first? s caps b (steps ++ more) = (first? s caps b steps).or (first? s caps b more) :=
  List.findSome?_append

theorem mem_of_first? {steps : List Step} (h : first? s caps b steps = some (step, f)) :
    step ∈ steps ∧ step.fault? s caps b = some f := by
  obtain ⟨step', mem, fails⟩ := List.exists_of_findSome?_eq_some h
  obtain ⟨f', fault, same⟩ := Option.map_eq_some_iff.mp fails
  cases same
  exact ⟨mem, fault⟩

theorem Loads.skip (h : step.fault? s caps b = none) (loads : Loads s caps b rest t x) :
    Loads s caps b (step :: rest) t x := by
  rw [Loads, first?_of_done h]
  exact loads

/-- an operation that starts no process and ends none -/
def quiet : Operation → Bool
  | .startDriver | .launch _ | .closeBrowser | .stopDriver => false
  | _ => true

theorem Track.Honest.asked (honest : t.Honest b) (h : quiet o = true) : (t.asked o).Honest b := by
  have none (p : Processes) : p.done o = p := by
    cases o with
    | startDriver | launch | closeBrowser | stopDriver => cases h
    | _ => rfl
  have same (p : Processes) : p.after b o = p := by
    rw [Processes.after, none]
    split <;> rfl
  rw [Honest, Track.asked, Processes.of_concat, same]
  exact honest

theorem Track.Honest.failed (honest : t.Honest b) (h : b o = .error f) : (t.asked o).Honest b := by
  rw [Honest, Track.asked, Processes.of_concat, Processes.after_of_error h]
  exact honest

/-- an operation that succeeds, noted in the record -/
theorem Track.Honest.done {v : Json} {h : Host} (honest : t.Honest b) (succeeds : b o = .ok v)
    (noted : Processes.done ⟨t.host.driver, t.host.browser⟩ o = ⟨h.driver, h.browser⟩) :
    ((t.asked o).holding h).Honest b := by
  show Processes.of b (t.operations ++ [o]) = ⟨h.driver, h.browser⟩
  rw [Processes.of_concat, Processes.after_of_ok succeeds, honest, noted]

/-- while the page is loaded: the browser is there, and nothing else has changed -/
structure Loading (b : Browser) (t t' : Track) : Prop where
  host : t'.host = { t.host with browser := true }
  honest : t'.Honest b

namespace Loading

theorem asked (held : Loading b t t') (h : quiet o = true) : Loading b t (t'.asked o) :=
  ⟨held.host, held.honest.asked h⟩

theorem failed (held : Loading b t t') (opened : step ≠ .launch) (h : step.fault? s caps b = some f) :
    Loads s caps b (step :: rest) t (.error f, t') := by
  rw [Loads, first?_of_fails h]
  exact ⟨held.honest, rfl, by rw [held.host, decide_eq_true opened]⟩

theorem ask {k : Json → Run Nat} (held : Loading b t t') (h : quiet o = true) (opened : step ≠ .launch)
    (fails : ∀ f, b o = .error f → step.fault? s caps b = some f)
    (goesOn : ∀ v, b o = .ok v → Loading b t (t'.asked o) →
      Loads s caps b (step :: rest) t ((k v).exec b (t'.asked o))) :
    Loads s caps b (step :: rest) t ((Run.ask o >>= k).exec b t') :=
  after_ask (fun f failed => (held.asked h).failed opened (fails f failed)) fun v done =>
    goesOn v done (held.asked h)

theorem operation {k : Json → Run Nat} (held : Loading b t t') (h : quiet o = true) (opened : step ≠ .launch)
    (only : step.fault? s caps b = failure? (b o))
    (goesOn : ∀ v, b o = .ok v → Loading b t (t'.asked o) →
      Loads s caps b rest t ((k v).exec b (t'.asked o))) :
    Loads s caps b (step :: rest) t ((Run.ask o >>= k).exec b t') :=
  held.ask h opened (fun f failed => by rw [only, failed, failure?_error]) fun v done held =>
    .skip (by rw [only, done, failure?_ok]) (goesOn v done held)

end Loading

/-- loading ends as the first step says that fails -/
theorem exec_load (honest : t.Honest b) (closed : t.host.browser = false) :
    Loads s caps b loading t ((load s caps).exec b t) := by
  rw [load]
  refine after_ask (fun f h => ?_) fun v launched => ?_
  · have fails : Step.launch.fault? s caps b = some f := by rw [Step.fault?, h, failure?_error]
    have unopened : t.host = { t.host with browser := false } := by rw [← closed]
    rw [Loads, loading, first?_of_fails fails]
    exact ⟨honest.failed h, rfl, unopened⟩
  refine after_hold (fun h => { h with browser := true }) (.skip (by rw [Step.fault?, launched, failure?_ok]) ?_)
  have held : Loading b t ((t.asked (.launch s.headless)).holding { t.host with browser := true }) :=
    ⟨rfl, honest.done launched rfl⟩
  refine held.operation rfl nofun rfl fun _ _ held => ?_
  refine held.ask rfl nofun (fun f h => by simp [Step.fault?, h, failure?_error]) fun _ console held => ?_
  refine held.ask rfl nofun (fun f h => by simp [Step.fault?, console, h, failure?_error, failure?_ok])
    fun _ errors held => .skip (by simp [Step.fault?, console, errors, failure?_ok]) ?_
  refine held.operation rfl nofun rfl fun _ _ held => ?_
  refine after_given (fun f h => held.failed nofun ?_) fun payload written => ?_
  · rw [Step.fault?, reported, h]
    rfl
  have answers : reported caps b = b (.install payload) := by rw [reported, written]; rfl
  refine held.operation rfl nofun (by rw [Step.fault?, answers]) fun answer handed held => ?_
  have names : Step.names.fault? s caps b = failure? (checkReported caps answer) := by
    rw [Step.fault?, answers, handed]
    rfl
  refine after_given (fun f h => held.failed nofun ?_) fun installed parts => ?_
  · rw [names, checkReported, h]
    rfl
  have checked : checkReported caps answer = if installed.map (·.str?) ≠ caps.names.map some then
      .error (.runtime ("Host installed " ++ toString installed.length ++ " components, expected " ++
        toString caps.names.length)) else .ok () := by
    rw [checkReported, parts]
    rfl
  dsimp only
  split
  · next other =>
    refine held.failed nofun ?_
    rw [names, checked, if_pos other]
    rfl
  · next same =>
    rw [if_neg same] at checked
    refine .skip (by rw [names, checked, failure?_ok]) ?_
    exact held.operation rfl nofun rfl fun _ _ held => ⟨held.honest, ⟨_, rfl⟩, held.host⟩

/-! ## Stops and starts -/

/-- an operation that is asked for only where there is something to end -/
def Track.ending (t : Track) (running : Bool) (o : Operation) : Track := if running then t.asked o else t

/-- what is left of a stop when the browser is closed -/
def endDriver : Run Unit := do
  if (← Run.host).driver then
    let _ ← Run.ask .stopDriver
  Run.setHost {}

theorem exec_endDriver {w : Json} (stops : b .stopDriver = .ok w) :
    endDriver.exec b t = (.ok (), (t.ending t.host.driver .stopDriver).holding {}) := by
  show Run.exec (if t.host.driver = true then _ else _) b t = _
  cases t.host.driver with
  | true =>
    rw [if_pos rfl, Run.exec_bind, exec_ask, stops]
    rfl
  | false => rfl

/-- a start behind that of its driver -/
def opening (s : Settings) (caps : Capabilities) : Run Unit := do
  let installed ← try load s caps catch f => do stop; throw f
  Run.setHost { (← Run.host) with page := true }
  Run.say ("[host] Preview page ready (" ++ toString installed ++ " components installed)")

section

variable {v w : Json} (closes : b .closeBrowser = .ok v) (stops : b .stopDriver = .ok w)
include closes stops

theorem exec_stop : stop.exec b t =
    (.ok (), ((t.ending t.host.browser .closeBrowser).ending t.host.driver .stopDriver).holding {}) := by
  show Run.exec (if t.host.browser = true then _ else _) b t = _
  cases t.host.browser with
  | true =>
    rw [if_pos rfl, Run.exec_bind, Run.exec_tryCatch, Run.exec_bind, exec_ask, closes]
    exact exec_endDriver stops
  | false => exact exec_endDriver stops

/-- after a stop nothing is running -/
theorem stopped (honest : t.Honest b) : ∃ t', stop.exec b t = (.ok (), t') ∧ t'.host = {} ∧ t'.Honest b := by
  refine ⟨_, exec_stop closes stops, rfl, ?_⟩
  have ending (t : Track) (running : Bool) (o : Operation) : Processes.of b (t.ending running o).operations =
      if running then (Processes.of b t.operations).after b o else Processes.of b t.operations := by
    cases running with
    | true => exact Processes.of_concat
    | false => rfl
  show Processes.of b (((t.ending _ .closeBrowser).ending _ .stopDriver).operations) = {}
  rw [ending, ending, honest, Processes.after_of_ok closes, Processes.after_of_ok stops]
  cases t.host.driver <;> cases t.host.browser <;> rfl

theorem exec_opening {t : Track} (driven : t.Honest b) (host : t.host = { driver := true }) : ∃ t', t'.Honest b ∧
    (opening s caps).exec b t = ((first? s caps b loading).elim (.ok ()) fun x => .error x.2, t') ∧
    t'.host = if first? s caps b loading = none then ⟨true, true, true⟩ else {} := by
  obtain ⟨held, loads⟩ : Loads s caps b loading t ((load s caps).exec b t) := exec_load driven (by rw [host])
  rw [opening, Run.exec_bind, Run.exec_tryCatch]
  match first : first? s caps b loading, loaded : (load s caps).exec b t with
  | some (step, f), (x, t₁) =>
    rw [loaded] at held
    rw [first, loaded] at loads
    obtain ⟨rfl, -⟩ := loads
    obtain ⟨t', ended, none, honest⟩ := stopped closes stops held
    refine ⟨t', honest, ?_, none⟩
    dsimp only
    rw [Run.exec_bind, ended]
    rfl
  | none, (x, t₁) =>
    rw [loaded] at held
    rw [first, loaded] at loads
    obtain ⟨⟨count, rfl⟩, browser⟩ := loads
    refine ⟨_, ?_, rfl, ?_⟩
    · exact held
    show { t₁.host with page := true } = (⟨true, true, true⟩ : Host)
    rw [browser, host]

/-- **A start that fails leaves nothing running**, and the host as it was; one that succeeds has a page. -/
theorem exec_start (honest : t.Honest b) (idle : t.host = {}) : ∃ t', t'.Honest b ∧
    (start s caps).exec b t =
      ((first? s caps b (.driver :: loading)).elim (.ok ()) fun x => .error x.2, t') ∧
    t'.host = if first? s caps b (.driver :: loading) = none then ⟨true, true, true⟩ else {} := by
  have begins : (start s caps).exec b t = (Run.ask .startDriver >>= fun _ => Run.host >>= fun h =>
      Run.setHost { h with driver := true } >>= fun _ => opening s caps).exec b t := by
    show Run.exec (if t.host.page = true then _ else _) b t = _
    rw [idle]
    rfl
  rw [begins, Run.exec_bind, exec_ask]
  cases driver : b .startDriver with
  | error f =>
    have fails : Step.driver.fault? s caps b = some f := by rw [Step.fault?, driver, failure?_error]
    rw [first?_of_fails fails]
    exact ⟨_, honest.failed driver, rfl, idle⟩
  | ok v =>
    have done : Step.driver.fault? s caps b = none := by rw [Step.fault?, driver, failure?_ok]
    rw [first?_of_done done]
    exact exec_opening closes stops (t := (t.asked .startDriver).holding { t.host with driver := true })
      (honest.done driver rfl) (by rw [idle]; rfl)

end

end Host

end SnippetStudio
