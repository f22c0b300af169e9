import SnippetStudio.Proofs.Browser.Starting
import SnippetStudio.Proofs.Session.Transitions

/-!
# A session with its host

A session asks for a page and for a root, and its host answers (`Hosted.turn`).  A start that fails while the host
starts leaves nothing behind (`Undone`, `Host.exec_start`).  The root is made when the host has started, by a
request of its own, and nobody stops the host when that fails: the session is as it was, and the browser runs on.

* `startOn_refused`    the host does not start: nothing is left;
* `startOn_opened`     the host has started, and the root is asked for;
* `started_or_undone`  **a start establishes everything or undoes everything, unless the root fails**.
-/

namespace SnippetStudio.Session

open Preview (Desk Signal Setup Result Reply Request)
open Host (Track Run Step loading first?)

variable {setup : Setup} {s : Session} {f : Fault}

/-- what an activity waits to be told -/
def asked? (signals : List Signal) (n : Nat) : Option Request :=
  signals.findSome? fun
    | .asked m request => if m = n then some request else none
    | _ => none

/-- a session and its host: what the session's last move led to, and what was done with the browser -/
structure Hosted where
  last : Session × List Signal
  track : Track

section

variable (setup : Setup) (settings : Settings) (caps : Capabilities) (b : Browser)

/-- what the host does for a session that starts -/
def service? : Request → Option (Run Reply)
  | .start _ => some do
    Host.start settings caps
    return {}
  | .createRoot => some do return { ok := Json.truthy (← Host.call .createRoot) }
  | _ => none

/-- the host answers what an activity waits for -/
def Hosted.turn (n : Nat) (x : Hosted) : Hosted :=
  match (asked? x.last.2 n).bind (service? settings caps) with
  | none => x
  | some service =>
    let (o, track) := service.exec b x.track
    ⟨x.last.1.move setup (.answer n o), track⟩

/-- a session is started: it asks its host twice -/
def startOn (s : Session) (track : Track) : Hosted :=
  (Hosted.mk (s.move setup (.start .start)) track).turn setup settings caps b s.next
    |>.turn setup settings caps b s.next

end

/-! ## Refusals -/

/-- the start has failed, and the session is as it was -/
structure Undone (s : Session) (f : Fault) (y : Session × List Signal) : Prop where
  raises : y.2 = [.returned s.next (.error f)]
  /-- not started, no root, no listener, no first render, nothing under way -/
  fresh : y.1.Fresh
  buffer : y.1.buffer = s.buffer

/-- the start has returned, and everything is there -/
structure Established (s : Session) (y : Session × List Signal) : Prop where
  returns : returned? y.2 s.next = some (.ok .nothing)
  asks : asked? y.2 s.next = none
  started : y.1.started = true
  initialized : y.1.desk.engine.initialized = true
  buffer : y.1.buffer = s.buffer.subscribe .render
  first : y.1.first = some { number := s.next + 1 }
  activities : ∀ k, y.1.activities.find? k = if k = s.next + 1 then some (.first s.buffer.text) else none

theorem idle_refused {d : Desk} (idle : d.Idle) (n : Nat) (c : Preview.Call) (result : Except Fault Result) :
    ((d.put n c).leave n result).1.Idle := by
  have calls : ((d.put n c).leave n result).1.calls = d.calls.drop n := by
    rw [Desk.leave_fst, Desk.calls_without]
    exact Roster.drop_put ..
  refine ⟨fun k => ?_, ?_, ?_⟩
  · rw [calls, Roster.find?_drop, idle.calls]
    exact ite_self none
  · simp [Desk.leave, Desk.put, idle.holder]
  · simp [Desk.leave, Desk.put, idle.holder, idle.queue]

theorem undone_finish {s' : Session} (fresh : s.Fresh) (desk : s'.desk.Idle)
    (unmade : s'.desk.engine.initialized = false) (buffer : s'.buffer = s.buffer) (started : s'.started = s.started)
    (first : s'.first = s.first) (others : ∀ k, k ≠ s.next → s'.activities.find? k = none) :
    Undone s f (s'.finish s.next (.error f)) := by
  rw [fresh.first] at first
  have ends : s'.finish s.next (.error f) =
      ({ s' with activities := s'.activities.drop s.next }, [.returned s.next (.error f)]) := by
    simp only [finish, first]
  rw [ends]
  refine ⟨rfl, ⟨desk, unmade, buffer ▸ fresh.listeners, started ▸ fresh.started, first, fun k => ?_⟩, buffer⟩
  show (s'.activities.drop s.next).find? k = none
  rw [Roster.find?_drop]
  split
  · rfl
  · next other => exact others k other

theorem undone_opening (fresh : s.Fresh) :
    Undone s f ((s.took.put s.next .opening).move setup (.answer s.next (.error f))) := by
  have ends : (s.took.put s.next .opening).move setup (.answer s.next (.error f)) =
      (s.took.put s.next .opening).finish s.next (.error f) := by
    simp [move, isDoomed, took, put, fresh.first, answer]
  rw [ends]
  exact undone_finish fresh fresh.desk fresh.initialized rfl rfl rfl fun k other =>
    (Roster.find?_put_of_ne _ _ other).trans (fresh.activities k)

theorem undone_rooted (fresh : s.Fresh) : Undone s f (s.rooted.move setup (.answer s.next (.error f))) := by
  have call : s.rooted.desk.calls.find? s.next = some .makeRoot := Roster.find?_put_self ..
  have root : s.rooted.activities.find? s.next = some .rooting := Roster.find?_put_self ..
  have calm : s.rooted.isDoomed s.next = false := by simp [isDoomed, rooted, took, put, fresh.first]
  have free : s.rooted.desk.holder = none := fresh.desk.holder
  have ends : s.rooted.move setup (.answer s.next (.error f)) =
      { s.rooted with desk := (s.rooted.desk.leave s.next (.error f)).1 }.finish s.next (.error f) := by
    simp [move, calm, answer, root, Desk.answer, call, went, last, Desk.leave, free, returned?, passed]
  rw [ends]
  refine undone_finish fresh (idle_refused fresh.desk s.next .makeRoot (.error f)) ?_ rfl rfl rfl fun k other => ?_
  · rw [Desk.engine_leave]
    exact fresh.initialized
  · show ((s.activities.put s.next .opening).put s.next .rooting).find? k = none
    rw [Roster.find?_put_of_ne _ _ other, Roster.find?_put_of_ne _ _ other, fresh.activities]

theorem told_launch (s : Session) {n : Nat} (ne : s.next ≠ n) : (s.launch n).2 =
    [.woke s.next, .said ("[session] Started with example '" ++ s.example_ ++ "'"), .returned n (.ok .nothing)] := by
  simp [launch, subscribe, put, finish, ne]

theorem established_rooted (fresh : s.Fresh) (r : Reply) :
    Established s (s.rooted.move setup (.answer s.next (.ok r))) := by
  have free : s.rooted.desk.holder = none := fresh.desk.holder
  have ne : s.rooted.next ≠ s.next := Nat.succ_ne_self _
  have activities := @find?_startUp setup s fresh {} r
  rw [after_startUp fresh] at activities
  have made : (s.rooted.desk.initialized s.next r.ok).1.engine.initialized = true := by
    show (Desk.leave { s.rooted.desk with engine := _ } _ (.ok .nothing)).1.engine.initialized = true
    rw [Desk.engine_leave]
  have said : ∃ lines : List String, passed (s.rooted.desk.initialized s.next r.ok).2 = lines.map .said := by
    refine ⟨(if r.ok then [] else ["[preview] Host already had a root, reusing it"]) ++
      ["[preview] Mount root ready"], ?_⟩
    cases r.ok <;> simp [Desk.initialized, Desk.leave, free, passed]
  obtain ⟨lines, said⟩ := said
  have told : (s.rooted.move setup (.answer s.next (.ok r))).2 = lines.map .said ++ [.woke (s.next + 1),
      .said ("[session] Started with example '" ++ s.example_ ++ "'"), .returned s.next (.ok .nothing)] := by
    rw [move_rooted fresh, ← said]
    exact congrArg (passed _ ++ ·) (told_launch { s.rooted with desk := _ } ne)
  have left : (s.rooted.move setup (.answer s.next (.ok r))).1 = ({ s.rooted with
      desk := (s.rooted.desk.initialized s.next r.ok).1 }.launch s.next).1 := by
    rw [move_rooted fresh]
  refine ⟨?_, ?_, ?_, ?_, ?_, ?_, left ▸ activities⟩
  · rw [told, returned?, List.findSome?_append, List.findSome?_eq_none_iff.mpr (by simp)]
    simp
  · rw [told, asked?, List.findSome?_append, List.findSome?_eq_none_iff.mpr (by simp)]
    simp
  all_goals rw [left, launch_eq _ ne]
  · exact made
  all_goals rfl

/-! ## Starts -/

/-- what is running, as the host knows it -/
structure Hosted.Runs (b : Browser) (x : Hosted) (h : Host) : Prop where
  host : x.track.host = h
  processes : Processes.of b x.track.operations = ⟨h.driver, h.browser⟩

variable {settings : Settings} {caps : Capabilities} {b : Browser} {t t' : Track} {x : Hosted} {n : Nat}

theorem turn_of_quiet (quiet : asked? x.last.2 n = none) : x.turn setup settings caps b n = x := by
  rw [Hosted.turn, quiet]
  rfl

theorem turn_of_asked {r : Request} {service : Run Reply} {o : Except Fault Reply}
    (asks : asked? x.last.2 n = some r) (serves : service? settings caps r = some service)
    (ends : service.exec b x.track = (o, t')) :
    x.turn setup settings caps b n = ⟨x.last.1.move setup (.answer n o), t'⟩ := by
  simp only [Hosted.turn, asks, Option.bind, serves, ends]

theorem turn_opening (fresh : s.Fresh) {result : Except Fault Unit}
    (starts : (Host.start settings caps).exec b t = (result, t')) :
    (Hosted.mk (s.move setup (.start .start)) t).turn setup settings caps b s.next =
      ⟨(s.took.put s.next .opening).move setup (.answer s.next (result.map fun _ => {})), t'⟩ := by
  rw [move_opening fresh]
  have asks : asked? [.asked s.next (.start s.components)] s.next = some (.start s.components) := by
    simp [asked?]
  refine turn_of_asked asks rfl ?_
  rw [Run.exec_bind, starts]
  cases result <;> rfl

theorem turn_root (page : t.host.page = true) :
    (Hosted.mk (s.rooted, [.asked s.next .createRoot]) t).turn setup settings caps b s.next =
      ⟨s.rooted.move setup (.answer s.next ((b Host.Call.createRoot.operation).map fun v => { ok := Json.truthy v })),
        t.asked Host.Call.createRoot.operation⟩ := by
  have called : (Host.call .createRoot).exec b t =
      (b Host.Call.createRoot.operation, t.asked Host.Call.createRoot.operation) := by
    show Run.exec (if t.host.page = true then _ else _) b t = _
    rw [if_pos page, Host.exec_ask]
  have asks : asked? [.asked s.next .createRoot] s.next = some .createRoot := by simp [asked?]
  refine turn_of_asked asks rfl ?_
  rw [Run.exec_bind, called]
  cases b Host.Call.createRoot.operation <;> rfl

theorem startOn_refused (fresh : s.Fresh) (starts : (Host.start settings caps).exec b t = (.error f, t')) :
    Undone s f (startOn setup settings caps b s t).last ∧ (startOn setup settings caps b s t).track = t' := by
  have undone : Undone s f ((s.took.put s.next .opening).move setup (.answer s.next (.error f))) :=
    undone_opening fresh
  have quiet : asked? ((s.took.put s.next .opening).move setup (.answer s.next (.error f))).2 s.next = none := by
    rw [undone.raises]
    rfl
  rw [startOn, turn_opening fresh starts]
  simp only [Except.map]
  rw [turn_of_quiet quiet]
  exact ⟨undone, rfl⟩

theorem startOn_opened (fresh : s.Fresh) (starts : (Host.start settings caps).exec b t = (.ok (), t'))
    (page : t'.host.page = true) : startOn setup settings caps b s t =
      ⟨s.rooted.move setup (.answer s.next ((b Host.Call.createRoot.operation).map fun v => { ok := Json.truthy v })),
        t'.asked Host.Call.createRoot.operation⟩ := by
  rw [startOn, turn_opening fresh starts]
  simp only [Except.map]
  rw [move_loaded fresh, turn_root page]
  rfl

/-- whatever the page answers for its root, everything that the host has started goes on -/
theorem runs_opened (fresh : s.Fresh) (starts : (Host.start settings caps).exec b t = (.ok (), t'))
    (honest : t'.Honest b) (host : t'.host = ⟨true, true, true⟩) :
    (startOn setup settings caps b s t).Runs b ⟨true, true, true⟩ := by
  have asked : (t'.asked Host.Call.createRoot.operation).Honest b := honest.asked rfl
  rw [startOn_opened fresh starts (by rw [host])]
  refine ⟨host, asked.trans ?_⟩
  show Processes.mk t'.host.driver t'.host.browser = _
  rw [host]

variable (setup settings caps) in
/-- **A start establishes everything or undoes everything, unless the root fails**: then the session is as it was,
but the browser, the driver and the page are still there. -/
theorem started_or_undone (fresh : s.Fresh) (honest : t.Honest b) (idle : t.host = {}) {v w : Json}
    (closes : b .closeBrowser = .ok v) (stops : b .stopDriver = .ok w) :
    match first? settings caps b (.driver :: loading ++ [.root]) with
    | some (step, f) =>
      Undone s f (startOn setup settings caps b s t).last ∧
        (startOn setup settings caps b s t).Runs b (if step = .root then ⟨true, true, true⟩ else {})
    | none =>
      Established s (startOn setup settings caps b s t).last ∧
        (startOn setup settings caps b s t).Runs b ⟨true, true, true⟩ := by
  obtain ⟨t', honest, starts, host⟩ := Host.exec_start closes stops honest idle
  rw [Host.first?_append]
  cases first : first? settings caps b (.driver :: loading) with
  | some failure =>
    obtain ⟨step, f⟩ := failure
    have early : step ≠ .root := by
      rintro rfl
      exact absurd (Host.mem_of_first? first).1 (by decide)
    rw [first] at starts host
    obtain ⟨undone, track⟩ := @startOn_refused setup s f settings caps b t t' fresh starts
    simp only [Option.or, if_neg early]
    refine ⟨undone, track ▸ host, ?_⟩
    rw [track, honest, host]
    rfl
  | none =>
    rw [first] at starts host
    have page : t'.host.page = true := by rw [host]; rfl
    have runs : (startOn setup settings caps b s t).Runs b ⟨true, true, true⟩ := runs_opened fresh starts honest host
    cases root : b Host.Call.createRoot.operation with
    | error f =>
      have fails : Step.root.fault? settings caps b = some f := by rw [Step.fault?, root, Host.failure?_error]
      rw [Host.first?_of_fails fails]
      refine ⟨?_, runs⟩
      rw [startOn_opened fresh starts page, root]
      exact undone_rooted fresh
    | ok v =>
      have done : Step.root.fault? settings caps b = none := by rw [Step.fault?, root, Host.failure?_ok]
      rw [Host.first?_of_done done]
      refine ⟨?_, runs⟩
      rw [startOn_opened fresh starts page, root]
      exact established_rooted fresh _

/-- a session that nobody has started -/
def unopened : Session := { buffer := .ofText "a", components := 0, example_ := "button" }

def bare : Capabilities := { components := [], mockData := default, icons := [] }

/-- a browser whose page cannot make a root -/
def rootless : Browser
  | .install _ => .ok (.arr [])
  | .evaluate _ _ => .error (.runtime "ReactDOM is not defined")
  | _ => .ok .null

theorem first?_rootless : first? {} bare rootless (.driver :: loading ++ [.root]) =
    some (.root, .runtime "ReactDOM is not defined") := by
  have names : bare.names = [] := by simp [bare, Capabilities.names, sortNames]
  have checked : Step.names.fault? {} bare rootless = none := by
    show Host.failure? (Host.checkReported bare (.arr [])) = none
    rw [Host.checkReported, names]
    rfl
  show first? {} bare rootless [.names, .compiler, .root] = _
  rw [Host.first?_of_done checked]
  rfl

theorem started_or_undone_rootless :
    unopened.Fresh ∧ Track.Honest rootless { host := {} } ∧ rootless .closeBrowser = .ok .null ∧
    rootless .stopDriver = .ok .null ∧
    Undone unopened (.runtime "ReactDOM is not defined")
      (startOn default {} bare rootless unopened { host := {} }).last ∧
    (startOn default {} bare rootless unopened { host := {} }).Runs rootless ⟨true, true, true⟩ := by
  have fresh : unopened.Fresh := ⟨Desk.idle_engine {}, rfl, rfl, rfl, rfl, fun _ => rfl⟩
  have outcome := started_or_undone default {} bare fresh (t := { host := {} }) (b := rootless) rfl rfl rfl rfl
  rw [first?_rootless] at outcome
  exact ⟨fresh, rfl, rfl, rfl, outcome⟩

end SnippetStudio.Session
