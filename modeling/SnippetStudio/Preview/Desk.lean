import SnippetStudio.Preview.Render
import SnippetStudio.Preview.Roster

/-!
# Calls under way

Calls on one preview may overlap: each waits for the page now and then, and others go on in between.
The `Desk` keeps the engine, the calls that wait, and whose turn it is to change the page: one call
holds the page, the others queue in the order in which they came.

A `Move` is one thing that happens: a call begins, gets its answer, goes on after a pause or because it
has the page now, or is cancelled.  `Desk.move` is total, and says what follows (`Signal`).  Any list of
moves is a run; moves that do not fit are passed over.
-/

namespace SnippetStudio.Preview

inductive Command where
  | makeRoot
  | render (source : String)
  | refresh
  | shutdown
  | html
  | screenshot
deriving Repr, DecidableEq

/-- what a finished call gives -/
inductive Result where
  | nothing
  | flag (b : Bool)
  /-- what the page shows -/
  | html (v : Json)
  | image (bytes : Bytes)
deriving Repr

/-- a call that waits -/
inductive Call where
  | makeRoot
  | render (r : Render)
  | shutdown
  | html
  | screenshot
deriving Repr

inductive Signal where
  /-- a line for the log, which takes every line -/
  | said (line : String)
  /-- a call waits for the page's answer -/
  | asked (call : Nat) (request : Request)
  /-- a call waits for a moment -/
  | paused (call : Nat)
  /-- a call may go on -/
  | woke (call : Nat)
  /-- a call that is to be cancelled -/
  | stopped (call : Nat)
  | returned (call : Nat) (result : Except Fault Result)

structure Desk where
  engine : Engine := {}
  calls : Roster Call := {}
  /-- the call that may change the page -/
  holder : Option Nat := none
  /-- the calls that wait for the page -/
  queue : List Nat := []
deriving Inhabited

inductive Move where
  | start (call : Nat) (c : Command)
  | answer (call : Nat) (o : Outcome)
  | resume (call : Nat)
  | cancel (call : Nat)

namespace Desk

def put (d : Desk) (n : Nat) (c : Call) : Desk := { d with calls := d.calls.put n c }

/-- the page goes to the first call in the queue -/
def pass (d : Desk) : Desk × List Signal :=
  match d.queue with
  | [] => ({ d with holder := none }, [])
  | m :: q => ({ d with holder := some m, queue := q }, [.woke m])

/-- a call is over: what it held goes on to the next -/
def leave (d : Desk) (n : Nat) (result : Except Fault Result) : Desk × List Signal :=
  let d := { d with calls := d.calls.drop n, queue := d.queue.filter (· != n) }
  let (d, signals) := if d.holder = some n then d.pass else (d, [])
  (d, signals ++ [.returned n result])

/-- what follows from a turn of a call that does not want the page -/
def settleHeld (d : Desk) (n : Nat) (t : Turn) : Desk × List Signal :=
  let said := t.lines.map Signal.said
  let d := { d with engine := t.engine }
  match t.next with
  | .ask request => (d.put n (.render t.render), said ++ [.asked n request])
  | .pause => (d.put n (.render t.render), said ++ [.paused n])
  | .want _ => (d.put n (.render t.render), said)
  | .done => let (d, signals) := d.leave n (.ok .nothing); (d, said ++ signals)
  | .failed f => let (d, signals) := d.leave n (.error f); (d, said ++ signals)

/-- the call has the page now -/
def enter (d : Desk) (n : Nat) (r : Render) (w : Work) : Desk × List Signal :=
  settleHeld { d with holder := some n } n (r.enter d.engine w)

/-- what follows from a turn: a call that wants the page gets it at once if it is free -/
def settle (d : Desk) (n : Nat) (t : Turn) : Desk × List Signal :=
  match t.next with
  | .want w =>
    let said := t.lines.map Signal.said
    let d := { d with engine := t.engine }
    match d.holder with
    | none => let (d, signals) := d.enter n t.render w; (d, said ++ signals)
    | some _ => ({ d.put n (.render t.render) with queue := d.queue ++ [n] }, said)
  | _ => settleHeld d n t

/-- a render of a new version begins -/
def startRender (d : Desk) (n : Nat) (source : String) : Desk × List Signal :=
  let e := d.engine.request source
  settle d n (Render.poll e { version := e.version, source })

/-- a call that asks the page once -/
def askOnce (d : Desk) (n : Nat) (c : Call) (request : Request) : Desk × List Signal :=
  (d.put n c, [.asked n request])

def refuse (d : Desk) (n : Nat) (o : Engine.Operation) : Desk × List Signal :=
  (d, [.returned n (.error (Engine.notInitialized o))])

def start (d : Desk) (n : Nat) : Command → Desk × List Signal
  | .makeRoot =>
    if d.engine.initialized then
      (d, [.said "[preview] Already initialized, keeping the existing root", .returned n (.ok .nothing)])
    else askOnce d n .makeRoot .createRoot
  | .render source =>
    if d.engine.initialized then startRender d n source else refuse d n .render
  | .refresh =>
    if !d.engine.initialized then refuse d n .refresh
    else match d.engine.source with
      | none => (d, [.said "[preview] Nothing to refresh yet", .returned n (.ok .nothing)])
      | some source =>
        let line := if d.engine.lastRendered = some source then
            "[preview] Refresh: source unchanged, re-running"
          else "[preview] Refresh: retrying source that has not rendered yet"
        let (d, signals) := startRender d n source
        (d, .said line :: signals)
  | .shutdown =>
    let e := { d.engine with initialized := false, version := d.engine.version + 1 }
    askOnce { d with engine := e } n .shutdown .stop
  | .html => if d.engine.initialized then askOnce d n .html .html else refuse d n .html
  | .screenshot =>
    if d.engine.initialized then askOnce d n .screenshot .screenshot else refuse d n .screenshot

/-- the root is there -/
def initialized (d : Desk) (n : Nat) (created : Bool) : Desk × List Signal :=
  let said := if created then [] else [Signal.said "[preview] Host already had a root, reusing it"]
  let (d, signals) := { d with engine := { d.engine with initialized := true } }.leave n (.ok .nothing)
  (d, said ++ .said "[preview] Mount root ready" :: signals)

def answer (s : Setup) (d : Desk) (n : Nat) (o : Outcome) : Desk × List Signal :=
  match d.calls.find? n, o with
  | none, _ => (d, [])
  | some (.render r), o =>
    match r.point with
    | .pause | .queue _ => (d, [])
    | _ => settle d n (r.answer s d.engine o)
  | some _, .error f => d.leave n (.error f)
  | some .makeRoot, .ok reply => d.initialized n reply.ok
  | some .shutdown, .ok _ => d.leave n (.ok .nothing)
  | some .html, .ok reply => d.leave n (.ok (.html reply.html))
  | some .screenshot, .ok reply => d.leave n (.ok (.image reply.image))

/-- a pause is over, or the call has the page now -/
def resume (d : Desk) (n : Nat) : Desk × List Signal :=
  match d.calls.find? n with
  | some (.render r) =>
    match r.point with
    | .pause => settle d n (r.poll d.engine)
    | .queue w => if d.holder = some n then d.enter n r w else (d, [])
    | _ => (d, [])
  | _ => (d, [])

def cancel (d : Desk) (n : Nat) : Desk × List Signal :=
  match d.calls.find? n with
  | none => (d, [])
  | some _ => d.leave n (.error .cancelled)

def move (s : Setup) (d : Desk) : Move → Desk × List Signal
  | .start n c => if (d.calls.find? n).isSome then (d, []) else d.start n c
  | .answer n o => d.answer s n o
  | .resume n => d.resume n
  | .cancel n => d.cancel n

/-- a run: the state at its end, and everything that happened -/
def run (s : Setup) (d : Desk) : List Move → Desk × List Signal
  | [] => (d, [])
  | m :: ms =>
    let (d, first) := d.move s m
    let (d, rest) := run s d ms
    (d, first ++ rest)

end Desk

end SnippetStudio.Preview
