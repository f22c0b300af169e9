import SnippetStudio.Rehearsal.Page
import SnippetStudio.Session.Basic

/-!
# Rehearsals

A rehearsal plays commands on a preview, or on a session, against a scripted page, one command after the
other.  What may go on stands in a queue and goes on in its order: an answer that is not held back
comes at once, before anything else; a call that waited for a moment, for the page, or behind a gate goes
to the end of the queue.

After each command the rehearsal goes on until it is quiet: the queue is empty, or holds only
polls of a compiler that will not be ready (`Scene.isQuiet`).
-/

namespace SnippetStudio.Rehearsal

open Preview

/-- what is rehearsed: a state that commands and answers move on -/
structure Play (σ κ : Type) where
  /-- the number that a command gets, and what follows -/
  start : σ → κ → Nat × σ × List Signal
  answer : σ → Nat → Outcome → σ × List Signal
  resume : σ → Nat → σ × List Signal
  cancel : σ → Nat → σ × List Signal

/-- how a call goes on -/
inductive Cue where
  | answered (t : Ticket)
  /-- a pause is over -/
  | polling
  /-- what was waited for is there -/
  | woken
  | cancelled

def Cue.isPolling : Cue → Bool
  | .polling => true
  | _ => false

structure Scene (σ : Type) where
  state : σ
  page : Page := {}
  queue : List (Nat × Cue) := []
  /-- answers that are held back, the oldest first -/
  held : List (Nat × Ticket) := []
  /-- polls in a row after which nothing had changed -/
  idle : Nat := 0
  events : List Json := []
  lines : List String := []
  results : List (Nat × Except Fault Result) := []

namespace Scene

variable {σ κ : Type}

/-- a call gets a cue at the end of the queue -/
def cue (t : Scene σ) (n : Nat) (c : Cue) : Scene σ := { t with queue := t.queue ++ [(n, c)] }

/-- a call that is to be cancelled gets that cue in place of any other -/
def stop (t : Scene σ) (n : Nat) : Scene σ :=
  if t.queue.any (·.1 == n) then
    { t with queue := t.queue.map fun e => if e.1 = n then (n, .cancelled) else e }
  else { t with held := t.held.filter (·.1 != n) }.cue n .cancelled

def ask (t : Scene σ) (n : Nat) (r : Request) : Scene σ :=
  let (page, events, ticket) := t.page.take r
  let t := { t with page, events := t.events ++ events }
  if page.isHeld ticket then { t with held := t.held ++ [(n, ticket)] }
  else { t with queue := (n, .answered ticket) :: t.queue }

def signal (t : Scene σ) : Signal → Scene σ
  | .said line => { t with lines := t.lines ++ Text.lineTexts line, idle := 0 }
  | .asked n .compilerReady => t.ask n .compilerReady
  | .asked n r => { t with idle := 0 }.ask n r
  | .paused n => { t with idle := t.idle + 1 }.cue n .polling
  | .woke n => { t with idle := 0 }.cue n .woken
  | .stopped n => { t with idle := 0 }.stop n
  | .returned n result => { t with results := t.results ++ [(n, result)], idle := 0 }

def take (t : Scene σ) (step : σ × List Signal) : Scene σ :=
  step.2.foldl signal { t with state := step.1 }

/-- the first cue of the queue is followed -/
def step (play : Play σ κ) (t : Scene σ) : Scene σ :=
  match t.queue with
  | [] => t
  | (n, c) :: queue =>
    let t := { t with queue }
    match c with
    | .answered ticket =>
      let (page, outcome) := t.page.answer ticket
      { t with page }.take (play.answer t.state n outcome)
    | .polling => t.take (play.resume t.state n)
    | .woken => t.take (play.resume t.state n)
    | .cancelled => t.take (play.cancel t.state n)

/-- nothing is left but polls that have found nothing new -/
def isQuiet (t : Scene σ) : Bool :=
  t.queue.isEmpty ||
    (!t.page.script.ready && t.queue.all (·.2.isPolling) && decide (t.queue.length ≤ t.idle))

/-- the queue followed until it is quiet -/
def settle (play : Play σ κ) : Nat → Scene σ → Scene σ
  | 0, t => t
  | fuel + 1, t => if t.isQuiet then t else settle play fuel (t.step play)

/-- enough steps for any script that comes to rest -/
def fuel (t : Scene σ) : Nat := 100000 + 4 * t.page.script.readyAfter

def run (play : Play σ κ) (t : Scene σ) : Scene σ := settle play t.fuel t

/-- a command, and what follows until it is quiet -/
def perform (play : Play σ κ) (t : Scene σ) (c : κ) : Nat × Scene σ :=
  let (n, step) := play.start t.state c
  (n, (t.take step).run play)

/-- a gate opened: the answers behind it come in the order in which they were asked for -/
def openGate (play : Play σ κ) (t : Scene σ) (g : String) : Scene σ :=
  let page := { t.page with openGates := if t.page.openGates.contains g then t.page.openGates
    else g :: t.page.openGates }
  let freed : List (Nat × Cue) :=
    (t.held.filter fun e => !page.isHeld e.2).map fun e => (e.1, .answered e.2)
  let held := t.held.filter fun e => page.isHeld e.2
  { t with page, held, queue := t.queue ++ freed, idle := 0 }.run play

def closeGate (t : Scene σ) (g : String) : Scene σ :=
  { t with page := { t.page with openGates := t.page.openGates.filter (· != g) } }

/-- the page follows a changed script -/
def rescript (play : Play σ κ) (t : Scene σ) (keys : Json) : Scene σ :=
  { t with page := { t.page with script := t.page.script.update keys }, idle := 0 }.run play

def resultOf (t : Scene σ) (n : Nat) : Option (Except Fault Result) :=
  (t.results.find? fun e => e.1 == n).map (·.2)

end Scene

/-- the calls on one preview -/
def desk (setup : Setup) : Play (Desk × Nat) Preview.Command where
  start s c := let (d, signals) := s.1.move setup (.start s.2 c); (s.2, (d, s.2 + 1), signals)
  answer s n o := let (d, signals) := s.1.move setup (.answer n o); ((d, s.2), signals)
  resume s n := let (d, signals) := s.1.move setup (.resume n); ((d, s.2), signals)
  cancel s n := let (d, signals) := s.1.move setup (.cancel n); ((d, s.2), signals)

/-- a session -/
def session (setup : Setup) : Play Session Session.Command where
  start s c := (s.next, s.move setup (.start c))
  answer s n o := s.move setup (.answer n o)
  resume s n := s.move setup (.resume n)
  cancel s n := s.move setup (.cancel n)

end SnippetStudio.Rehearsal
