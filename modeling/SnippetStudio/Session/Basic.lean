import SnippetStudio.Buffer.Basic
import SnippetStudio.Examples
import SnippetStudio.Preview.Desk

/-!
# Sessions

A session is one running preview: a page, a desk of calls on it, and a buffer whose changes are
rendered.  While it runs, the engine's render is registered in the buffer.  Starting it opens the page, makes
the root and sets off the first render, which nobody waits for; stopping it cancels that render
and closes the page.

What is under way is an `Activity`, known by a number; its calls at the desk carry the same number.
`Session.move` is one thing that happens, as `Desk.move` is.
-/

namespace SnippetStudio

open Preview

/-- the engine's render, as a listener -/
inductive Follower where
  | render
deriving Repr, DecidableEq

namespace Session

inductive Command where
  | start
  | stop
  /-- wait for the first render -/
  | wait
  | edit (e : Edit)
  | loadExample (name : String)
  | engine (c : Preview.Command)
deriving Repr, DecidableEq

inductive Activity where
  /-- the page is being loaded -/
  | opening
  /-- the root is being made -/
  | rooting
  /-- the first render before its first step, with the text that it is to show -/
  | first (text : String)
  /-- one call at the desk, whose result is the activity's -/
  | plain
  /-- a listener is being told; the others are to follow -/
  | announcing (a : Announcement Follower) (result : Bool)
  /-- waits for the first render to end -/
  | joining
  /-- the first render has ended -/
  | joined (result : Except Fault Result)
  /-- a stop that waits for the first render to end -/
  | stopping
  /-- the page is being closed -/
  | closing

/-- the first render: its number, whether it is to be cancelled at its next step, and how it ended -/
structure First where
  number : Nat
  doomed : Bool := false
  ended : Option (Except Fault Result) := none

end Session

structure Session where
  desk : Desk := {}
  buffer : Buffer Follower
  /-- how many components the page is loaded with -/
  components : Nat
  /-- the example at the start -/
  example_ : String
  started : Bool := false
  /-- the engine's render is registered by this session -/
  subscribed : Bool := false
  first : Option Session.First := none
  activities : Roster Session.Activity := {}
  /-- the number of the next activity -/
  next : Nat := 0

namespace Session

inductive Move where
  | start (c : Command)
  | answer (n : Nat) (o : Outcome)
  | resume (n : Nat)
  | cancel (n : Nat)

/-- the buffer with the engine's render registered -/
def subscribe (s : Session) : Session :=
  { s with buffer := s.buffer.subscribe .render, subscribed := true }

def unsubscribe (s : Session) : Session :=
  if s.subscribed then { s with buffer := s.buffer.unsubscribe .render, subscribed := false } else s

def put (s : Session) (n : Nat) (a : Activity) : Session :=
  { s with activities := s.activities.put n a }

/-- the activities that wait for the first render, the longest waiting first -/
def joiners (s : Session) : List Nat :=
  (s.activities.entries.filterMap fun e => match e.2 with
    | .joining => some e.1
    | .stopping => some e.1
    | _ => none).mergeSort

/-- an activity that waits for the first render learns how it ended -/
def Activity.join (result : Except Fault Result) : Activity → Activity
  | .joining => .joined result
  | a => a

/-- an activity is over; the end of the first render wakes those who wait for it -/
def finish (s : Session) (n : Nat) (result : Except Fault Result) : Session × List Signal :=
  let s := { s with activities := s.activities.drop n }
  match s.first with
  | some f =>
    if f.number = n then
      let woken := s.joiners
      ({ s with first := some { f with ended := some result }
                activities := ⟨s.activities.entries.map fun e => (e.1, e.2.join result)⟩ },
        .returned n result :: woken.map .woke)
    else (s, [.returned n result])
  | none => (s, [.returned n result])

/-- the first render is on its way -/
def launch (s : Session) (n : Nat) : Session × List Signal :=
  let s := s.subscribe
  let number := s.next
  let s := { (s.put number (.first s.buffer.text)) with
    first := some { number }, next := number + 1, started := true }
  let (s, signals) := s.finish n (.ok .nothing)
  (s, .woke number :: .said ("[session] Started with example '" ++ s.example_ ++ "'") :: signals)

/-- the result of a call at the desk; `none` where the call goes on -/
def returned? (signals : List Signal) (n : Nat) : Option (Except Fault Result) :=
  signals.findSome? fun
    | .returned m result => if m = n then some result else none
    | _ => none

/-- what the desk says, without the ends of its calls -/
def passed (signals : List Signal) : List Signal :=
  signals.filter fun
    | .returned .. => false
    | _ => true

/-- a call at the desk by an activity that ends with it -/
def last (s : Session) (n : Nat) (step : Desk × List Signal) : Session × List Signal :=
  let s := { s with desk := step.1 }
  match returned? step.2 n with
  | none => (s, step.2)
  | some result => let (s, signals) := s.finish n result; (s, passed step.2 ++ signals)

/-- listeners are told one after the other, until one takes its time -/
def tell (s : Session) (n : Nat) (result : Bool) (text : String) :
    List Follower → Session × List Signal
  | [] => s.finish n (.ok (.flag result))
  | .render :: rest =>
    let (desk, signals) := s.desk.start n (.render text)
    let s := { s with desk }
    match returned? signals n with
    | none => (s.put n (.announcing ⟨text, rest⟩ result), signals)
    | some (.error f) => let (s, more) := s.finish n (.error f); (s, passed signals ++ more)
    | some (.ok _) => let (s, more) := s.tell n result text rest; (s, passed signals ++ more)

def announce (s : Session) (n : Nat) (e : Edit) : Session × List Signal :=
  let edited := s.buffer.edit e
  let s := { s with buffer := edited.buffer }
  match edited.announcement with
  | none => s.finish n (.ok (.flag edited.result))
  | some a => s.tell n edited.result a.text a.listeners

/-- the page is closed -/
def close (s : Session) (n : Nat) : Session × List Signal :=
  let s := { (s.put n .closing) with first := none }
  let (desk, signals) := s.desk.start n .shutdown
  ({ s with desk }, signals)

def stop (s : Session) (n : Nat) : Session × List Signal :=
  let s := s.unsubscribe
  match s.first with
  | some ⟨number, _, none⟩ =>
    ({ (s.put n .stopping) with first := some { number, doomed := true } }, [.stopped number])
  | _ => s.close n

/-- an activity begins -/
def begin (s : Session) (n : Nat) : Command → Session × List Signal
  | .start =>
    if s.started then s.finish n (.ok .nothing)
    else (s.put n .opening, [.asked n (.start s.components)])
  | .stop => s.stop n
  | .wait =>
    match s.first with
    | none => s.finish n (.ok .nothing)
    | some ⟨_, _, some result⟩ => s.finish n result
    | some ⟨_, _, none⟩ => (s.put n .joining, [])
  | .edit e => s.announce n e
  | .loadExample name =>
    match Examples.get name with
    | .error f => s.finish n (.error f)
    | .ok text => s.announce n (.set text)
  | .engine c => (s.put n .plain).last n (s.desk.start n c)

/-- the desk has gone on with a call of an activity -/
def went (s : Session) (n : Nat) (step : Desk × List Signal) : Session × List Signal :=
  match s.activities.find? n, returned? step.2 n with
  | some (.announcing a result), some (.ok _) =>
    let (s, more) := { s with desk := step.1 }.tell n result a.text a.listeners
    (s, passed step.2 ++ more)
  | some .rooting, some (.ok _) =>
    let (s, more) := { s with desk := step.1 }.launch n
    (s, passed step.2 ++ more)
  | some .closing, some (.ok _) =>
    let (s, more) := { s with desk := step.1, started := false }.finish n (.ok .nothing)
    (s, passed step.2 ++ .said "[session] Stopped" :: more)
  | _, _ => s.last n step

def answer (setup : Setup) (s : Session) (n : Nat) (o : Outcome) : Session × List Signal :=
  match s.activities.find? n with
  | some .opening =>
    match o with
    | .error f => s.finish n (.error f)
    | .ok _ => (s.put n .rooting).went n (s.desk.start n .makeRoot)
  | some _ => s.went n (s.desk.answer setup n o)
  | none => (s, [])

def resume (s : Session) (n : Nat) : Session × List Signal :=
  match s.activities.find? n with
  | some (.first text) => (s.put n .plain).last n (s.desk.start n (.render text))
  | some (.joined result) => s.finish n result
  | some .stopping =>
    match s.first with
    | some ⟨_, _, none⟩ => (s, [])
    | _ => s.close n
  | some _ => s.went n (s.desk.resume n)
  | none => (s, [])

/-- an activity is cancelled -/
def cancel (s : Session) (n : Nat) : Session × List Signal :=
  match s.activities.find? n with
  | some (.first _) => s.finish n (.error .cancelled)
  | some _ => s.went n (s.desk.cancel n)
  | none => (s, [])

/-- the first render, once it is to be cancelled, does nothing else -/
def isDoomed (s : Session) (n : Nat) : Bool :=
  match s.first with
  | some f => f.doomed && f.number == n
  | none => false

def move (setup : Setup) (s : Session) : Move → Session × List Signal
  | .start c => begin { s with next := s.next + 1 } s.next c
  | .answer n o => if s.isDoomed n then (s, []) else s.answer setup n o
  | .resume n => if s.isDoomed n then (s, []) else s.resume n
  | .cancel n => s.cancel n

/-- what the session shows of itself: the engine's status, which also tells the snippet -/
def snapshot (s : Session) : List (String × Json) :=
  Json.merge [("source", .str s.buffer.text)] s.desk.engine.status

end Session

end SnippetStudio
