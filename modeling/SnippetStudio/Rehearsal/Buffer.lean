import SnippetStudio.Buffer.Telling
import SnippetStudio.Rehearsal.Steps

/-!
# A rehearsed buffer

Steps on a buffer with scripted listeners.  Rules for single texts let a listener fail, or take a step of its
own before the next listener is told: of all the runs of `Telling` this is the one in which whoever was
told goes on at once.  A step may make listeners take steps that make listeners take steps: `depth` bounds
how far this goes.
-/

namespace SnippetStudio.Rehearsal

structure Listener where
  id : String
  /-- what to do when told a text -/
  rules : List Json
deriving Inhabited

structure Bench where
  telling : Telling String
  /-- the listeners by their names -/
  known : List (String × Listener) := []
  /-- which listener a registration belongs to, by the registration's name -/
  handles : List (String × String) := []

namespace Bench

def text (b : Bench) : String := b.telling.buffer.text

def move (b : Bench) (m : Telling.Move String) : Bench := { b with telling := b.telling.move m }

/-- the text is changed behind the back of the buffer -/
def overwrite (b : Bench) (text : String) : Bench :=
  let buffer := b.telling.buffer
  { b with telling.buffer := { buffer with surface := buffer.surface.set text } }

/-- register a listener: one known by its name stays what it is -/
def subscribe (b : Bench) (step : Json) : Bench :=
  let id := textOf "id" step
  let rules := ((step.field? "on").bind (·.items?)).getD []
  let known := if (Json.get? id b.known).isSome then b.known else b.known ++ [(id, ⟨id, rules⟩)]
  let handle := ((step.field? "sub").bind (·.str?)).getD id
  { b with known, handles := Json.put handle id b.handles }.move (.subscribe id)

def unsubscribe (b : Bench) (handle : String) : Except Fault Bench :=
  match Json.get? handle b.handles with
  | some id => .ok (b.move (.unsubscribe id))
  | none => .error (.key handle)

mutual

/-- one step: the bench behind it, and how the step ended -/
def step (depth : Nat) (b : Bench) (s : Json) : Bench × Except Fault Json :=
  match deed s with
  | "get" => (b, .ok (.str b.text))
  | "set" => edit depth b (.set (textOf "value" s))
  | "undo" => edit depth b .undo
  | "redo" => edit depth b .redo
  | "surface_set" => (b.overwrite (textOf "value" s), .ok .null)
  | "subscribe" => (b.subscribe s, .ok .null)
  | "unsubscribe" =>
    match b.unsubscribe (textOf "sub" s) with
    | .ok b => (b, .ok .null)
    | .error f => (b, .error f)
  | "raise" => (b, .error (faultOf ((s.field? "raise").getD .null)))
  | _ => (b, .ok .null)
termination_by (depth, 1, 0)

def edit (depth : Nat) (b : Bench) (e : Edit) : Bench × Except Fault Json :=
  let edited := b.telling.buffer.edit e
  let n := b.telling.next
  let b := b.move (.edit e)
  match edited.announcement, depth with
  | none, _ => (b, .ok (.bool edited.result))
  | some _, 0 => (b, .ok (.bool edited.result))
  | some a, depth + 1 =>
    match serve depth b n a.text a.listeners with
    | (b, .ok _) => (b, .ok (.bool edited.result))
    | (b, .error f) => (b, .error f)
termination_by (depth, 0, 0)

/-- listeners follow their rules one after the other, until one fails; the first of them has been told -/
def serve (depth : Nat) (b : Bench) (n : Nat) (text : String) :
    List String → Bench × Except Fault Unit
  | [] => (b, .ok ())
  | id :: ids =>
    let rules := ((Json.get? id b.known).getD default).rules.filter fun r => textOf "text" r == text
    match obey depth b rules with
    | (b, .ok _) => serve depth (b.move (.resume n)) n text ids
    | (b, .error f) => (b.move (.fail n), .error f)
termination_by ids => (depth, 3, ids.length)

/-- the steps of a listener taken one after the other, until one fails -/
def obey (depth : Nat) (b : Bench) : List Json → Bench × Except Fault Unit
  | [] => (b, .ok ())
  | r :: rs =>
    match step depth b r with
    | (b, .ok _) => obey depth b rs
    | (b, .error f) => (b, .error f)
termination_by rs => (depth, 2, rs.length)

end

def observe (b : Bench) : List (String × Json) :=
  let told (k : Notice String) : Json := .arr [.str k.listener, .str k.text]
  [("value", .str b.text), ("notified", .arr (b.telling.notices.map told))] ++
    match b.telling.buffer.surface with
    | .memory t => [("can_undo", .bool t.canUndo), ("can_redo", .bool t.canRedo)]
    | .fixed .. => []

/-- how deep listeners may answer listeners -/
def depth : Nat := 900

/-- the report on one step -/
def report (acc : Bench × List Json) (s : Json) : Bench × List Json :=
  let (b, ended) := step depth { acc.1 with telling.notices := [] } s
  let own := match ended with
    | .ok v => [("result", v)]
    | .error f => [("error", .str f.kind.label), ("message", .str f.message)]
  (b, acc.2 ++ [.obj (own ++ b.observe)])

/-- the surface in a script -/
def surfaceOf (v : Json) (initial : Option String) : Surface :=
  let text := textOf "initial" v
  let flag (key : String) := (v.field? key).bind (·.bool?)
  match v, flag "undo", flag "redo" with
  | .obj _, none, none =>
    let tape := Tape.ofText text
    .memory (match initial with
      | some t => tape.set t
      | none => tape)
  | .obj _, u, r => .fixed text (u.getD false) (r.getD false)
  | _, _, _ => .memory (.ofText (initial.getD ""))

end Bench

/-- what there is to see at the beginning, and the reports on all steps -/
def bufferReports (surface : Json) (initial : Option String) (steps : List Json) :
    List (String × Json) × List Json :=
  let b : Bench := { telling := { buffer := ⟨Bench.surfaceOf surface initial, []⟩ } }
  (b.observe, (steps.foldl Bench.report (b, [])).2)

end SnippetStudio.Rehearsal
