import SnippetStudio.Diagnostic.Description
import SnippetStudio.Json.Plain
import SnippetStudio.Preview.Request
import SnippetStudio.Rehearsal.Fault
import SnippetStudio.Text.Scan

/-!
# A scripted page

A page that follows a script instead of running snippets.  For compiling, evaluating and mounting the script
has rules: the first rule that fits the argument and has uses left decides the answer, and may hold it
back behind a gate until the gate is open.

A request is taken in two steps, because an answer may be held back: `Page.take` records the request
and chooses the rule, `Page.answer` gives the answer.
-/

namespace SnippetStudio.Rehearsal

open Preview

structure Rule where
  /-- must occur in the argument -/
  part : String := ""
  /-- how often the rule may still be used -/
  uses : Option Nat := none
  gate : Option String := none
  fault : Option Fault := none
  reply : Option Reply := none
deriving Inhabited

namespace Rule

def fits (r : Rule) (argument : String) : Bool :=
  r.uses != some 0 && Text.contains r.part.toList argument.toList

def used (r : Rule) : Rule := { r with uses := r.uses.map (· - 1) }

/-- the rule for an argument, and the rules with one use of it gone -/
def choose (argument : String) : List Rule → Option Rule × List Rule
  | [] => (none, [])
  | r :: rs =>
    if r.fits argument then (some r, r.used :: rs)
    else let (found, rs) := choose argument rs; (found, r :: rs)

end Rule

structure Script where
  ready : Bool := true
  /-- how many polls of the compiler are answered with no in any case -/
  readyAfter : Nat := 0
  rootExists : Bool := false
  transform : List Rule := []
  instantiate : List Rule := []
  mount : List Rule := []
  /-- wrapped snippets are recorded themselves, not by their length -/
  showText : Bool := false
  startFault : Option Fault := none
  panelFault : Option Fault := none
  htmlFault : Option Fault := none
  screenshotFault : Option Fault := none
deriving Inhabited

structure Page where
  script : Script := {}
  polls : Nat := 0
  transforms : Nat := 0
  hasRoot : Bool := false
  /-- the text that was evaluated and not yet mounted -/
  pending : Json := .null
  html : Json := .str ""
  openGates : List String := []
deriving Inhabited

/-- a request that was recorded, with the rule chosen for it -/
structure Ticket where
  request : Request
  rule : Rule := {}
  /-- the compiled text of a transform, or the text that is mounted -/
  code : Json := .null

namespace Page

private def event (name : String) (arguments : List Json) : Json := .arr (.str name :: arguments)

/-- the text of an argument in which rules look for their part -/
def argumentText (code : Json) : String := if code.isNull then "" else Json.plain code

/-- the request is recorded -/
def take (p : Page) (r : Request) : Page × List Json × Ticket :=
  match r with
  | .start n => (p, [event "start" [.int n]], { request := r })
  | .createRoot => (p, [event "create_root" []], { request := r })
  | .compilerReady => ({ p with polls := p.polls + 1 }, [], { request := r })
  | .transform text =>
    let (rule, rules) := Rule.choose text p.script.transform
    let k := p.transforms + 1
    ({ p with transforms := k, script := { p.script with transform := rules } },
      [event "transform" [if p.script.showText then .str text else .int text.length]],
      { request := r, rule := rule.getD {}, code := .str ("code#" ++ toString k) })
  | .instantiate code =>
    let (rule, rules) := Rule.choose (argumentText code) p.script.instantiate
    ({ p with script := { p.script with instantiate := rules } }, [event "instantiate" [code]],
      { request := r, rule := rule.getD {}, code })
  | .mount =>
    let code := p.pending
    let (rule, rules) := Rule.choose (argumentText code) p.script.mount
    ({ p with pending := .null, script := { p.script with mount := rules } },
      [event "mount" [code]], { request := r, rule := rule.getD {}, code })
  | .showError stage message =>
    (p, [event "show_error" [.str stage.label, .str message]], { request := r })
  | .html => (p, [], { request := r })
  | .screenshot => (p, [], { request := r })
  | .stop => (p, [event "stop" []], { request := r })

/-- the answer is held back -/
def isHeld (p : Page) (t : Ticket) : Bool := t.rule.gate.any fun g => !p.openGates.contains g

private def orFault (f : Option Fault) (r : Reply) : Outcome :=
  match f with
  | some f => .error f
  | none => .ok r

def image : Bytes := [0x89, 0x50, 0x4E, 0x47, 0x0D, 0x0A, 0x1A, 0x0A, 0x66, 0x61, 0x6B, 0x65]

/-- the text that a mounted snippet shows where no rule says otherwise -/
def shownCode (code : Json) : Json := .str ("<" ++ Json.plain code ++ ">")

/-- the text of the error panel -/
def panel (stage : Stage) (message : String) : String := "<error " ++ stage.label ++ ">" ++ message

def answer (p : Page) (t : Ticket) : Page × Outcome :=
  match t.request with
  | .start _ => (p, orFault p.script.startFault {})
  | .createRoot => ({ p with hasRoot := true }, .ok { ok := !(p.hasRoot || p.script.rootExists) })
  | .compilerReady => (p, .ok { ok := p.script.ready && decide (p.script.readyAfter < p.polls) })
  | .transform _ => (p, orFault t.rule.fault (t.rule.reply.getD { code := some t.code }))
  | .instantiate _ =>
    let reply := t.rule.reply.getD {}
    match t.rule.fault with
    | some f => (p, .error f)
    | none => ({ p with pending := if reply.ok then t.code else .null }, .ok reply)
  | .mount =>
    let reply := t.rule.reply.getD { html := shownCode t.code }
    match t.rule.fault with
    | some f => (p, .error f)
    | none => (if reply.ok then { p with html := reply.html } else p, .ok reply)
  | .showError stage message =>
    match p.script.panelFault with
    | some f => (p, .error f)
    | none => ({ p with html := .str (panel stage message) }, .ok {})
  | .html => (p, orFault p.script.htmlFault { html := p.html })
  | .screenshot => (p, orFault p.script.screenshotFault { image })
  | .stop => (p, .ok {})

end Page

/-! ## Scripts in JSON -/

/-- a reply of the page; what it leaves out is empty -/
def replyOf (v : Json) : Reply where
  ok := ((v.field? "ok").map Json.truthy).getD false
  code := v.field? "code"
  error := (v.field? "error").getD .null
  html := (v.field? "html").getD (.str "")

/-- a reply that is no record cannot be read -/
def unreadable? (v : Json) : Option Fault := if v.fields?.isSome then none else some (Json.noFields v)

def ruleOf (v : Json) : Rule where
  part := ((v.field? "match").bind (·.str?)).getD ""
  uses := ((v.field? "times").bind (·.int?)).map Int.toNat
  gate := (v.field? "gate").bind (·.str?)
  fault := (fault? "raise" v).or ((v.present? "result").bind unreadable?)
  reply := (v.present? "result").map replyOf

namespace Script

private def rules (v : Json) : List Rule := (v.items?.getD []).map ruleOf

/-- one key of a script set anew -/
def set (s : Script) (f : String × Json) : Script :=
  let flag := f.2.bool?
  let fault := if f.2.isNull then none else some (faultOf f.2)
  match f.1 with
  | "ready" => { s with ready := flag.getD true }
  | "ready_after" => { s with readyAfter := (f.2.int?.getD 0).toNat }
  | "root_exists" => { s with rootExists := flag.getD false }
  | "transform" => { s with transform := rules f.2 }
  | "instantiate" => { s with instantiate := rules f.2 }
  | "mount" => { s with mount := rules f.2 }
  | "show_text" => { s with showText := flag.getD false }
  | "start_raises" => { s with startFault := fault }
  | "show_error_raises" => { s with panelFault := fault }
  | "html_raises" => { s with htmlFault := fault }
  | "screenshot_raises" => { s with screenshotFault := fault }
  | _ => s

/-- the keys of a JSON object set in a script -/
def update (s : Script) (v : Json) : Script := (v.fields?.getD []).foldl set s

end Script

end SnippetStudio.Rehearsal
