import SnippetStudio.Bytes.Base64
import SnippetStudio.Form.Coerce
import SnippetStudio.Json.Reader
import SnippetStudio.Text.Blank
import SnippetStudio.Text.Lines

/-!
# Calls and replies

A call of the service has a method, a path, headers and a content; a reply has a status, headers and a content of
one of six kinds.  `Body.of` reads the content of a call as JSON unless the call says that it is
something else; the fields in a body are taken in by the forms of `Form`.
-/

namespace SnippetStudio.Service

structure Call where
  method : String
  path : List Char
  headers : List (String × String) := []
  content : String := ""

def lowerText (s : String) : String := String.ofList (s.toList.map Char.toLower)

def Call.header? (c : Call) (name : String) : Option String :=
  (c.headers.find? fun h => lowerText h.1 == name).map (·.2)

/-! ## Bodies -/

inductive Body where
  | empty
  | json (v : Json)
  /-- no JSON from this place on -/
  | malformed (place : Nat)
  /-- JSON that cannot be taken in -/
  | unreadable
  /-- something else than JSON -/
  | foreign

/-- a content type that stands for JSON -/
def isJson (contentType : String) : Bool :=
  let name := (Text.trim (Text.upTo ';' contentType.toList)).map Char.toLower
  match Text.cut '/' name with
  | [main, sub] =>
    main == "application".toList && (sub == "json".toList || "+json".toList.isSuffixOf sub)
  | _ => false

/-- a mark of the byte order in front of a text -/
def byteOrderMark : Char := '\uFEFF'

def Body.ofText (depth : Nat) (text : String) : Body :=
  let s := if text.toList.head? == some byteOrderMark then text.toList.drop 1 else text.toList
  match Json.read depth s with
  | .ok v => .json v
  | .error flaw =>
    match flaw.place? s with
    | some place => .malformed place
    | none => .unreadable

def Body.of (depth : Nat) (c : Call) : Body :=
  if c.content.isEmpty then .empty
  else
    match (c.header? "content-type").filter (!·.isEmpty) with
    | none => .ofText depth c.content
    | some type => if isJson type then .ofText depth c.content else .foreign

/-! ## Ways to end early -/

inductive Halt where
  | refused (status : Nat) (detail : String)
  /-- the body is no JSON from this place on -/
  | malformed (place : Nat)
  | invalid (issues : List Form.Issue)
  /-- something failed that nobody is prepared for -/
  | broken (f : Fault)

def notRunning : Halt := .refused 503 "Preview is not running"

/-- the fields in a body; `cause` says what anything else is -/
def Body.fields (cause : Form.Cause) : Body → Except Halt (List (String × Json))
  | empty => .error (.invalid [⟨["body"], .missing⟩])
  | json (.obj fs) => .ok fs
  | json _ => .error (.invalid [⟨["body"], cause⟩])
  | malformed place => .error (.malformed place)
  | unreadable => .error (.refused 400 "There was an error parsing the body")
  | foreign => .error (.invalid [⟨["body"], cause⟩])

/-- one field of a body -/
def Body.field {α : Type} (name : String) (read : Json → Except Form.Cause α) (absent : Except Form.Cause α)
    (b : Body) : Except Halt α := do
  let fields ← b.fields .notObject
  let value := match Json.get? name fields with
    | some v => read v
    | none => absent
  value.mapError fun c => .invalid [⟨["body", name], c⟩]

/-- a text that must be there -/
def Body.text (name : String) : Body → Except Halt String := Body.field name Form.text (.error .missing)

/-- a text that may be missing or null -/
def Body.text? (name : String) : Body → Except Halt (Option String) :=
  Body.field name (Form.optional Form.text) (.ok none)

/-! ## Replies -/

inductive Content where
  | nothing
  | json (v : Json)
  | plain (text : String)
  | page (text : String)
  | image (bytes : Bytes)
  /-- events one after the other -/
  | events (texts : List String)

/-- the media type of a content -/
def Content.type? : Content → Option String
  | nothing => none
  | json _ => some "application/json"
  | plain _ => some "text/plain; charset=utf-8"
  | page _ => some "text/html; charset=utf-8"
  | image _ => some "image/png"
  | events _ => some "text/event-stream; charset=utf-8"

structure Reply where
  status : Nat := 200
  headers : List (String × String) := []
  content : Content

namespace Reply

def detail (status : Nat) (d : Json) : Reply where
  status := status
  content := .json (.obj [("detail", d)])

/-- an issue as callers are told of it -/
def issueJson (label : String) (path : List Json) (message : String) : Json :=
  .obj [("type", .str label), ("loc", .arr path), ("msg", .str message)]

/-- what a caller gets to see of an early end; nothing of what nobody is prepared for -/
def ofHalt : Halt → Reply
  | .refused status d => detail status (.str d)
  | .malformed place =>
    detail 422 (.arr [issueJson "json_invalid" [.str "body", .int place] "JSON decode error"])
  | .invalid issues =>
    detail 422 (.arr (issues.map fun i => issueJson i.cause.label (i.path.map .str) i.cause.message))
  | .broken _ => { status := 500, content := .plain "Internal Server Error" }

/-- headers that keep events from being held back on their way -/
def eventHeaders : List (String × String) :=
  [("cache-control", "no-cache"), ("connection", "keep-alive"), ("x-accel-buffering", "no")]

/-- a content as it is -/
def ofContent (c : Content) : Reply where
  headers := match c with
    | .events _ => eventHeaders
    | _ => []
  content := c

end Reply

end SnippetStudio.Service
