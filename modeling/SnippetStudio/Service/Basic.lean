import SnippetStudio.Service.Handler

/-!
# The service

A call is routed to its endpoint and answered (`respond`).  Pages of any origin may call: a
reply names the origin that asked, and a page may ask beforehand whether it may use a method
(`permission`).  Only the reply to what nobody is prepared for names no origin.
-/

namespace SnippetStudio.Service

/-! ## Origins -/

/-- the methods that any origin may use -/
def methods : List String := ["DELETE", "GET", "HEAD", "OPTIONS", "PATCH", "POST", "PUT"]

def originHeaders (origin : String) : List (String × String) :=
  [("access-control-allow-origin", origin), ("access-control-allow-credentials", "true")]

/-- the reply to the question whether an origin may use a method -/
def permission (origin method : String) : Reply where
  status := if methods.contains method then 200 else 400
  headers := originHeaders origin
  content := .plain (if methods.contains method then "OK" else "Disallowed CORS method")

def Reply.withOrigin (origin : Option String) (r : Reply) : Reply :=
  match origin with
  | some o => { r with headers := r.headers ++ originHeaders o }
  | none => r

/-! ## Replies -/

variable {τ : Type}

/-- the end of a handler as a reply; what nobody is prepared for goes out as it is -/
def reply (origin : Option String) : Except Halt Content → Reply
  | .ok c => (Reply.ofContent c).withOrigin origin
  | .error (.broken f) => .ofHalt (.broken f)
  | .error h => (Reply.ofHalt h).withOrigin origin

def answer [Sub τ] [OfNat τ 0] (k : Setup τ) (origin : Option String) (c : Call) : Job τ Reply :=
  match route c.method c.path with
  | .unknown => return (Reply.detail 404 (.str "Not Found")).withOrigin origin
  | .wrongMethod => return (Reply.detail 405 (.str "Method Not Allowed")).withOrigin origin
  | .moved => return Reply.withOrigin origin { status := 307, content := .nothing }
  | .found e => do return reply origin (← (handle k (.of k.machine.depth c) e).run)

/-- the reply to a call -/
def respond [Sub τ] [OfNat τ 0] (k : Setup τ) (c : Call) : Job τ Reply :=
  let origin := c.header? "origin"
  match origin, c.method == "OPTIONS", c.header? "access-control-request-method" with
  | some o, true, some method => return permission o method
  | _, _, _ => answer k origin c

end SnippetStudio.Service
