import SnippetStudio.Buffer.Telling

/-!
# Registrations

Whoever registers a listener gets a handle, to give the registration up again (`Registry`).  A handle knows
its listener, and not its registration: when it is called, the first registration of the listener is
removed, if there is one.
-/

namespace SnippetStudio

structure Handle (ι : Type) where
  listener : ι
  /-- it has been called; nothing that a handle does depends on this -/
  called : Bool := false
deriving Repr, DecidableEq

/-- a buffer with the handles that were given out, in their order -/
structure Registry (ι : Type) where
  buffer : Buffer ι
  handles : List (Handle ι) := []
deriving Repr, DecidableEq

namespace Registry

variable {ι : Type} [DecidableEq ι]

inductive Call (ι : Type) where
  | register (l : ι)
  /-- the handle of a number is called -/
  | release (n : Nat)
deriving Repr, DecidableEq

def call (r : Registry ι) : Call ι → Registry ι
  | .register l => { buffer := r.buffer.subscribe l, handles := r.handles ++ [{ listener := l }] }
  | .release n => match r.handles[n]? with
    | none => r
    | some h =>
      { buffer := r.buffer.unsubscribe h.listener, handles := r.handles.set n { h with called := true } }

/-- the end of a run of calls -/
def after (r : Registry ι) (cs : List (Call ι)) : Registry ι := cs.foldl call r

/-- how many times a listener is registered -/
def registered (r : Registry ι) (l : ι) : Nat := r.buffer.listeners.count l

/-- how many handles of a listener have not been called -/
def uncalled (r : Registry ι) (l : ι) : Nat := r.handles.count { listener := l }

theorem after_append (r : Registry ι) (cs cs' : List (Call ι)) :
    r.after (cs ++ cs') = (r.after cs).after cs' := List.foldl_append

theorem after_concat (r : Registry ι) (cs : List (Call ι)) (c : Call ι) :
    r.after (cs ++ [c]) = (r.after cs).call c := after_append r cs [c]

end Registry

end SnippetStudio
