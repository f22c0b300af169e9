/-!
# Undo history

The history of a text: what came before, the nearest text first, the current text, and what was undone,
the nearest first.  An edit that changes the text forgets what was undone; one that does not change it
keeps everything.

Edits are made one after the other (`Edit.run`), on whatever takes them and answers.
-/

namespace SnippetStudio

/-- what can be done to a text with a history -/
inductive Edit where
  | set (text : String)
  | undo
  | redo
deriving Repr, DecidableEq

/-- edits one after the other: what they lead to, and the answers to them -/
def Edit.run {σ α : Type} (step : σ → Edit → σ × α) (s : σ) : List Edit → σ × List α
  | [] => (s, [])
  | e :: es =>
    let (s', a) := step s e
    let (s'', as) := run step s' es
    (s'', a :: as)

structure History where
  past : List String := []
  current : String
  future : List String := []
deriving Repr, DecidableEq, Inhabited

namespace History

def set (h : History) (text : String) : History :=
  if text = h.current then h else ⟨h.current :: h.past, text, []⟩

/-- one step back, and whether there was one -/
def undo (h : History) : History × Bool :=
  match h.past with
  | [] => (h, false)
  | t :: ts => (⟨ts, t, h.current :: h.future⟩, true)

/-- one step forward, and whether there was one -/
def redo (h : History) : History × Bool :=
  match h.future with
  | [] => (h, false)
  | t :: ts => (⟨h.current :: h.past, t, ts⟩, true)

/-- an edit; setting a text answers nothing -/
def edit (h : History) : Edit → History × Option Bool
  | .set text => (h.set text, none)
  | .undo => (h.undo.1, some h.undo.2)
  | .redo => (h.redo.1, some h.redo.2)

end History

end SnippetStudio
