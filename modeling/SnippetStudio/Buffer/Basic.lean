import SnippetStudio.Buffer.Tape

/-!
# The buffer

The buffer is the text that the preview follows.  The text and its history belong to an editing surface
(`Surface`), as a rule a tape in memory; the buffer adds the listeners that are told of a change, in the
order in which they were registered.

An edit gives the new buffer, what it answers, and, if the text changed, an `Announcement`: the new text and
the listeners registered at that moment.  Telling them is up to the caller, because a listener may take
its time.
-/

namespace SnippetStudio

inductive Surface where
  | memory (t : Tape)
  /-- a text that no edit changes, and what undo and redo answer -/
  | fixed (text : String) (undo redo : Bool)
deriving Repr, DecidableEq

namespace Surface

def text : Surface → String
  | memory t => t.current
  | fixed t _ _ => t

def set (s : Surface) (text : String) : Surface :=
  match s with
  | memory t => memory (t.set text)
  | fixed .. => s

/-- the surface behind an undo, and whether there was one -/
def undo (s : Surface) : Surface × Bool :=
  match s with
  | memory t => (memory t.undo.1, t.undo.2)
  | fixed _ u _ => (s, u)

def redo (s : Surface) : Surface × Bool :=
  match s with
  | memory t => (memory t.redo.1, t.redo.2)
  | fixed _ _ r => (s, r)

theorem text_undo {s : Surface} (h : s.undo.2 = false) : s.undo.1.text = s.text := by
  cases s with
  | memory t => exact congrArg Tape.current (Tape.undo_of_not h)
  | fixed => rfl

theorem text_redo {s : Surface} (h : s.redo.2 = false) : s.redo.1.text = s.text := by
  cases s with
  | memory t => exact congrArg Tape.current (Tape.redo_of_not h)
  | fixed => rfl

end Surface

/-- a text to be told to listeners -/
structure Announcement (ι : Type) where
  text : String
  listeners : List ι
deriving Repr, DecidableEq

structure Buffer (ι : Type) where
  surface : Surface
  listeners : List ι := []
deriving Repr, DecidableEq

namespace Buffer

variable {ι : Type} [DecidableEq ι]

def ofText (text : String) : Buffer ι := ⟨.memory (.ofText text), []⟩

def text (b : Buffer ι) : String := b.surface.text

/-- register a listener; the same listener may be registered more than once -/
def subscribe (b : Buffer ι) (l : ι) : Buffer ι := { b with listeners := b.listeners ++ [l] }

/-- the first registration of a listener is removed, if there is one -/
def unsubscribe (b : Buffer ι) (l : ι) : Buffer ι := { b with listeners := b.listeners.erase l }

structure Edited (ι : Type) where
  buffer : Buffer ι
  /-- the answer to the edit -/
  result : Bool
  announcement : Option (Announcement ι) := none

/-- what is to be told when the text was another one before -/
def announcement? (b : Buffer ι) (before : String) : Option (Announcement ι) :=
  if b.text = before then none else some ⟨b.text, b.listeners⟩

/-- an edit answers whether it changed the text; undo and redo answer whether there was a step to take -/
def edit (b : Buffer ι) : Edit → Edited ι
  | .set t =>
    let b' := { b with surface := b.surface.set t }
    let a := b'.announcement? b.text
    ⟨b', a.isSome, a⟩
  | .undo =>
    let b' := { b with surface := b.surface.undo.1 }
    if b.surface.undo.2 then ⟨b', true, b'.announcement? b.text⟩ else ⟨b', false, none⟩
  | .redo =>
    let b' := { b with surface := b.surface.redo.1 }
    if b.surface.redo.2 then ⟨b', true, b'.announcement? b.text⟩ else ⟨b', false, none⟩

omit [DecidableEq ι] in
/-- an edit is announced if it changes the text, to those who listen -/
theorem edit_announcement (b : Buffer ι) (e : Edit) :
    (b.edit e).buffer.listeners = b.listeners ∧
      ((b.edit e).buffer.text = b.text ∧ (b.edit e).announcement = none ∨
        (b.edit e).buffer.text ≠ b.text ∧
          (b.edit e).announcement = some ⟨(b.edit e).buffer.text, b.listeners⟩) := by
  have announced (f : Surface) : (⟨f, b.listeners⟩ : Buffer ι).text = b.text ∧
      (⟨f, b.listeners⟩ : Buffer ι).announcement? b.text = none ∨
        (⟨f, b.listeners⟩ : Buffer ι).text ≠ b.text ∧
          (⟨f, b.listeners⟩ : Buffer ι).announcement? b.text = some ⟨f.text, b.listeners⟩ := by
    by_cases same : (⟨f, b.listeners⟩ : Buffer ι).text = b.text
    · exact .inl ⟨same, if_pos same⟩
    · exact .inr ⟨same, if_neg same⟩
  cases e with
  | set t => exact ⟨rfl, announced _⟩
  | undo =>
    simp only [edit]
    split
    · exact ⟨rfl, announced _⟩
    · next h => exact ⟨rfl, .inl ⟨Surface.text_undo (Bool.eq_false_iff.mpr h), rfl⟩⟩
  | redo =>
    simp only [edit]
    split
    · exact ⟨rfl, announced _⟩
    · next h => exact ⟨rfl, .inl ⟨Surface.text_redo (Bool.eq_false_iff.mpr h), rfl⟩⟩

end Buffer

end SnippetStudio
