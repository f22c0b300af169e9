import SnippetStudio.Buffer.History

/-!
# Tapes

An editing surface keeps the texts that it has held, the oldest first, and the place of the one that it
holds now (`Tape`).  A text that is set goes behind that place, and what stood there is cut off; undo
and redo only move the place.

Seen from its place a tape is a history (`Tape.history`), and its edits are those of the history.
-/

namespace SnippetStudio

structure Tape where
  texts : List String
  place : Nat
  inside : place < texts.length
deriving Repr, DecidableEq

namespace Tape

def ofText (text : String) : Tape := ⟨[text], 0, Nat.zero_lt_one⟩

def current (t : Tape) : String := t.texts.get ⟨t.place, t.inside⟩

def set (t : Tape) (text : String) : Tape :=
  if text = t.current then t
  else
    { texts := t.texts.take (t.place + 1) ++ [text]
      place := t.place + 1
      inside := by
        have := t.inside
        simp only [List.length_append, List.length_take, List.length_singleton]
        omega }

/-- one step back, and whether there was one -/
def undo (t : Tape) : Tape × Bool :=
  if t.place = 0 then (t, false)
  else ({ t with place := t.place - 1, inside := Nat.lt_of_le_of_lt (Nat.sub_le _ _) t.inside }, true)

/-- one step forward, and whether there was one -/
def redo (t : Tape) : Tape × Bool :=
  if more : t.place + 1 < t.texts.length then ({ t with place := t.place + 1, inside := more }, true)
  else (t, false)

def canUndo (t : Tape) : Bool := decide (0 < t.place)

def canRedo (t : Tape) : Bool := decide (t.place + 1 < t.texts.length)

/-- an edit; setting a text answers nothing -/
def edit (t : Tape) : Edit → Tape × Option Bool
  | .set text => (t.set text, none)
  | .undo => (t.undo.1, some t.undo.2)
  | .redo => (t.redo.1, some t.redo.2)

/-- what lies before and behind the place, as it is seen from there -/
def history (t : Tape) : History :=
  ⟨(t.texts.take t.place).reverse, t.current, t.texts.drop (t.place + 1)⟩

theorem undo_of_not {t : Tape} (h : t.undo.2 = false) : t.undo.1 = t := by
  unfold undo at h ⊢
  split
  · rfl
  · next some => rw [if_neg some] at h; cases h

theorem redo_of_not {t : Tape} (h : t.redo.2 = false) : t.redo.1 = t := by
  unfold redo at h ⊢
  split
  · next more => rw [dif_pos more] at h; cases h
  · rfl

/-! ## Seen from the place -/

/-- the tape that holds a text between what lies before it and what lies behind it -/
def around (before : List String) (text : String) (behind : List String) : Tape :=
  ⟨before ++ text :: behind, before.length, by simp⟩

theorem exists_around (t : Tape) : ∃ before text behind, t = around before text behind := by
  obtain ⟨texts, place, inside⟩ := t
  refine ⟨texts.take place, texts[place], texts.drop (place + 1), ?_⟩
  have whole : texts.take place ++ texts[place] :: texts.drop (place + 1) = texts := by
    rw [← List.drop_eq_getElem_cons inside, List.take_append_drop]
  have length : (texts.take place).length = place := List.length_take_of_le (Nat.le_of_lt inside)
  simp only [around, whole, length]

section

variable (before behind : List String) (text x : String)

@[simp] theorem current_around : (around before text behind).current = text := by
  simp [around, current]

@[simp] theorem history_around :
    (around before text behind).history = ⟨before.reverse, text, behind⟩ := by
  have shown := current_around before behind text
  simp only [history, shown]
  simp [around]

theorem set_around : (around before text behind).set x =
    if x = text then around before text behind else around (before ++ [text]) x [] := by
  unfold set
  simp only [current_around]
  split
  · rfl
  · simp [around, List.take_append, List.take_of_length_le]

theorem undo_around_nil : (around [] text behind).undo = (around [] text behind, false) := rfl

theorem undo_around_concat :
    (around (before ++ [x]) text behind).undo = (around before x (text :: behind), true) := by
  simp [around, undo]

theorem redo_around_nil : (around before text []).redo = (around before text [], false) := by
  simp [around, redo]

theorem redo_around_cons :
    (around before text (x :: behind)).redo = (around (before ++ [text]) x behind, true) := by
  simp [around, redo]

end

/-! ## Edits of the history -/

theorem history_set (t : Tape) (text : String) : (t.set text).history = t.history.set text := by
  obtain ⟨before, c, behind, rfl⟩ := exists_around t
  rw [set_around, history_around, History.set]
  split
  · rw [history_around]
  · rw [history_around, List.reverse_append]
    rfl

theorem history_undo (t : Tape) : (t.undo.1.history, t.undo.2) = t.history.undo := by
  obtain ⟨before, c, behind, rfl⟩ := exists_around t
  rcases List.eq_nil_or_concat before with rfl | ⟨before, x, rfl⟩
  · rw [undo_around_nil, history_around]
    rfl
  · rw [List.concat_eq_append, undo_around_concat, history_around, history_around, List.reverse_append]
    rfl

theorem history_redo (t : Tape) : (t.redo.1.history, t.redo.2) = t.history.redo := by
  obtain ⟨before, c, behind, rfl⟩ := exists_around t
  cases behind with
  | nil =>
    rw [redo_around_nil, history_around]
    rfl
  | cons x behind =>
    rw [redo_around_cons, history_around, history_around, List.reverse_append]
    rfl

theorem history_edit (t : Tape) (e : Edit) :
    ((t.edit e).1.history, (t.edit e).2) = t.history.edit e := by
  cases e with
  | set text => exact congrArg (·, none) (history_set t text)
  | undo =>
    have step := history_undo t
    rw [edit, History.edit, ← step]
  | redo =>
    have step := history_redo t
    rw [edit, History.edit, ← step]

theorem canUndo_eq (t : Tape) : t.canUndo = !t.history.past.isEmpty := by
  obtain ⟨before, c, behind, rfl⟩ := exists_around t
  rw [history_around]
  cases before with
  | nil => rfl
  | cons x before => simp [canUndo, around]

theorem canRedo_eq (t : Tape) : t.canRedo = !t.history.future.isEmpty := by
  obtain ⟨before, c, behind, rfl⟩ := exists_around t
  rw [history_around]
  cases behind with
  | nil => simp [canRedo, around]
  | cons x behind => simp [canRedo, around]

/-- a step back is taken back by a step forward -/
theorem redo_undo {t : Tape} (h : t.undo.2 = true) : t.undo.1.redo = (t, true) := by
  obtain ⟨before, c, behind, rfl⟩ := exists_around t
  rcases List.eq_nil_or_concat before with rfl | ⟨before, x, rfl⟩
  · cases h
  · rw [List.concat_eq_append, undo_around_concat, redo_around_cons]

theorem undo_redo {t : Tape} (h : t.redo.2 = true) : t.redo.1.undo = (t, true) := by
  obtain ⟨before, c, behind, rfl⟩ := exists_around t
  cases behind with
  | nil =>
    rw [redo_around_nil] at h
    cases h
  | cons x behind => rw [redo_around_cons, undo_around_concat]

end Tape

end SnippetStudio
