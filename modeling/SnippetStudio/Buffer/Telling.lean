import SnippetStudio.Buffer.Basic
import SnippetStudio.Preview.Roster

/-!
# Telling the listeners

A change of the buffer is announced to its listeners one after the other.  A listener may take its time, and
edits may be made in the meantime, by anybody and by the listener itself.  `Telling` is the buffer with
the announcements that are under way, by the numbers of their edits, and with what was told (`Notice`).

A `Move` is one thing that happens: an edit begins, and tells its first listener at once; the listener
that an edit has told is done, or fails; a listener is registered, or not any more.  Any list of moves
is a run (`Telling.after`); moves that fit nothing are passed over.
-/

namespace SnippetStudio

/-- what a listener was told, by the edit of a number -/
structure Notice (ι : Type) where
  edit : Nat
  listener : ι
  text : String
deriving Repr, DecidableEq

structure Telling (ι : Type) where
  buffer : Buffer ι
  /-- the announcements under way, with the listeners that are still to be told -/
  underway : Roster (Announcement ι) := {}
  /-- the number of the next edit -/
  next : Nat := 0
  /-- what was told, the earliest first -/
  notices : List (Notice ι) := []

namespace Telling

variable {ι : Type} [DecidableEq ι]

inductive Move (ι : Type) where
  | edit (e : Edit)
  /-- the listener that was told last by an edit is done -/
  | resume (n : Nat)
  /-- the listener that was told last by an edit fails, and the edit with it -/
  | fail (n : Nat)
  | subscribe (l : ι)
  | unsubscribe (l : ι)
deriving Repr, DecidableEq

/-- the next listener is told; an edit without one is over -/
def tell (t : Telling ι) (n : Nat) : Announcement ι → Telling ι
  | ⟨_, []⟩ => { t with underway := t.underway.drop n }
  | ⟨text, l :: ls⟩ =>
    { t with underway := t.underway.put n ⟨text, ls⟩, notices := t.notices ++ [⟨n, l, text⟩] }

/-- an edit begins -/
def edit (t : Telling ι) (e : Edit) : Telling ι :=
  let edited := t.buffer.edit e
  let t' := { t with buffer := edited.buffer, next := t.next + 1 }
  match edited.announcement with
  | none => t'
  | some a => t'.tell t.next a

def move (t : Telling ι) : Move ι → Telling ι
  | .edit e => t.edit e
  | .resume n => match t.underway.find? n with
    | none => t
    | some a => t.tell n a
  | .fail n => { t with underway := t.underway.drop n }
  | .subscribe l => { t with buffer := t.buffer.subscribe l }
  | .unsubscribe l => { t with buffer := t.buffer.unsubscribe l }

/-- the end of a run -/
def after (t : Telling ι) (ms : List (Move ι)) : Telling ι := ms.foldl move t

theorem after_append (t : Telling ι) (ms ms' : List (Move ι)) :
    t.after (ms ++ ms') = (t.after ms).after ms' := List.foldl_append

theorem after_concat (t : Telling ι) (ms : List (Move ι)) (m : Move ι) :
    t.after (ms ++ [m]) = (t.after ms).move m := after_append t ms [m]

section

omit [DecidableEq ι]

variable (t : Telling ι) (n : Nat) (a : Announcement ι)

@[simp] theorem buffer_tell : (t.tell n a).buffer = t.buffer := by
  obtain ⟨text, ls⟩ := a
  cases ls <;> rfl

@[simp] theorem next_tell : (t.tell n a).next = t.next := by
  obtain ⟨text, ls⟩ := a
  cases ls <;> rfl

theorem notices_tell :
    (t.tell n a).notices = t.notices ++ a.listeners.head?.toList.map fun l => ⟨n, l, a.text⟩ := by
  obtain ⟨text, ls⟩ := a
  cases ls with
  | nil => exact (List.append_nil _).symm
  | cons l ls => rfl

theorem find?_tell_of_ne {m : Nat} (h : m ≠ n) :
    (t.tell n a).underway.find? m = t.underway.find? m := by
  obtain ⟨text, ls⟩ := a
  cases ls with
  | nil => exact Roster.find?_drop_of_ne _ h
  | cons l ls => exact Roster.find?_put_of_ne _ _ h

/-- who was told is not told again -/
theorem find?_tell_self {b : Announcement ι} (h : (t.tell n a).underway.find? n = some b) :
    ∃ l, a = ⟨b.text, l :: b.listeners⟩ := by
  obtain ⟨text, ls⟩ := a
  cases ls with
  | nil =>
    have gone : (t.underway.drop n).find? n = some b := h
    rw [Roster.find?_drop_self] at gone
    cases gone
  | cons l ls =>
    have left : (t.underway.put n ⟨text, ls⟩).find? n = some b := h
    rw [Roster.find?_put_self] at left
    cases left
    exact ⟨l, rfl⟩

/-- what an announcement had left before it goes on does not matter -/
theorem tell_put (b : Announcement ι) :
    { t with underway := t.underway.put n b }.tell n a = t.tell n a := by
  obtain ⟨text, ls⟩ := a
  cases ls with
  | nil => simp only [tell, Roster.drop_put]
  | cons l ls => simp only [tell, Roster.put_put]

/-- an edit that changes the text begins to tell those who listen -/
theorem edit_of_ne (e : Edit) (h : (t.buffer.edit e).buffer.text ≠ t.buffer.text) :
    t.edit e = { t with buffer := (t.buffer.edit e).buffer, next := t.next + 1 }.tell t.next
      ⟨(t.buffer.edit e).buffer.text, t.buffer.listeners⟩ := by
  have announced := ((t.buffer.edit_announcement e).2.resolve_left fun same => h same.1).2
  simp only [edit, announced]

theorem edit_of_eq (e : Edit) (h : (t.buffer.edit e).buffer.text = t.buffer.text) :
    t.edit e = { t with buffer := (t.buffer.edit e).buffer, next := t.next + 1 } := by
  have silent := ((t.buffer.edit_announcement e).2.resolve_right fun other => other.1 h).2
  simp only [edit, silent]

theorem buffer_edit (e : Edit) : (t.edit e).buffer = (t.buffer.edit e).buffer := by
  by_cases h : (t.buffer.edit e).buffer.text = t.buffer.text
  · rw [edit_of_eq t e h]
  · rw [edit_of_ne t e h, buffer_tell]

end

end Telling

end SnippetStudio
