/-!
# Rosters

Entries under numbers, each number at most once (`Roster`): what is under way, by the number of the
call.  `find?` is the view: `put` replaces the entry of its number, `drop` removes it, and all other
numbers keep theirs.
-/

namespace SnippetStudio

structure Roster (α : Type) where
  entries : List (Nat × α) := []
deriving Repr, Inhabited

namespace Roster

variable {α : Type}

def find? (r : Roster α) (n : Nat) : Option α := (r.entries.find? fun e => e.1 == n).map (·.2)

def drop (r : Roster α) (n : Nat) : Roster α := ⟨r.entries.filter fun e => e.1 != n⟩

def put (r : Roster α) (n : Nat) (a : α) : Roster α := ⟨(n, a) :: (r.drop n).entries⟩

def isEmpty (r : Roster α) : Bool := r.entries.isEmpty

@[simp] theorem find?_empty (n : Nat) : ({} : Roster α).find? n = none := rfl

@[simp] theorem find?_put_self (r : Roster α) (n : Nat) (a : α) : (r.put n a).find? n = some a := by
  simp [put, find?]

@[simp] theorem find?_drop_self (r : Roster α) (n : Nat) : (r.drop n).find? n = none := by
  simp [drop, find?, List.find?_filter]

theorem find?_drop_of_ne (r : Roster α) {m n : Nat} (h : m ≠ n) :
    (r.drop n).find? m = r.find? m := by
  obtain ⟨es⟩ := r
  simp only [drop, find?]
  congr 1
  induction es with
  | nil => rfl
  | cons e es ih =>
    by_cases he : e.1 = n
    · have hm : ¬e.1 = m := fun h' => h (h'.symm.trans he)
      rw [List.filter_cons_of_neg (by simp [he]), List.find?_cons_of_neg (by simpa using hm)]
      exact ih
    · rw [List.filter_cons_of_pos (by simpa using he)]
      by_cases hm : e.1 = m
      · rw [List.find?_cons_of_pos (by simpa using hm), List.find?_cons_of_pos (by simpa using hm)]
      · rw [List.find?_cons_of_neg (by simpa using hm), List.find?_cons_of_neg (by simpa using hm)]
        exact ih

theorem find?_put_of_ne (r : Roster α) {m n : Nat} (a : α) (h : m ≠ n) :
    (r.put n a).find? m = r.find? m := by
  have hn : ¬n = m := fun e => h e.symm
  rw [← find?_drop_of_ne r h]
  simp [put, find?, hn]

theorem drop_put (r : Roster α) (n : Nat) (a : α) : (r.put n a).drop n = r.drop n := by
  simp [put, drop]

theorem put_put (r : Roster α) (n : Nat) (a b : α) : (r.put n a).put n b = r.put n b := by
  show Roster.mk ((n, b) :: ((r.put n a).drop n).entries) = r.put n b
  rw [drop_put]
  rfl

theorem find?_map (r : Roster α) (f : α → α) (n : Nat) :
    (⟨r.entries.map fun e => (e.1, f e.2)⟩ : Roster α).find? n = (r.find? n).map f := by
  simp only [find?, List.find?_map, Option.map_map]
  rfl

end Roster

end SnippetStudio
