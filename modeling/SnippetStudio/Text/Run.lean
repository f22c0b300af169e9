/-!
# Runs

A run of characters that a test accepts goes on to the first one that it refuses.  So a run with a text behind
it that does not go on with it (`Stops`) is taken off as a whole.
-/

namespace SnippetStudio.Text

variable {p : Char → Bool} {run rest s : List Char}

/-- the text does not begin with a character that the test accepts -/
def Stops (p : Char → Bool) (rest : List Char) : Prop := ∀ c ∈ rest.head?, p c = false

@[simp] theorem stops_nil : Stops p [] := nofun

@[simp] theorem stops_cons {c : Char} : Stops p (c :: rest) ↔ p c = false :=
  ⟨fun h => h c rfl, fun h _ hc => Option.some.inj hc ▸ h⟩

theorem stops_dropWhile : Stops p (s.dropWhile p) := fun c hc => by
  have nonempty : s.dropWhile p ≠ [] := fun none => by simp [none] at hc
  have first : (s.dropWhile p).head nonempty = c :=
    Option.some.inj ((List.head?_eq_some_head nonempty).symm.trans hc)
  exact first ▸ List.head_dropWhile_not p nonempty

theorem takeWhile_run (inside : ∀ c ∈ run, p c) (stops : Stops p rest) :
    (run ++ rest).takeWhile p = run := by
  rw [List.takeWhile_append_of_pos inside]
  cases rest with
  | nil => exact List.append_nil run
  | cons c rest => rw [List.takeWhile_cons_of_neg (by simp [stops_cons.mp stops]), List.append_nil]

theorem dropWhile_run (inside : ∀ c ∈ run, p c) (stops : Stops p rest) :
    (run ++ rest).dropWhile p = rest := by
  rw [List.dropWhile_append_of_pos inside]
  cases rest with
  | nil => rfl
  | cons c rest => exact List.dropWhile_cons_of_neg (by simp [stops_cons.mp stops])

theorem dropWhile_of_stops (stops : Stops p s) : s.dropWhile p = s :=
  @dropWhile_run p [] s nofun stops

end SnippetStudio.Text
