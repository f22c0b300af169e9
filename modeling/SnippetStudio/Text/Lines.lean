/-!
# Lines

A text is cut at every line feed (`lines`) and put together again with one line feed between
two lines (`unlines`).  A carriage return belongs to its line.

`cut` splits at a separating character, keeping empty pieces; `cutOnce` splits at the first one.
-/

namespace SnippetStudio.Text

/-- the pieces between the separators, empty ones included -/
def cut (sep : Char) : List Char → List (List Char)
  | [] => [[]]
  | c :: s =>
    if c = sep then [] :: cut sep s
    else match cut sep s with
      | [] => [[c]]
      | l :: ls => (c :: l) :: ls

def lines (s : List Char) : List (List Char) := cut '\n' s

/-- the lines of a text as texts -/
def lineTexts (s : String) : List String := (lines s.toList).map String.ofList

/-- the pieces with the separator between them -/
def glue (sep : List Char) : List (List Char) → List Char
  | [] => []
  | [l] => l
  | l :: ls => l ++ sep ++ glue sep ls

def unlines (ls : List (List Char)) : List Char := glue ['\n'] ls

theorem cut_ne_nil (sep : Char) (s : List Char) : cut sep s ≠ [] := by
  cases s with
  | nil => simp [cut]
  | cons c s =>
    simp only [cut]
    split
    · simp
    · split <;> simp

@[simp] theorem cut_nil (sep : Char) : cut sep [] = [[]] := rfl

@[simp] theorem cut_cons_self (sep : Char) (s : List Char) : cut sep (sep :: s) = [] :: cut sep s := by
  simp [cut]

theorem cut_cons_of_ne {sep c : Char} (h : c ≠ sep) (s : List Char) :
    ∃ l ls, cut sep s = l :: ls ∧ cut sep (c :: s) = (c :: l) :: ls := by
  match hs : cut sep s with
  | [] => exact absurd hs (cut_ne_nil sep s)
  | l :: ls => exact ⟨l, ls, rfl, by simp [cut, h, hs]⟩

theorem length_cut (sep : Char) (s : List Char) : (cut sep s).length = s.count sep + 1 := by
  induction s with
  | nil => rfl
  | cons c s ih =>
    by_cases h : c = sep
    · subst h; simp [ih]
    · obtain ⟨l, ls, hs, hc⟩ := cut_cons_of_ne h s
      rw [hc, List.count_cons_of_ne h, ← ih, hs]; rfl

theorem glue_cut (sep : Char) (s : List Char) : glue [sep] (cut sep s) = s := by
  induction s with
  | nil => rfl
  | cons c s ih =>
    by_cases h : c = sep
    · subst h
      rw [cut_cons_self]
      match hs : cut c s with
      | [] => exact absurd hs (cut_ne_nil c s)
      | l :: ls => rw [hs] at ih; simp [glue, ih]
    · obtain ⟨l, ls, hs, hc⟩ := cut_cons_of_ne h s
      rw [hc]; rw [hs] at ih
      cases ls with
      | nil => simp [glue] at ih ⊢; exact ih
      | cons m ms => simp only [glue, List.cons_append] at ih ⊢; rw [ih]

theorem unlines_lines (s : List Char) : unlines (lines s) = s := glue_cut '\n' s

theorem length_lines (s : List Char) : (lines s).length = s.count '\n' + 1 := length_cut '\n' s

/-- a separator ends the last piece of what is before it -/
theorem cut_append (sep : Char) (s t : List Char) :
    cut sep (s ++ sep :: t) = cut sep s ++ cut sep t := by
  induction s with
  | nil => rw [List.nil_append, cut_cons_self, cut_nil, List.singleton_append]
  | cons c s ih =>
    by_cases h : c = sep
    · rw [h, List.cons_append, cut_cons_self, cut_cons_self, ih, List.cons_append]
    · obtain ⟨l, ls, hs, hc⟩ := cut_cons_of_ne h s
      obtain ⟨k, ks, hk, hck⟩ := cut_cons_of_ne h (s ++ sep :: t)
      rw [ih, hs, List.cons_append] at hk
      obtain ⟨rfl, rfl⟩ := List.cons.inj hk
      rw [List.cons_append, hck, hc, List.cons_append]

theorem cut_of_not_mem {sep : Char} {s : List Char} (h : sep ∉ s) : cut sep s = [s] := by
  induction s with
  | nil => rfl
  | cons c s ih =>
    rw [List.mem_cons, not_or] at h
    obtain ⟨l, ls, hs, hc⟩ := cut_cons_of_ne (fun e : c = sep => h.1 e.symm) s
    rw [ih h.2] at hs
    obtain ⟨rfl, rfl⟩ := List.cons.inj hs
    exact hc

theorem glue_eq_intercalate (sep : List Char) (parts : List (List Char)) :
    glue sep parts = sep.intercalate parts := by
  induction parts with
  | nil => rfl
  | cons part parts ih =>
    cases parts with
    | nil => exact List.intercalate_singleton.symm
    | cons next parts =>
      rw [glue, ih, List.intercalate_cons_cons]
      exact List.cons_ne_nil _ _

theorem mem_glue {sep : List Char} {c : Char} {parts : List (List Char)} (mem : c ∈ glue sep parts) :
    c ∈ sep ∨ ∃ part ∈ parts, c ∈ part := by
  induction parts with
  | nil => cases mem
  | cons part parts ih =>
    cases parts with
    | nil => exact .inr ⟨part, List.mem_cons_self, mem⟩
    | cons next parts =>
      rw [glue, List.mem_append, List.mem_append] at mem
      · rcases mem with (here | between) | behind
        · exact .inr ⟨part, List.mem_cons_self, here⟩
        · exact .inl between
        · rcases ih behind with between | ⟨other, other_mem, there⟩
          · exact .inl between
          · exact .inr ⟨other, List.mem_cons_of_mem _ other_mem, there⟩
      · exact List.cons_ne_nil _ _

theorem cut_glue {sep : Char} {parts : List (List Char)} (some : parts ≠ []) :
    cut sep (glue [sep] parts) = parts.flatMap (cut sep) := by
  induction parts with
  | nil => exact absurd rfl some
  | cons part parts ih =>
    cases parts with
    | nil => exact (List.flatMap_singleton _ _).symm
    | cons next parts =>
      rw [List.flatMap_cons, ← ih (List.cons_ne_nil _ _), glue, List.append_assoc, List.singleton_append, cut_append]
      exact List.cons_ne_nil _ _

theorem flatMap_cut {sep : Char} {parts : List (List Char)} (free : ∀ part ∈ parts, sep ∉ part) :
    parts.flatMap (cut sep) = parts := by
  induction parts with
  | nil => rfl
  | cons part parts ih =>
    obtain ⟨first, rest⟩ := List.forall_mem_cons.mp free
    rw [List.flatMap_cons, cut_of_not_mem first, ih rest, List.singleton_append]

/-- what precedes the first separator, and what follows it if there is one -/
def cutOnce (sep : Char) : List Char → List Char × Option (List Char)
  | [] => ([], none)
  | c :: s =>
    if c = sep then ([], some s)
    else ((c :: (cutOnce sep s).1), (cutOnce sep s).2)

/-- what precedes the first separator: everything where there is none -/
def upTo (sep : Char) (s : List Char) : List Char := s.takeWhile (· ≠ sep)

theorem not_mem_upTo (sep : Char) (s : List Char) : sep ∉ upTo sep s := by
  induction s with
  | nil => exact List.not_mem_nil
  | cons c s ih =>
    unfold upTo at ih ⊢
    by_cases h : c = sep
    · rw [List.takeWhile_cons_of_neg (by simp [h])]
      exact List.not_mem_nil
    · rw [List.takeWhile_cons_of_pos (by simp [h])]
      exact fun mem => (List.mem_cons.mp mem).elim (Ne.symm h) ih

theorem upTo_append {sep : Char} {u v : List Char} (h : sep ∉ u) : upTo sep (u ++ sep :: v) = u := by
  induction u with
  | nil => simp [upTo]
  | cons c u ih =>
    simp only [List.mem_cons, not_or] at h
    have hc : c ≠ sep := fun e => h.1 e.symm
    simpa [upTo, hc] using ih h.2

theorem cutOnce_fst (sep : Char) (s : List Char) : (cutOnce sep s).1 = upTo sep s := by
  induction s with
  | nil => rfl
  | cons c s ih =>
    by_cases h : c = sep
    · simp [cutOnce, upTo, h]
    · simp [cutOnce, upTo, h, ih]

theorem cutOnce_append {sep : Char} {a b : List Char} (h : sep ∉ a) :
    cutOnce sep (a ++ sep :: b) = (a, some b) := by
  induction a with
  | nil => simp [cutOnce]
  | cons c a ih =>
    rw [List.mem_cons, not_or] at h
    rw [List.cons_append, cutOnce, if_neg (Ne.symm h.1), ih h.2]

theorem cutOnce_of_not_mem {sep : Char} {s : List Char} (h : sep ∉ s) : cutOnce sep s = (s, none) := by
  induction s with
  | nil => rfl
  | cons c s ih =>
    rw [List.mem_cons, not_or] at h
    rw [cutOnce, if_neg (Ne.symm h.1), ih h.2]

theorem of_cutOnce {sep : Char} {s a b : List Char} (h : cutOnce sep s = (a, some b)) :
    s = a ++ sep :: b ∧ sep ∉ a := by
  have front : a = upTo sep s := by rw [← cutOnce_fst, h]
  refine ⟨?_, front ▸ not_mem_upTo sep s⟩
  clear front
  induction s generalizing a with
  | nil => cases h
  | cons c s ih =>
    rw [cutOnce] at h
    split at h
    · next here =>
      obtain ⟨rfl, rest⟩ := Prod.mk.inj h
      rw [here, ← Option.some.inj rest, List.nil_append]
    · obtain ⟨rfl, rest⟩ := Prod.mk.inj h
      rw [List.cons_append, ← ih (Prod.ext rfl rest)]

end SnippetStudio.Text
