import SnippetStudio.Text.Ranges

/-!
# Blanks

White space, the four separator controls U+001C to U+001F included (`isBlank`), and the trimming
of a text at its ends (`trimStart`, `trimEnd`, `trim`).
-/

namespace SnippetStudio.Text

def blankRanges : List (Nat × Nat) :=
  [(0x09, 0x0D), (0x1C, 0x20), (0x85, 0x85), (0xA0, 0xA0), (0x1680, 0x1680), (0x2000, 0x200A),
   (0x2028, 0x2029), (0x202F, 0x202F), (0x205F, 0x205F), (0x3000, 0x3000)]

def isBlank (c : Char) : Bool := inRanges blankRanges c.toNat

def trimStart (s : List Char) : List Char := s.dropWhile isBlank

def trimEnd (s : List Char) : List Char := (s.reverse.dropWhile isBlank).reverse

def trim (s : List Char) : List Char := trimEnd (trimStart s)

@[simp] theorem trim_nil : trim [] = [] := rfl

theorem trimStart_cons (c : Char) (s : List Char) :
    trimStart (c :: s) = if isBlank c then trimStart s else c :: s := by
  simp only [trimStart, List.dropWhile_cons]

theorem trimEnd_concat (s : List Char) (c : Char) :
    trimEnd (s ++ [c]) = if isBlank c then trimEnd s else s ++ [c] := by
  simp only [trimEnd, List.reverse_append, List.reverse_cons, List.reverse_nil, List.nil_append,
    List.singleton_append, List.dropWhile_cons]
  split <;> simp

theorem trim_of_ends {c e : Char} {s : List Char} (hc : isBlank c = false)
    (he : isBlank e = false) : trim (c :: (s ++ [e])) = c :: (s ++ [e]) := by
  rw [trim, trimStart_cons, hc, if_neg Bool.false_ne_true, ← List.cons_append, trimEnd_concat, he,
    if_neg Bool.false_ne_true]

theorem trim_eq_concat {s : List Char} (h : trim s ≠ []) :
    ∃ t e, trim s = t ++ [e] ∧ isBlank e = false := by
  have nonempty : (trimStart s).reverse.dropWhile isBlank ≠ [] :=
    fun none => h (by rw [trim, trimEnd, none, List.reverse_nil])
  have last := List.head_dropWhile_not (p := isBlank) nonempty
  obtain ⟨e, r, back⟩ := List.exists_cons_of_ne_nil nonempty
  simp only [back, List.head_cons] at last
  exact ⟨r.reverse, e, by rw [trim, trimEnd, back, List.reverse_cons], last⟩

theorem trim_eq_cons {s : List Char} (h : trim s ≠ []) :
    ∃ c t, trim s = c :: t ∧ isBlank c = false := by
  obtain ⟨c, t, front⟩ := List.exists_cons_of_ne_nil h
  have whole : trim s ++ ((trimStart s).reverse.takeWhile isBlank).reverse = trimStart s := by
    rw [trim, trimEnd, ← List.reverse_append, List.takeWhile_append_dropWhile, List.reverse_reverse]
  generalize ((trimStart s).reverse.takeWhile isBlank).reverse = blanks at whole
  rw [front, List.cons_append, trimStart] at whole
  have first nonempty := List.head_dropWhile_not (p := isBlank) (l := s) nonempty
  simp only [← whole] at first
  exact ⟨c, t, front, first (List.cons_ne_nil _ _)⟩

theorem trim_trim (s : List Char) : trim (trim s) = trim s := by
  by_cases h : trim s = []
  · rw [h, trim_nil]
  · obtain ⟨c, t, front, first⟩ := trim_eq_cons h
    obtain ⟨t', e, back, last⟩ := trim_eq_concat h
    have start : trimStart (trim s) = trim s := by
      rw [front, trimStart_cons, first, if_neg Bool.false_ne_true]
    rw [trim, start, back, trimEnd_concat, last, if_neg Bool.false_ne_true]

theorem mem_of_mem_trim {c : Char} {s : List Char} (h : c ∈ trim s) : c ∈ s := by
  have back := (List.dropWhile_suffix isBlank).subset (List.mem_reverse.mp h)
  exact (List.dropWhile_suffix isBlank).subset (List.mem_reverse.mp back)

/-- nothing but blanks -/
def isEmpty (s : List Char) : Bool := s.all isBlank

end SnippetStudio.Text

namespace SnippetStudio

/-- a text without the blanks at its ends -/
def trimmed (s : String) : String := String.ofList (Text.trim s.toList)

end SnippetStudio
