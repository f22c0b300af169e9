import Mathlib.Data.List.Forall2
import Mathlib.Data.List.TakeWhile
import SnippetStudio.Text.Lines
import SnippetStudio.Text.Run
import SnippetStudio.Text.Scan

/-!
# What is read at a place

The recognisers of a text are put together from few readers.  Here is what each of them takes off, as a
condition on the text.

* `blanks_eq_iff`, `blanks1?_eq_some`        blanks, and what does not begin with one;
* `exists_trim`, `trim_around`               the blanks at the ends of a text;
* `isWord_of_isBlank`                        no blank is a word character;
* `isFresh_iff`, `occurs_iff_append`         places;
* `upTo_mem_lines`, `exists_of_mem_lines`    lines, and where they begin;
* `afterFolded?_eq_some`                     a word in letters of either case.
-/

namespace SnippetStudio.Text

variable {s r gap : List Char} {c : Char}

instance (p : Char → Bool) (s : List Char) : Decidable (Stops p s) :=
  decidable_of_iff ((s.head?.all fun c => !p c) = true) (by cases s <;> simp)

/-! ## blanks -/

def Blanks (s : List Char) : Prop := ∀ c ∈ s, isBlank c = true

instance (s : List Char) : Decidable (Blanks s) := decidable_of_iff _ List.all_eq_true

theorem blanks_nil : Blanks [] := nofun

theorem not_mem_blanks (gap_ : Blanks gap) (visible : isBlank c = false) : c ∉ gap := by
  intro mem
  rw [gap_ c mem] at visible
  cases visible

theorem Blanks.reverse (gap_ : Blanks gap) : Blanks gap.reverse := fun c mem =>
  gap_ c (List.mem_reverse.mp mem)

theorem blanks_run (gap_ : Blanks gap) (stops : Stops isBlank r) : blanks (gap ++ r) = r :=
  dropWhile_run gap_ stops

theorem blanks_eq_iff : blanks s = r ↔ ∃ gap, Blanks gap ∧ s = gap ++ r ∧ Stops isBlank r := by
  constructor
  · rintro rfl
    refine ⟨s.takeWhile isBlank, fun c mem => ?_, List.takeWhile_append_dropWhile.symm, stops_dropWhile⟩
    exact List.mem_takeWhile_imp mem
  · rintro ⟨gap, gap_, rfl, stops⟩
    exact blanks_run gap_ stops

theorem exists_blanks (s : List Char) :
    ∃ gap, Blanks gap ∧ s = gap ++ blanks s ∧ Stops isBlank (blanks s) := blanks_eq_iff.mp rfl

theorem blanks1?_eq_some : blanks1? s = some r ↔
    ∃ gap, gap ≠ [] ∧ Blanks gap ∧ s = gap ++ r ∧ Stops isBlank r := by
  cases s with
  | nil => simp [blanks1?]
  | cons c s =>
    rw [blanks1?]
    constructor
    · intro h
      split at h
      · next blank =>
        obtain ⟨gap, gap_, rfl, stops⟩ := blanks_eq_iff.mp (Option.some.inj h)
        exact ⟨c :: gap, List.cons_ne_nil c gap, List.forall_mem_cons.mpr ⟨blank, gap_⟩, rfl, stops⟩
      · cases h
    · rintro ⟨gap, some_, gap_, whole, stops⟩
      obtain ⟨d, gap, rfl⟩ := List.exists_cons_of_ne_nil some_
      rw [List.cons_append, List.cons.injEq] at whole
      obtain ⟨rfl, rfl⟩ := whole
      obtain ⟨blank, gap_⟩ := List.forall_mem_cons.mp gap_
      rw [if_pos blank, blanks_run gap_ stops]

theorem exists_trim (s : List Char) : ∃ gap gap', Blanks gap ∧ Blanks gap' ∧ s = gap ++ (trim s ++ gap') := by
  obtain ⟨gap, gap_, front, -⟩ := exists_blanks s
  obtain ⟨gap', gap'_, back, -⟩ := exists_blanks (blanks s).reverse
  have rest : blanks s = trim s ++ gap'.reverse := by
    have turned := congrArg List.reverse back
    rwa [List.reverse_reverse, List.reverse_append] at turned
  exact ⟨gap, gap'.reverse, gap_, gap'_.reverse, by rw [← rest]; exact front⟩

theorem blanks_of_trim (blank : trim s = []) : Blanks s := by
  obtain ⟨gap, gap', gap_, gap'_, whole⟩ := exists_trim s
  rw [whole, blank, List.nil_append]
  exact List.forall_mem_append.mpr ⟨gap_, gap'_⟩

theorem trim_around {gap' : List Char} (gap_ : Blanks gap) (gap'_ : Blanks gap') :
    trim (gap ++ (s ++ gap')) = trim s := by
  have front : trimStart (gap ++ (s ++ gap')) = trimStart (s ++ gap') := List.dropWhile_append_of_pos gap_
  have back (t : List Char) : trimEnd (t ++ gap') = trimEnd t := by
    rw [trimEnd, List.reverse_append, List.dropWhile_append_of_pos gap'_.reverse, trimEnd]
  rw [trim, front, trim, trimStart, List.dropWhile_append]
  split
  · next none_ =>
    have all : gap'.dropWhile isBlank = [] := List.dropWhile_eq_nil_iff.mpr gap'_
    rw [all, trimStart, List.isEmpty_iff.mp none_]
  · exact back _

theorem trim_behind (gap_ : Blanks gap) : trim (gap ++ s) = trim s := by
  have around := trim_around (s := s) gap_ blanks_nil
  rwa [List.append_nil] at around

theorem trim_of_blanks (blank : Blanks s) : trim s = [] := by
  have behind := trim_behind (s := []) blank
  rwa [List.append_nil] at behind

theorem trim_of_visible (visible : ∀ c ∈ s, isBlank c = false) : trim s = s := by
  obtain ⟨gap, gap', gap_, gap'_, whole⟩ := exists_trim s
  have none_ : gap = [] := List.eq_nil_iff_forall_not_mem.mpr fun c mem =>
    not_mem_blanks gap_ (visible c (whole ▸ List.mem_append_left _ mem)) mem
  have none' : gap' = [] := List.eq_nil_iff_forall_not_mem.mpr fun c mem =>
    not_mem_blanks gap'_ (visible c (whole ▸ List.mem_append_right _ (List.mem_append_right _ mem))) mem
  rw [none_, none', List.append_nil, List.nil_append] at whole
  exact whole.symm

theorem trim_ne_nil (mem : c ∈ s) (visible : isBlank c = false) : trim s ≠ [] := fun blank =>
  not_mem_blanks (blanks_of_trim blank) visible mem

theorem trim_cons_of_visible (visible : isBlank c = false) : ∃ t, trim (c :: s) = c :: t := by
  obtain ⟨gap, gap', gap_, -, whole⟩ := exists_trim (c :: s)
  obtain ⟨d, t, front⟩ := List.exists_cons_of_ne_nil (trim_ne_nil (s := c :: s) List.mem_cons_self visible)
  cases gap with
  | nil =>
    rw [front] at whole
    obtain rfl : c = d := (List.cons.inj whole).1
    exact ⟨t, front⟩
  | cons e gap =>
    obtain rfl : c = e := (List.cons.inj whole).1
    exact absurd List.mem_cons_self (not_mem_blanks gap_ visible)

theorem isWord_of_isBlank (blank : isBlank c = true) : isWord c = false := by
  have codes : ∀ range ∈ blankRanges, ∀ n ∈ List.range' range.1 (range.2 + 1 - range.1),
      isWord (Char.ofNat n) = false := by
    decide +kernel
  obtain ⟨range, mem, low, high⟩ := inRanges_iff.mp blank
  have word := codes range mem c.toNat (List.mem_range'_1.mpr ⟨low, by omega⟩)
  rwa [Char.ofNat_toNat] at word

theorem isBlank_of_isWord (word : isWord c = true) : isBlank c = false := by
  by_contra other
  have blank : isBlank c = true := by simpa using other
  rw [isWord_of_isBlank blank] at word
  cases word

theorem isWord_of_isCapital (capital : isCapital c = true) : isWord c = true := by
  have bounds : 'A'.val ≤ c.val ∧ c.val ≤ 'Z'.val := decide_eq_true_iff.mp capital
  have letter : c.isAlphanum = true := by
    show (c.isUpper || c.isLower || c.isDigit) = true
    rw [show c.isUpper = true from capital]
    rfl
  have small : c.toNat ≤ 'Z'.toNat := bounds.2
  exact isWord_of_isAlphanum letter (Nat.lt_of_le_of_lt small (by decide))

/-! ## places -/

/-- no word runs on from the end of a text -/
def Fresh (left : List Char) : Prop := ∀ c ∈ left.getLast?, isWord c = false

theorem isFresh_iff {left rest : List Char} : Place.isFresh ⟨left.reverse, rest⟩ = true ↔ Fresh left := by
  rw [Place.isFresh, List.head?_reverse, Fresh]
  cases left.getLast? <;> simp

theorem occurs_iff_append {p : Place → Bool} :
    occurs p s = true ↔ ∃ left rest, s = left ++ rest ∧ p ⟨left.reverse, rest⟩ = true := by
  rw [occurs_iff]
  constructor
  · rintro ⟨left, rest, rfl, here⟩
    refine ⟨left.reverse, rest, rfl, ?_⟩
    rwa [List.reverse_reverse]
  · rintro ⟨left, rest, rfl, here⟩
    refine ⟨left.reverse, rest, ?_, here⟩
    rw [List.reverse_reverse]

/-! ## lines -/

theorem head?_lines (s : List Char) : (lines s).head? = some (upTo '\n' s) := by
  induction s with
  | nil => rfl
  | cons c s ih =>
    by_cases feed : c = '\n'
    · rw [feed, lines, cut_cons_self]
      rfl
    · obtain ⟨l, ls, whole, longer⟩ := cut_cons_of_ne feed s
      rw [lines, whole] at ih
      obtain rfl : l = upTo '\n' s := Option.some.inj ih
      have onward : upTo '\n' (c :: s) = c :: upTo '\n' s := List.takeWhile_cons_of_pos (by simpa using feed)
      rw [lines, longer, onward]
      rfl

/-- a line begins at the start of the text, or behind a line feed -/
def LineStart (left : List Char) : Prop := left = [] ∨ ∃ before, left = before ++ ['\n']

theorem upTo_mem_lines {left : List Char} (start : LineStart left) (rest : List Char) :
    upTo '\n' rest ∈ lines (left ++ rest) := by
  have first : upTo '\n' rest ∈ lines rest := List.mem_of_mem_head? (head?_lines rest)
  rcases start with rfl | ⟨before, rfl⟩
  · exact first
  · rw [List.append_assoc, List.singleton_append, lines, cut_append]
    exact List.mem_append_right _ first

theorem exists_of_mem_lines {line : List Char} (mem : line ∈ lines s) :
    ∃ left rest, s = left ++ (line ++ rest) ∧ LineStart left := by
  obtain ⟨before, behind, split⟩ := List.append_of_mem mem
  have whole : s = glue ['\n'] (before ++ line :: behind) := by rw [← split, ← unlines, unlines_lines]
  clear mem split
  induction before generalizing s with
  | nil =>
    cases behind with
    | nil => exact ⟨[], [], by rw [whole]; simp [glue], .inl rfl⟩
    | cons l ls => exact ⟨[], '\n' :: glue ['\n'] (l :: ls), by rw [whole]; simp [glue], .inl rfl⟩
  | cons l before ih =>
    obtain ⟨left, rest, inner, start⟩ := ih rfl
    have outer : s = l ++ '\n' :: glue ['\n'] (before ++ line :: behind) := by
      rw [whole, List.cons_append]
      cases before <;> simp [glue]
    refine ⟨l ++ '\n' :: left, rest, by rw [outer, inner]; simp, ?_⟩
    rcases start with rfl | ⟨c, rfl⟩
    · exact .inr ⟨l, rfl⟩
    · exact .inr ⟨l ++ '\n' :: c, by simp⟩

/-- a text falls apart into whole lines and the beginning of the next one -/
theorem exists_lineStart (s : List Char) : ∃ left last, s = left ++ last ∧ LineStart left ∧ '\n' ∉ last := by
  by_cases feed : '\n' ∈ s
  · obtain ⟨last, left, back, free⟩ := List.eq_append_cons_of_mem (List.mem_reverse.mpr feed)
    refine ⟨left.reverse ++ ['\n'], last.reverse, ?_, .inr ⟨_, rfl⟩, fun mem => free (List.mem_reverse.mp mem)⟩
    rw [← List.reverse_reverse s, back]
    simp
  · exact ⟨[], s, rfl, .inl rfl, feed⟩

/-! ## letters of either case -/

/-- a word of small letters, written with letters of either case -/
def Folded (word written : List Char) : Prop := List.Forall₂ (fun l c => meets l c = true) word written

theorem afterFolded?_eq_some {word : List Char} :
    afterFolded? word s = some r ↔ ∃ written, Folded word written ∧ s = written ++ r := by
  induction word generalizing s with
  | nil =>
    simp only [afterFolded?, Folded, List.forall₂_nil_left_iff, exists_eq_left, List.nil_append,
      Option.some.injEq]
  | cons l ls ih =>
    cases s with
    | nil => simp [afterFolded?, Folded, List.forall₂_cons_left_iff]
    | cons c s =>
      rw [afterFolded?]
      constructor
      · intro h
        split at h
        · next met =>
          obtain ⟨written, folded, rfl⟩ := ih.mp h
          exact ⟨c :: written, .cons met folded, rfl⟩
        · cases h
      · rintro ⟨written, folded, whole⟩
        cases folded with
        | cons met folded =>
          rw [List.cons_append, List.cons.injEq] at whole
          obtain ⟨rfl, rfl⟩ := whole
          rw [if_pos met, ih]
          exact ⟨_, folded, rfl⟩

theorem isBlank_of_meets {l : Char} (visible : isBlank l = false) (met : meets l c = true) :
    isBlank c = false := by
  by_contra other
  have blank : isBlank c = true := by simpa using other
  have small : c.toLower = c := dif_neg fun capital => by
    have word : isWord c = true := isWord_of_isCapital (decide_eq_true capital)
    rw [isBlank_of_isWord word] at blank
    cases blank
  have apart : c ≠ l := by
    rintro rfl
    rw [visible] at blank
    cases blank
  have letters : isBlank '\u0130' = false ∧ isBlank '\u0131' = false ∧ isBlank '\u212A' = false ∧
      isBlank '\u017F' = false := by decide
  simp only [meets, small, Bool.or_eq_true, Bool.and_eq_true, beq_iff_eq, apart, false_or] at met
  rcases met with (⟨-, rfl | rfl⟩ | ⟨-, rfl⟩) | ⟨-, rfl⟩ <;> simp [letters] at blank

theorem Folded.stops {word written : List Char} (folded : Folded word written) (some_ : word ≠ [])
    (visible : Stops isBlank word) : Stops isBlank (written ++ r) := by
  cases folded with
  | nil => exact absurd rfl some_
  | cons met folded => exact stops_cons.mpr (isBlank_of_meets (stops_cons.mp visible) met)

theorem Folded.ends {word written : List Char} (folded : Folded word written) (some_ : word ≠ [])
    (ends : Stops isBlank word.reverse) : ∃ init c, written = init ++ [c] ∧ isBlank c = false := by
  have backward : Folded word.reverse written.reverse := List.forall₂_reverse_iff.mpr folded
  have visible : Stops isBlank (written.reverse ++ []) := backward.stops (by simpa using some_) ends
  rcases List.eq_nil_or_concat written with rfl | ⟨init, c, rfl⟩
  · cases folded
    exact absurd rfl some_
  · rw [List.append_nil, List.concat_eq_append, List.reverse_concat, stops_cons] at visible
    exact ⟨init, c, List.concat_eq_append, visible⟩

end SnippetStudio.Text
