import SnippetStudio.Proofs.Text.Reading
import SnippetStudio.Snippet.Names

/-!
# Names taken out of an object

Where a pattern is read there stand a keyword, braces with the entries, and an equals sign, blanks apart
(`pattern?_eq_some`).  Patterns are sought one behind the other, so a text that begins with a pattern has that
one and those of the text behind its equals sign (`patterns_of_pattern?`).

An entry is cut at its first colon and then at the first equals sign behind that (`boundPart`); blanks at its
ends do not matter (`boundPart_trim`).
-/

namespace SnippetStudio.Snippet

open Text

variable {x : Place} {left left' s inside rest gap gap' : List Char} {c : Char}

/-! ## what a pattern is -/

/-- the inside of the braces behind a keyword, and what follows the equals sign -/
def taken? (s : List Char) : Option (List Char × List Char) :=
  (after? ['\x7b'] (blanks s)).bind fun s => (cutOnce '\x7d' s).2.bind fun t =>
    (after? ['='] (blanks t)).map fun rest => ((cutOnce '\x7d' s).1, rest)

theorem after?_sign_eq_none {sign : Char} {s : List Char} (other : ∀ r, s = sign :: r → False) :
    after? [sign] s = none :=
  Option.eq_none_iff_forall_ne_some.mpr fun r behind => other r (after?_eq_some.mp behind)

theorem pattern?_eq (x : Place) : pattern? x =
    if x.isFresh then bindingWords.findSome? fun kw => (after? kw x.rest).bind taken? else none := by
  unfold pattern?
  congr
  funext kw
  congr
  funext s
  unfold taken?
  split
  · next inner opened =>
    rw [opened, show after? ['\x7b'] ('\x7b' :: inner) = some inner from rfl, Option.bind_some]
    obtain ⟨inside, _ | t⟩ := cutOnce '\x7d' inner
    · rfl
    · show _ = (after? ['='] (blanks t)).map fun rest => (inside, rest)
      dsimp only
      split
      · next rest equals =>
        rw [equals]
        rfl
      · next other =>
        rw [after?_sign_eq_none other]
        rfl
  · next other =>
    rw [after?_sign_eq_none other]
    rfl

/-- braces and an equals sign, with blanks in front of either -/
def braced (gap inside gap' rest : List Char) : List Char :=
  gap ++ '\x7b' :: (inside ++ '\x7d' :: (gap' ++ '=' :: rest))

theorem taken?_eq_some : taken? s = some (inside, rest) ↔ '\x7d' ∉ inside ∧
    ∃ gap gap', Blanks gap ∧ Blanks gap' ∧ s = braced gap inside gap' rest := by
  constructor
  · intro h
    obtain ⟨inner, opened, h⟩ := Option.bind_eq_some_iff.mp h
    obtain ⟨t, closed, h⟩ := Option.bind_eq_some_iff.mp h
    obtain ⟨rest', equals, same⟩ := Option.map_eq_some_iff.mp h
    obtain ⟨rfl, rfl⟩ := Prod.mk.inj same
    obtain ⟨cuts, free⟩ := of_cutOnce (s := inner) (Prod.ext rfl closed)
    obtain ⟨gap, gap_, front, -⟩ := exists_blanks s
    obtain ⟨gap', gap'_, back, -⟩ := exists_blanks t
    rw [after?_eq_some.mp equals] at back
    rw [after?_eq_some.mp opened, cuts, back] at front
    exact ⟨free, gap, gap', gap_, gap'_, front⟩
  · rintro ⟨free, gap, gap', gap_, gap'_, rfl⟩
    have brace (r : List Char) : blanks (gap ++ '\x7b' :: r) = ['\x7b'] ++ r :=
      blanks_run gap_ (stops_cons.mpr (by decide))
    have equals : blanks (gap' ++ '=' :: rest) = ['='] ++ rest :=
      blanks_run gap'_ (stops_cons.mpr (by decide))
    rw [taken?, braced, brace, after?_append, Option.bind_some, cutOnce_append free, Option.bind_some, equals,
      after?_append, Option.map_some]

/-- no keyword begins another one -/
theorem findSome?_bindingWords {kw : List Char} (mem : kw ∈ bindingWords) :
    (bindingWords.findSome? fun k => (after? k (kw ++ s)).bind taken?) = taken? s := by
  simp only [bindingWords, List.mem_cons, List.not_mem_nil, or_false] at mem
  simp only [bindingWords, List.findSome?_cons]
  rcases mem with rfl | rfl | rfl <;> rw [after?_append, Option.bind_some] <;> cases taken? s <;> rfl

theorem pattern?_eq_some : pattern? x = some (inside, rest) ↔ x.isFresh = true ∧ '\x7d' ∉ inside ∧
    ∃ kw ∈ bindingWords, ∃ gap gap', Blanks gap ∧ Blanks gap' ∧ x.rest = kw ++ braced gap inside gap' rest := by
  rw [pattern?_eq]
  constructor
  · intro h
    split at h
    · next fresh =>
      obtain ⟨kw, mem, h⟩ := List.exists_of_findSome?_eq_some h
      obtain ⟨s, behind, h⟩ := Option.bind_eq_some_iff.mp h
      obtain ⟨free, gap, gap', gap_, gap'_, rfl⟩ := taken?_eq_some.mp h
      exact ⟨fresh, free, kw, mem, gap, gap', gap_, gap'_, after?_eq_some.mp behind⟩
    · cases h
  · rintro ⟨fresh, free, kw, mem, gap, gap', gap_, gap'_, whole⟩
    rw [if_pos fresh, whole, findSome?_bindingWords mem]
    exact taken?_eq_some.mpr ⟨free, gap, gap', gap_, gap'_, rfl⟩

/-! ## patterns one behind the other -/

theorem length_of_pattern? (found : pattern? ⟨left, s⟩ = some (inside, rest)) : rest.length < s.length := by
  obtain ⟨-, -, kw, -, gap, gap', -, -, whole⟩ := pattern?_eq_some.mp found
  have lengths := congrArg List.length whole
  simp only [braced, List.length_append, List.length_cons] at lengths
  omega

theorem patternsFrom_of_found (found : pattern? ⟨left, s⟩ = some (inside, rest)) (n : Nat) :
    patternsFrom (n + 1) left s = inside :: patternsFrom n ('=' :: left) rest := by
  rw [patternsFrom.eq_def]
  simp only [found]

theorem patternsFrom_of_none (none_ : pattern? ⟨left, c :: s⟩ = none) (n : Nat) :
    patternsFrom (n + 1) left (c :: s) = patternsFrom n (c :: left) s := by
  rw [patternsFrom, none_]

/-- the search goes by whether a word runs into the text, and enough steps are enough -/
theorem patternsFrom_congr {n m : Nat} (alike : Place.isFresh ⟨left', s⟩ = Place.isFresh ⟨left, s⟩)
    (enough : s.length < n) (enough' : s.length < m) : patternsFrom m left' s = patternsFrom n left s := by
  induction n generalizing m left left' s with
  | zero => exact absurd enough (Nat.not_lt_zero _)
  | succ n ih =>
    obtain ⟨m, rfl⟩ := Nat.exists_eq_add_one_of_ne_zero (Nat.ne_zero_of_lt enough')
    have found' : pattern? ⟨left', s⟩ = pattern? ⟨left, s⟩ := by rw [pattern?_eq, pattern?_eq, alike]
    cases found : pattern? ⟨left, s⟩ with
    | some taken =>
      obtain ⟨inside, rest⟩ := taken
      have shorter := length_of_pattern? found
      rw [patternsFrom_of_found found, patternsFrom_of_found (found'.trans found)]
      exact congrArg (inside :: ·) (ih rfl (by omega) (by omega))
    | none =>
      cases s with
      | nil => simp only [patternsFrom, found, found']
      | cons c s =>
        rw [List.length_cons] at enough enough'
        rw [patternsFrom_of_none found, patternsFrom_of_none (found'.trans found)]
        exact ih rfl (by omega) (by omega)

theorem patterns_of_pattern? (found : pattern? ⟨[], s⟩ = some (inside, rest)) :
    patterns s = inside :: patterns rest := by
  have fresh : Place.isFresh ⟨['='], rest⟩ = Place.isFresh ⟨[], rest⟩ := rfl
  rw [patterns, patternsFrom_of_found found, patterns]
  exact congrArg (inside :: ·) (patternsFrom_congr fresh (Nat.lt_succ_self _) (length_of_pattern? found))

theorem patterns_cons (blank : isBlank c = true) : patterns (c :: s) = patterns s := by
  have none_ : pattern? ⟨[], c :: s⟩ = none := by
    refine Option.eq_none_iff_forall_ne_some.mpr fun taken found => ?_
    obtain ⟨-, -, kw, mem, gap, gap', -, -, whole⟩ := pattern?_eq_some.mp found
    simp only [bindingWords, List.mem_cons, List.not_mem_nil, or_false] at mem
    rcases mem with rfl | rfl | rfl <;> obtain ⟨rfl, -⟩ := List.cons.inj whole <;> revert blank <;> decide
  have fresh : Place.isFresh ⟨[c], s⟩ = Place.isFresh ⟨[], s⟩ := by
    show (!isWord c) = true
    rw [isWord_of_isBlank blank]
    rfl
  rw [patterns, patternsFrom_of_none none_, patterns]
  exact patternsFrom_congr fresh (Nat.lt_succ_self _) (Nat.lt_succ_self _)

theorem brace_of_pattern? {taken : List Char × List Char} (found : pattern? x = some taken) :
    '\x7b' ∈ x.rest := by
  obtain ⟨-, -, kw, -, gap, gap', -, -, whole⟩ := pattern?_eq_some.mp found
  rw [whole, braced]
  simp

theorem patternsFrom_of_not_mem (none_ : '\x7b' ∉ s) (n : Nat) (left : List Char) :
    patternsFrom n left s = [] := by
  induction n generalizing left s with
  | zero => rfl
  | succ n ih =>
    unfold patternsFrom
    split
    · next found => exact absurd (brace_of_pattern? found) none_
    · split
      · rfl
      · exact ih (fun mem => none_ (List.mem_cons_of_mem _ mem)) _

/-! ## entries -/

/-- what an entry declares: the alias if there is one, else the whole, without a default -/
def boundPart (entry : List Char) : List Char :=
  trim (upTo '=' ((cutOnce ':' entry).2.getD (cutOnce ':' entry).1))

theorem entryName?_eq (entry : List Char) : entryName? entry =
    if (trim entry).isEmpty || begins "...".toList (trim entry) || (boundPart (trim entry)).isEmpty then none
    else some (boundPart (trim entry)) := by
  unfold entryName? boundPart
  generalize trim entry = e
  obtain ⟨⟨front, _ | rest⟩, cuts⟩ : ∃ cuts, cutOnce ':' e = cuts := ⟨_, rfl⟩
  · cases part : trim (upTo '=' front) <;> simp [cuts, part]
  · cases part : trim (upTo '=' rest) <;> simp [cuts, part]

theorem upTo_of_not_mem {sep : Char} (free : sep ∉ s) : upTo sep s = s := by
  rw [← cutOnce_fst, cutOnce_of_not_mem free]

theorem trim_upTo_around (gap_ : Blanks gap) (gap'_ : Blanks gap') :
    trim (upTo '=' (gap ++ (s ++ gap'))) = trim (upTo '=' s) := by
  have equals : isBlank '=' = false := by decide
  have front : '=' ∉ gap := not_mem_blanks gap_ equals
  by_cases mem : '=' ∈ s
  · obtain ⟨u, v, rfl, free⟩ := List.eq_append_cons_of_mem mem
    have free' : '=' ∉ gap ++ u := by simp [front, free]
    rw [List.append_assoc, List.cons_append, ← List.append_assoc gap, upTo_append free', upTo_append free,
      trim_behind gap_]
  · have free : '=' ∉ gap ++ (s ++ gap') := by simp [front, mem, not_mem_blanks gap'_ equals]
    rw [upTo_of_not_mem free, upTo_of_not_mem mem, trim_around gap_ gap'_]

theorem boundPart_trim (entry : List Char) : boundPart (trim entry) = boundPart entry := by
  obtain ⟨gap, gap', gap_, gap'_, whole⟩ := exists_trim entry
  generalize trim entry = s at whole
  subst whole
  have colon : isBlank ':' = false := by decide
  have front : ':' ∉ gap := not_mem_blanks gap_ colon
  by_cases mem : ':' ∈ s
  · obtain ⟨u, v, rfl, free⟩ := List.eq_append_cons_of_mem mem
    have free' : ':' ∉ gap ++ u := by simp [front, free]
    rw [List.append_assoc, List.cons_append, ← List.append_assoc gap, boundPart, boundPart, cutOnce_append free,
      cutOnce_append free']
    exact (trim_upTo_around blanks_nil gap'_).symm
  · have free : ':' ∉ gap ++ (s ++ gap') := by simp [front, mem, not_mem_blanks gap'_ colon]
    rw [boundPart, boundPart, cutOnce_of_not_mem free, cutOnce_of_not_mem mem]
    exact (trim_upTo_around gap_ gap'_).symm

end SnippetStudio.Snippet
