import Mathlib.Data.List.Induction
import SnippetStudio.Proofs.Text.Reading

/-!
# Returns in front of the line feeds

`crlf` puts a carriage return in front of every line feed of a text.  A reader that goes by blanks, words and
literals without line feeds reads on in the same way and leaves the same rest, with its returns (`after?_crlf`,
`blanks_crlf`, `cutOnce_crlf`, …).

* `lines_crlf`          every line but the last one has a return at its end;
* `map_returned_iff`    what is asked of each line is answered alike just if no line is answered otherwise for
                        the return at its end;
* `exists_place_crlf`   what goes by such readers is found at a place of both texts or of none.
-/

namespace SnippetStudio.Text

variable {s r u v lit : List Char} {c sep : Char} {p : Char → Bool}

/-- a return in front of each line feed -/
def crlf (s : List Char) : List Char := s.flatMap fun c => if c = '\n' then ['\r', '\n'] else [c]

@[simp] theorem crlf_nil : crlf [] = [] := rfl

@[simp] theorem crlf_feed (s : List Char) : crlf ('\n' :: s) = '\r' :: '\n' :: crlf s := rfl

theorem crlf_cons (other : c ≠ '\n') (s : List Char) : crlf (c :: s) = c :: crlf s := by
  rw [crlf, List.flatMap_cons, if_neg other]
  rfl

theorem crlf_append (s r : List Char) : crlf (s ++ r) = crlf s ++ crlf r := List.flatMap_append

theorem crlf_of_not_mem (free : '\n' ∉ s) : crlf s = s := by
  induction s with
  | nil => rfl
  | cons c s ih =>
    rw [List.mem_cons, not_or] at free
    rw [crlf_cons (Ne.symm free.1), ih free.2]

theorem mem_crlf_of_ne (other : c ≠ '\r') : c ∈ crlf s ↔ c ∈ s := by
  rw [crlf, List.mem_flatMap]
  constructor
  · rintro ⟨d, mem, among⟩
    split at among
    · next feed => rw [feed] at mem; simp_all
    · simp_all
  · intro mem
    refine ⟨c, mem, ?_⟩
    split
    · next feed => simp [feed]
    · simp

theorem isEmpty_crlf (s : List Char) : (crlf s).isEmpty = s.isEmpty := by
  cases s with
  | nil => rfl
  | cons c s =>
    by_cases feed : c = '\n'
    · rw [feed]
      rfl
    · rw [crlf_cons feed]
      rfl

theorem getLast?_crlf (s : List Char) : (crlf s).getLast? = s.getLast? := by
  rcases List.eq_nil_or_concat s with rfl | ⟨s, c, rfl⟩
  · rfl
  · rw [List.concat_eq_append, crlf_append, List.getLast?_append, List.getLast?_append]
    by_cases feed : c = '\n'
    · rw [feed]
      rfl
    · rw [crlf_cons feed]
      rfl

/-! ## runs -/

/-- the test does not tell returns from line feeds -/
theorem dropWhile_crlf (even : p '\r' = p '\n') (s : List Char) :
    (crlf s).dropWhile p = crlf (s.dropWhile p) := by
  induction s with
  | nil => rfl
  | cons c s ih =>
    by_cases feed : c = '\n'
    · subst feed
      rw [crlf_feed, List.dropWhile_cons, List.dropWhile_cons, List.dropWhile_cons, even]
      split
      · exact ih
      · rfl
    · rw [crlf_cons feed, List.dropWhile_cons, List.dropWhile_cons]
      split
      · exact ih
      · exact (crlf_cons feed s).symm

theorem takeWhile_crlf (even : p '\r' = p '\n') (s : List Char) :
    (crlf s).takeWhile p = crlf (s.takeWhile p) := by
  have whole : (crlf s).takeWhile p ++ crlf (s.dropWhile p) = crlf (s.takeWhile p) ++ crlf (s.dropWhile p) := by
    rw [← dropWhile_crlf even, List.takeWhile_append_dropWhile, dropWhile_crlf even, ← crlf_append,
      List.takeWhile_append_dropWhile]
  exact List.append_cancel_right whole

@[simp] theorem blanks_crlf (s : List Char) : blanks (crlf s) = crlf (blanks s) := dropWhile_crlf rfl s

@[simp] theorem blanks1?_crlf (s : List Char) : blanks1? (crlf s) = (blanks1? s).map crlf := by
  cases s with
  | nil => rfl
  | cons c s =>
    by_cases feed : c = '\n'
    · subst feed
      show some (blanks ('\n' :: crlf s)) = some (crlf (blanks s))
      rw [← blanks_crlf]
      rfl
    · rw [crlf_cons feed, blanks1?, blanks1?, blanks_crlf]
      split <;> rfl

theorem trimEnd_crlf (s : List Char) : trimEnd (crlf s) = crlf (trimEnd s) := by
  induction s using List.reverseRecOn with
  | nil => rfl
  | append_singleton s c ih =>
    by_cases feed : c = '\n'
    · subst feed
      have returned : crlf (s ++ ['\n']) = crlf s ++ ['\r'] ++ ['\n'] := by rw [crlf_append]; simp
      have blank : isBlank '\r' = true ∧ isBlank '\n' = true := by decide
      rw [returned, trimEnd_concat, trimEnd_concat, trimEnd_concat, if_pos blank.1, if_pos blank.2,
        if_pos blank.2, ih]
    · have longer : crlf (s ++ [c]) = crlf s ++ [c] := by rw [crlf_append, crlf_cons feed]; rfl
      rw [longer, trimEnd_concat, trimEnd_concat, ih]
      split
      · rfl
      · exact longer.symm

@[simp] theorem trim_crlf (s : List Char) : trim (crlf s) = crlf (trim s) := by
  have start : trimStart (crlf s) = crlf (trimStart s) := blanks_crlf s
  rw [trim, start, trimEnd_crlf]
  rfl

/-! ## literals -/

/-- neither a return nor a line feed -/
def Unbroken (lit : List Char) : Prop := ∀ c ∈ lit, c ≠ '\r' ∧ c ≠ '\n'

instance (lit : List Char) : Decidable (Unbroken lit) :=
  decidable_of_iff (lit.all fun c => c != '\r' && c != '\n') (by simp [Unbroken])

theorem after?_crlf (unbroken : Unbroken lit) (s : List Char) :
    after? lit (crlf s) = (after? lit s).map crlf := by
  induction lit generalizing s with
  | nil => rfl
  | cons l lit ih =>
    obtain ⟨⟨noReturn, noFeed⟩, unbroken⟩ := List.forall_mem_cons.mp unbroken
    cases s with
    | nil => rfl
    | cons c s =>
      by_cases feed : c = '\n'
      · subst feed
        rw [crlf_feed, after?, after?, if_neg (Ne.symm noReturn), if_neg (Ne.symm noFeed)]
        rfl
      · rw [crlf_cons feed, after?, after?]
        split
        · exact ih unbroken s
        · rfl

theorem begins_crlf (unbroken : Unbroken lit) (s : List Char) : begins lit (crlf s) = begins lit s := by
  rw [begins, begins, after?_crlf unbroken, Option.isSome_map]

@[simp] theorem startsWord_crlf (s : List Char) : startsWord (crlf s) = startsWord s := by
  cases s with
  | nil => rfl
  | cons c s =>
    by_cases feed : c = '\n'
    · rw [feed]
      rfl
    · rw [crlf_cons feed]
      rfl

/-! ## pieces -/

theorem upTo_crlf (unbroken : Unbroken [sep]) (s : List Char) : upTo sep (crlf s) = crlf (upTo sep s) := by
  obtain ⟨noReturn, noFeed⟩ := unbroken sep List.mem_cons_self
  exact takeWhile_crlf (by simp [Ne.symm noReturn, Ne.symm noFeed]) s

theorem cutOnce_crlf (unbroken : Unbroken [sep]) (s : List Char) :
    cutOnce sep (crlf s) = Prod.map crlf (Option.map crlf) (cutOnce sep s) := by
  obtain ⟨noReturn, noFeed⟩ := unbroken sep List.mem_cons_self
  induction s with
  | nil => rfl
  | cons c s ih =>
    by_cases feed : c = '\n'
    · subst feed
      rw [crlf_feed, cutOnce, cutOnce, cutOnce, if_neg (Ne.symm noReturn), if_neg (Ne.symm noFeed),
        if_neg (Ne.symm noFeed), ih]
      rfl
    · rw [crlf_cons feed, cutOnce, cutOnce, ih]
      split
      · rfl
      · simp [crlf_cons feed]

theorem cut_crlf (unbroken : Unbroken [sep]) (s : List Char) : cut sep (crlf s) = (cut sep s).map crlf := by
  obtain ⟨noReturn, noFeed⟩ := unbroken sep List.mem_cons_self
  induction s with
  | nil => rfl
  | cons c s ih =>
    by_cases here : c = sep
    · rw [here, crlf_cons noFeed, cut_cons_self, cut_cons_self, ih]
      rfl
    · obtain ⟨l, ls, whole, longer⟩ := cut_cons_of_ne here s
      rw [whole, List.map_cons] at ih
      by_cases feed : c = '\n'
      · subst feed
        rw [longer, crlf_feed, cut, if_neg (Ne.symm noReturn), cut, if_neg (Ne.symm noFeed), ih]
        rfl
      · rw [longer, crlf_cons feed, cut, if_neg here, ih, List.map_cons, crlf_cons feed]

/-! ## lines -/

/-- each line but the last one with a return at its end -/
def returned : List (List Char) → List (List Char)
  | [] => []
  | [l] => [l]
  | l :: l' :: ls => (l ++ ['\r']) :: returned (l' :: ls)

theorem returned_cons {ls : List (List Char)} (l : List Char) (more : ls ≠ []) :
    returned (l :: ls) = (l ++ ['\r']) :: returned ls := by
  obtain ⟨l', ls, rfl⟩ := List.exists_cons_of_ne_nil more
  rfl

theorem lines_crlf (s : List Char) : lines (crlf s) = returned (lines s) := by
  induction s with
  | nil => rfl
  | cons c s ih =>
    unfold lines at ih ⊢
    have more := cut_ne_nil '\n' s
    by_cases feed : c = '\n'
    · subst feed
      have first : cut '\n' ('\r' :: '\n' :: crlf s) = ['\r'] :: cut '\n' (crlf s) := by
        rw [cut, if_neg (by decide), cut_cons_self]
      rw [crlf_feed, first, cut_cons_self, returned_cons [] more, ih]
      rfl
    · obtain ⟨l, ls, whole, longer⟩ := cut_cons_of_ne feed s
      rw [crlf_cons feed, longer, cut, if_neg feed, ih, whole]
      cases ls <;> rfl

theorem map_returned_iff {α : Type} {g : List Char → α} {ls : List (List Char)} :
    (returned ls).map g = ls.map g ↔ ∀ l ∈ ls.dropLast, g (l ++ ['\r']) = g l := by
  induction ls with
  | nil => simp [returned]
  | cons l ls ih =>
    cases ls with
    | nil => simp [returned]
    | cons l' ls =>
      rw [returned_cons l (List.cons_ne_nil _ _), List.map_cons, List.map_cons, List.cons.injEq, ih,
        List.dropLast_cons_cons, List.forall_mem_cons]

@[simp] theorem length_returned (ls : List (List Char)) : (returned ls).length = ls.length := by
  have same : (returned ls).map (fun _ => ()) = ls.map fun _ => () := map_returned_iff.mpr fun _ _ => rfl
  rw [← List.length_map (fun _ => ()), same, List.length_map]

theorem getElem?_returned {ls : List (List Char)} {i : Nat} :
    (returned ls)[i]? = if i + 1 < ls.length then ls[i]?.map (· ++ ['\r']) else ls[i]? := by
  induction ls generalizing i with
  | nil => rfl
  | cons l ls ih =>
    cases ls with
    | nil => rfl
    | cons l' ls =>
      rw [returned_cons l (List.cons_ne_nil _ _)]
      cases i with
      | zero => simp
      | succ i => simp [ih]

/-! ## places -/

theorem crlf_eq_append (whole : crlf s = u ++ v) :
    (∃ l r, s = l ++ r ∧ u = crlf l ∧ v = crlf r) ∨
      ∃ l r, s = l ++ '\n' :: r ∧ u = crlf l ++ ['\r'] ∧ v = '\n' :: crlf r := by
  induction s generalizing u with
  | nil =>
    obtain ⟨rfl, rfl⟩ := List.append_eq_nil_iff.mp whole.symm
    exact .inl ⟨[], [], rfl, rfl, rfl⟩
  | cons c s ih =>
    cases u with
    | nil => exact .inl ⟨[], c :: s, rfl, rfl, whole.symm⟩
    | cons d u =>
      by_cases feed : c = '\n'
      · subst feed
        rw [crlf_feed, List.cons_append, List.cons.injEq] at whole
        obtain ⟨rfl, whole⟩ := whole
        cases u with
        | nil => exact .inr ⟨[], s, rfl, rfl, whole.symm⟩
        | cons e u =>
          rw [List.cons_append, List.cons.injEq] at whole
          obtain ⟨rfl, whole⟩ := whole
          rcases ih whole with ⟨l, r, rfl, rfl, rfl⟩ | ⟨l, r, rfl, rfl, rfl⟩
          · exact .inl ⟨'\n' :: l, r, rfl, rfl, rfl⟩
          · exact .inr ⟨'\n' :: l, r, rfl, rfl, rfl⟩
      · rw [crlf_cons feed, List.cons_append, List.cons.injEq] at whole
        obtain ⟨rfl, whole⟩ := whole
        rcases ih whole with ⟨l, r, rfl, rfl, rfl⟩ | ⟨l, r, rfl, rfl, rfl⟩
        · exact .inl ⟨c :: l, r, rfl, (crlf_cons feed l).symm, rfl⟩
        · exact .inr ⟨c :: l, r, rfl, by rw [crlf_cons feed]; rfl, rfl⟩

/-- the place between a return and its line feed is the only one that is new -/
theorem exists_place_crlf {P : Place → Prop} (feed : ∀ left r, ¬P ⟨left, '\n' :: r⟩)
    (same : ∀ l r, P ⟨(crlf l).reverse, crlf r⟩ ↔ P ⟨l.reverse, r⟩) :
    (∃ x ∈ places (crlf s), P x) ↔ ∃ x ∈ places s, P x := by
  constructor
  · rintro ⟨⟨left, rest⟩, mem, here⟩
    rcases crlf_eq_append (mem_places.mp mem).symm with ⟨l, r, rfl, front, rfl⟩ | ⟨l, r, rfl, -, rfl⟩
    · obtain rfl : left = (crlf l).reverse := List.reverse_eq_iff.mp front
      exact ⟨⟨l.reverse, r⟩, mem_places.mpr (by simp), (same l r).mp here⟩
    · exact absurd here (feed left (crlf r))
  · rintro ⟨⟨left, rest⟩, mem, here⟩
    obtain rfl := mem_places.mp mem
    rw [← List.reverse_reverse left] at here
    refine ⟨⟨(crlf left.reverse).reverse, crlf rest⟩, mem_places.mpr ?_, (same _ _).mpr here⟩
    rw [List.reverse_reverse, crlf_append]

theorem occurs_crlf {test : Place → Bool} (feed : ∀ left r, test ⟨left, '\n' :: r⟩ = false)
    (same : ∀ l r, test ⟨(crlf l).reverse, crlf r⟩ = test ⟨l.reverse, r⟩) (s : List Char) :
    occurs test (crlf s) = occurs test s := by
  rw [Bool.eq_iff_iff, occurs, occurs, List.any_eq_true, List.any_eq_true]
  refine exists_place_crlf (fun left r here => ?_) fun l r => by rw [same]
  rw [feed] at here
  cases here

theorem isFresh_crlf (l r r' : List Char) :
    Place.isFresh ⟨(crlf l).reverse, r⟩ = Place.isFresh ⟨l.reverse, r'⟩ := by
  rw [Place.isFresh, Place.isFresh, List.head?_reverse, List.head?_reverse, getLast?_crlf]

theorem findSome?_map {α β γ : Type} {as : List α} {f : α → Option β} {g : α → Option γ} {h : γ → β}
    (same : ∀ a ∈ as, f a = (g a).map h) : as.findSome? f = (as.findSome? g).map h := by
  induction as with
  | nil => rfl
  | cons a as ih =>
    obtain ⟨first, others⟩ := List.forall_mem_cons.mp same
    rw [List.findSome?_cons, List.findSome?_cons, first, ih others]
    cases g a <;> rfl

theorem keyword?_crlf {kws : List (List Char)} (unbroken : ∀ kw ∈ kws, Unbroken kw) (l r : List Char) :
    keyword? kws ⟨(crlf l).reverse, crlf r⟩ = (keyword? kws ⟨l.reverse, r⟩).map crlf := by
  have read : ∀ kw ∈ kws, (after? kw (crlf r)).bind blanks1? = ((after? kw r).bind blanks1?).map crlf := by
    intro kw mem
    rw [after?_crlf (unbroken kw mem)]
    cases after? kw r with
    | none => rfl
    | some s => exact blanks1?_crlf s
  rw [keyword?, keyword?, isFresh_crlf l (crlf r) r]
  split
  · exact findSome?_map read
  · rfl

theorem keyword?_feed {kws : List (List Char)} (unbroken : ∀ kw ∈ kws, Unbroken kw) (some_ : [] ∉ kws)
    (left r : List Char) : keyword? kws ⟨left, '\n' :: r⟩ = none := by
  have none_ : ∀ kw ∈ kws, (after? kw ('\n' :: r)).bind blanks1? = none := by
    intro kw mem
    cases kw with
    | nil => exact absurd mem some_
    | cons l kw =>
      have other := (unbroken _ mem l List.mem_cons_self).2
      rw [after?, if_neg (Ne.symm other)]
      rfl
  rw [keyword?]
  split
  · exact List.findSome?_eq_none_iff.mpr none_
  · rfl

end SnippetStudio.Text
