import SnippetStudio.Proofs.Text.Reading
import SnippetStudio.Snippet.Fence

/-!
# What stands between fences

A block opens with a fence, a word and spaces, and it goes on behind the line feed; it closes at the next fence.
Text without a fence in it (`Fenceless`) can neither open a block nor close one, also where it has single
backticks next to a fence: a fence that begins in it has a further backtick behind it, where a word would stand.

* `opened?_eq_some`   what stands where a block opens;
* `block?_of_opened`  the text in front of the first block is passed over;
* `closed?_code`      code goes up to the fence behind it, a line feed before the fence excepted;
* `unfenced_fenced`   **code between fences comes back**, and a text without fences is left as it is.
-/

namespace SnippetStudio

namespace Fence

open Text

variable {s r code prose tag spaces : List Char} {c : Char}

def Fenceless (s : List Char) : Prop := ¬mark <:+: s

theorem contains_mark : contains mark s = true ↔ mark <:+: s := by
  rw [contains_iff]
  constructor <;> rintro ⟨u, r, whole⟩ <;> exact ⟨u, r, whole.symm⟩

instance (s : List Char) : Decidable (Fenceless s) := decidable_of_iff _ (not_congr contains_mark)

theorem Fenceless.of_infix {t : List Char} (free : Fenceless s) (within : t <:+: s) : Fenceless t :=
  fun fence => free (fence.trans within)

theorem Fenceless.of_cons (free : Fenceless (c :: s)) : Fenceless s :=
  free.of_infix (List.suffix_cons c s).isInfix

theorem eq_tick_of_mem_mark (mem : c ∈ mark) : c = '`' := by
  simpa [mark] using mem

/-! ## where a block opens -/

/-- what stands behind the fence of an opening line, up to the code -/
def IsOpening (tag spaces : List Char) : Prop := (∀ c ∈ tag, isTag c = true) ∧ ∀ c ∈ spaces, isSpace c = true

theorem isTag_of_isSpace (space : isSpace c = true) : isTag c = false := by
  simp only [isSpace, Bool.or_eq_true, beq_iff_eq] at space
  rcases space with rfl | rfl <;> decide

theorem IsOpening.stops (opening : IsOpening tag spaces) : Stops isTag (spaces ++ '\n' :: r) := by
  cases spaces with
  | nil => exact stops_cons.mpr (by decide)
  | cons c spaces => exact stops_cons.mpr (isTag_of_isSpace (opening.2 c List.mem_cons_self))

theorem opened?_eq_some : opened? s = some r ↔
    ∃ tag spaces, IsOpening tag spaces ∧ s = mark ++ (tag ++ (spaces ++ '\n' :: r)) := by
  constructor
  · intro h
    unfold opened? at h
    split at h
    · next rest line =>
      obtain ⟨behind, fence, line⟩ := Option.map_eq_some_iff.mp line
      have word := List.takeWhile_append_dropWhile (p := isTag) (l := behind)
      have space := List.takeWhile_append_dropWhile (p := isSpace) (l := behind.dropWhile isTag)
      refine ⟨behind.takeWhile isTag, (behind.dropWhile isTag).takeWhile isSpace,
        ⟨fun c mem => List.mem_takeWhile_imp mem, fun c mem => List.mem_takeWhile_imp mem⟩, ?_⟩
      rw [after?_eq_some.mp fence, ← Option.some.inj h, ← line, space, word]
    · cases h
  · rintro ⟨tag, spaces, opening, rfl⟩
    have line : Stops isSpace ('\n' :: r) := stops_cons.mpr (by decide)
    rw [opened?, after?_append, Option.map_some, dropWhile_run opening.1 opening.stops,
      dropWhile_run opening.2 line]
    rfl

theorem IsOpening.ne_tick (opening : IsOpening tag spaces) : tag ++ (spaces ++ '\n' :: r) ≠ '`' :: s := by
  intro same
  have plain : isTag '`' = false ∧ isSpace '`' = false := by decide
  cases tag with
  | cons c tag =>
    obtain rfl : c = '`' := (List.cons.inj same).1
    have word := opening.1 _ List.mem_cons_self
    rw [plain.1] at word
    cases word
  | nil =>
    cases spaces with
    | cons c spaces =>
      obtain rfl : c = '`' := (List.cons.inj same).1
      have space := opening.2 _ List.mem_cons_self
      rw [plain.2] at space
      cases space
    | nil =>
      have feed : '\n' = '`' := (List.cons.inj same).1
      revert feed
      decide

theorem opened?_of_fenceless (free : Fenceless s) : opened? s = none := by
  refine Option.eq_none_iff_forall_ne_some.mpr fun r opens => free ?_
  obtain ⟨tag, spaces, -, rfl⟩ := opened?_eq_some.mp opens
  exact (List.prefix_append _ _).isInfix

/-- no block opens in a text without fences, not even with the help of a fence behind it -/
theorem opened?_before (nonempty : prose ≠ []) (free : Fenceless prose) :
    opened? (prose ++ (mark ++ r)) = none := by
  refine Option.eq_none_iff_forall_ne_some.mpr fun inner opens => ?_
  obtain ⟨tag, spaces, opening, whole⟩ := opened?_eq_some.mp opens
  match prose with
  | [] => exact nonempty rfl
  | [_] =>
    simp only [mark, List.cons_append, List.nil_append, List.cons.injEq, true_and] at whole
    exact opening.ne_tick whole.2.symm
  | [_, _] =>
    simp only [mark, List.cons_append, List.nil_append, List.cons.injEq, true_and] at whole
    exact opening.ne_tick whole.2.2.symm
  | a :: b :: c :: rest =>
    have front : mark <+: a :: b :: c :: rest := by
      simp only [mark, List.cons_append, List.nil_append, List.cons.injEq] at whole
      obtain ⟨rfl, rfl, rfl, -⟩ := whole
      exact List.prefix_append mark rest
    exact free front.isInfix

/-! ## where it closes -/

/-- no fence begins in code without one, unless the code ends in a backtick -/
theorem begins_mark_code (nonempty : code ≠ []) (free : Fenceless code) (last : code.getLast? ≠ some '`') :
    begins mark (code ++ (mark ++ s)) = false := by
  rw [← Bool.not_eq_true, begins_iff]
  rintro ⟨r, whole⟩
  rcases List.append_eq_append_iff.mp whole with ⟨u, fence, -⟩ | ⟨u, rfl, -⟩
  · -- the code is part of the fence
    have mem : code.getLast nonempty ∈ mark := fence ▸ List.mem_append_left u (List.getLast_mem nonempty)
    exact last (by rw [List.getLast?_eq_some_getLast nonempty, eq_tick_of_mem_mark mem])
  · exact free (List.prefix_append mark u).isInfix

theorem closed?_code (free : Fenceless code) (last : code.getLast? ≠ some '`') :
    ∃ body, closed? (code ++ (mark ++ s)) = some body ∧ (code = body ∨ code = body ++ ['\n']) := by
  induction code with
  | nil => exact ⟨[], rfl, .inl rfl⟩
  | cons c code ih =>
    have here : begins mark (c :: (code ++ (mark ++ s))) = false :=
      begins_mark_code (List.cons_ne_nil c code) free last
    have last' : code.getLast? ≠ some '`' := fun tick => last (by rw [List.getLast?_cons, tick]; rfl)
    rw [List.cons_append, closed?, here, Bool.false_or]
    by_cases feed : (c == '\n' && begins mark (code ++ (mark ++ s))) = true
    · -- the fence behind the line feed is the one that follows the code
      obtain ⟨line, fence⟩ := Bool.and_eq_true_iff.mp feed
      obtain rfl : code = [] := by
        by_contra nonempty
        rw [begins_mark_code nonempty free.of_cons last'] at fence
        cases fence
      rw [if_pos feed]
      exact ⟨[], rfl, .inr (by rw [beq_iff_eq.mp line, List.nil_append])⟩
    · rw [if_neg feed]
      obtain ⟨body, closes, same⟩ := ih free.of_cons last'
      refine ⟨c :: body, by rw [closes, Option.map_some], ?_⟩
      rcases same with rfl | rfl
      · exact .inl rfl
      · exact .inr rfl

/-! ## the first block -/

theorem block?_of_opened (free : Fenceless prose) (opens : opened? (mark ++ r) = some s)
    (closes : closed? s = some code) : block? (prose ++ (mark ++ r)) = some code := by
  suffices h : ∀ left, (placesFrom left (prose ++ (mark ++ r))).findSome?
      (fun x => (opened? x.rest).bind closed?) = some code from h []
  induction prose with
  | nil =>
    intro left
    show (Place.mk left (mark ++ r) :: placesFrom _ _).findSome? _ = _
    rw [List.findSome?_cons, opens, Option.bind_some, closes]
  | cons c prose ih =>
    intro left
    have before : opened? (c :: (prose ++ (mark ++ r))) = none :=
      opened?_before (List.cons_ne_nil c prose) free
    rw [List.cons_append, placesFrom, List.findSome?_cons, before]
    exact ih free.of_cons _

theorem block?_of_fenceless (free : Fenceless s) : block? s = none := by
  refine List.findSome?_eq_none_iff.mpr fun x mem => ?_
  have within : x.rest <:+ s := ⟨x.left.reverse, mem_places.mp mem⟩
  rw [opened?_of_fenceless (free.of_infix within.isInfix)]
  rfl

/-! ## without fences -/

theorem after?_mark (free : Fenceless s) : after? mark s = none := by
  refine Option.eq_none_iff_forall_ne_some.mpr fun r fence => free ?_
  rw [after?_eq_some.mp fence]
  exact (List.prefix_append mark r).isInfix

theorem Fenceless.reverse (free : Fenceless s) : Fenceless s.reverse := by
  intro fence
  have turned : mark.reverse <:+: s := by
    rw [← List.reverse_reverse s]
    exact List.reverse_infix.mpr fence
  exact free turned

theorem strip_of_fenceless (free : Fenceless s) : strip s = trim s := by
  have inner : Fenceless (trim s) := by
    obtain ⟨gap, gap', -, -, whole⟩ := exists_trim s
    exact free.of_infix ⟨gap, gap', by rw [List.append_assoc]; exact whole.symm⟩
  have opening : dropOpening (trim s) = trim s := by rw [dropOpening, after?_mark inner]
  have closing : dropClosing (trim s) = trim s := by rw [dropClosing, after?_mark inner.reverse]
  rw [strip, block?_of_fenceless free]
  show trim (dropClosing (dropOpening (trim s))) = trim s
  rw [opening, closing, trim_trim]

theorem strip_of_block (closes : block? s = some code) : strip s = trim code := by
  rw [strip, closes]

theorem trim_strip (s : List Char) : trim (strip s) = strip s := by
  unfold strip
  split <;> exact trim_trim _

end Fence

open Text Fence

theorem trimmed_unfenced (s : String) : trimmed (unfenced s) = unfenced s := by
  rw [trimmed, unfenced, String.toList_ofList, trim_strip]

/-- **Code between fences comes back** without the blanks around it, whatever stands before and behind the
fences; and a text without fences is the code. -/
theorem unfenced_fenced :
    (∀ prose tag spaces code rest : String, Fenceless prose.toList → (∀ c ∈ tag.toList, isTag c = true) →
      (∀ c ∈ spaces.toList, isSpace c = true) → Fenceless code.toList → code.toList.getLast? ≠ some '`' →
        unfenced (prose ++ "```" ++ tag ++ spaces ++ "\n" ++ code ++ "```" ++ rest) = trimmed code) ∧
      ∀ text : String, Fenceless text.toList → unfenced text = trimmed text := by
  constructor
  · intro prose tag spaces code rest free word space free' last
    obtain ⟨body, closes, same⟩ := closed?_code (s := rest.toList) free' last
    have opens (behind : List Char) : opened? (mark ++ (tag.toList ++ (spaces.toList ++ '\n' :: behind))) =
        some behind := opened?_eq_some.mpr ⟨tag.toList, spaces.toList, ⟨word, space⟩, rfl⟩
    have block := block?_of_opened free (opens _) closes
    have whole : (prose ++ "```" ++ tag ++ spaces ++ "\n" ++ code ++ "```" ++ rest).toList =
        prose.toList ++ (mark ++ (tag.toList ++ (spaces.toList ++ '\n' ::
          (code.toList ++ (mark ++ rest.toList))))) := by
      simp [mark]
    rw [unfenced, whole, strip_of_block block, trimmed]
    rcases same with same | same
    · rw [same]
    · have feed : Blanks ['\n'] := List.forall_mem_singleton.mpr (by decide)
      rw [same, ← trim_around blanks_nil feed, List.nil_append]
  · intro text free
    rw [unfenced, strip_of_fenceless free, trimmed]

/-- backticks next to both fences, and in the code -/
theorem unfenced_fenced_backticks :
    unfenced ("Use ``" ++ "```" ++ "c++" ++ " \t" ++ "\n" ++ "a `b`;\n" ++ "```" ++ "`!") = trimmed "a `b`;\n" ∧
      unfenced " two ``ticks " = trimmed " two ``ticks " := by
  have word : "c++".toList.all isTag = true := by decide
  have space : " \t".toList.all isSpace = true := by decide
  exact ⟨unfenced_fenced.1 "Use ``" "c++" " \t" "a `b`;\n" "`!" (by decide) (List.all_eq_true.mp word)
    (List.all_eq_true.mp space) (by decide) (by decide), unfenced_fenced.2 " two ``ticks " (by decide)⟩

end SnippetStudio
