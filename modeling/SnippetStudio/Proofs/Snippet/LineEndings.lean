import SnippetStudio.Proofs.Snippet.Constructs
import SnippetStudio.Proofs.Snippet.Repeats
import SnippetStudio.Proofs.Snippet.ReturnsInText

/-!
# Line endings

A text and the same text with returns in front of its line feeds are checked alike, or nearly so.  A construct
that ends with a visible character is shown by a line just if it is shown by the line with a return behind it
(`shows_returned`), and that goes for all that the linter looks for in a line but three things:

* `moduleProblem?_returned_iff`     a line of nothing but `export` becomes a statement;
* `truncations_returned_iff`        a line that ends with `etc` does not end with it any more;
* `checkDuplicates_returned_iff`    the last line of the text, which gets no return, is not the same as one
                                    that has got it.

Notices, components in use and the number of lines are the same for both texts.  The outcomes are the same as a
whole just if none of the three is there (`lint_crlf_iff`).
-/

namespace SnippetStudio

/-- the text with a return in front of each line feed -/
def withReturns (code : String) : String := String.ofList (Text.crlf code.toList)

theorem toList_withReturns (code : String) : (withReturns code).toList = Text.crlf code.toList :=
  String.toList_ofList

end SnippetStudio

namespace SnippetStudio.Snippet

open Text

variable {line : Line} {ls ls' : List Line} {P : List Char → Prop}

/-! ## constructs -/

def EndsVisibly (P : List Char → Prop) : Prop :=
  ∀ front, P front → ∃ init c, front = init ++ [c] ∧ isBlank c = false

theorem not_returned (visible : EndsVisibly P) : ¬P (line ++ ['\r']) := by
  intro shown
  obtain ⟨init, c, ends, other⟩ := visible _ shown
  obtain rfl : '\r' = c := List.singleton_inj.mp (List.append_inj' ends rfl).2
  cases other

theorem shows_returned (visible : EndsVisibly P) : Shows P (line ++ ['\r']) ↔ Shows P line := by
  constructor
  · rintro ⟨front, ahead, shown⟩
    rcases List.prefix_concat_iff.mp ahead with rfl | ahead
    · exact absurd shown (not_returned visible)
    · exact ⟨front, ahead, shown⟩
  · rintro ⟨front, ahead, shown⟩
    exact ⟨front, ahead.trans (List.prefix_append line _), shown⟩

theorem test_returned {test : Line → Bool} (shown : ∀ {line}, test line = true ↔ Shows P line)
    (visible : EndsVisibly P) (line : Line) : test (line ++ ['\r']) = test line := by
  rw [Bool.eq_iff_iff, shown, shown]
  exact shows_returned visible

theorem EndsVisibly.or {Q : List Char → Prop} (visible : EndsVisibly P) (visible' : EndsVisibly Q) :
    EndsVisibly fun front => P front ∨ Q front := by
  rintro front (shown | shown)
  · exact visible front shown
  · exact visible' front shown

theorem literal_visible {lit : List Char} (some_ : lit ≠ []) (visible : isBlank (lit.getLast some_) = false) :
    EndsVisibly (lit <:+ ·) := by
  rintro _ ⟨left, rfl⟩
  refine ⟨left ++ lit.dropLast, lit.getLast some_, ?_, visible⟩
  rw [List.append_assoc, List.dropLast_append_getLast]

namespace Construct

theorem importOpening_visible : EndsVisibly importOpening := by
  rintro _ ⟨lead, gap, c, -, -, -, starts, rfl⟩
  exact ⟨_, c, rfl, isBlank_of_startsImport starts⟩

theorem classAttribute_visible : EndsVisibly classAttribute := by
  rintro _ ⟨left, sign, gap, q, -, -, -, -, quote, rfl⟩
  refine ⟨_, q, rfl, ?_⟩
  rcases quote with rfl | rfl <;> decide

theorem styleString_visible : EndsVisibly styleString := by
  rintro _ ⟨left, sign, gap, text, -, -, -, -, rfl⟩
  exact ⟨left ++ sign ++ gap ++ '"' :: text, '"', by simp, by decide⟩

theorem labelFor_visible : EndsVisibly labelFor := by
  rintro _ ⟨left, inside, sign, -, -, ⟨gap, -, rfl⟩, rfl⟩
  exact ⟨left ++ "<label".toList ++ inside ++ ("for".toList ++ gap), '=', by simp, by decide⟩

theorem htmlComment_visible : EndsVisibly htmlComment := literal_visible (by decide) (by decide)

theorem mapCall_visible : EndsVisibly mapCall :=
  .or (literal_visible (by decide) (by decide)) (literal_visible (by decide) (by decide))

theorem keyGiven_visible : EndsVisibly keyGiven :=
  .or (literal_visible (by decide) (by decide)) (literal_visible (by decide) (by decide))

theorem commentOpening_visible : EndsVisibly commentOpening := by
  rintro _ ⟨lead, -, rfl | rfl | rfl⟩
  · exact ⟨lead ++ ['/'], '/', by simp, by decide⟩
  · exact ⟨lead, '*', rfl, by decide⟩
  · exact ⟨lead ++ ['/'], '*', by simp, by decide⟩

theorem elision_visible : EndsVisibly elision := by
  rintro _ ⟨left, gap, word, written, mem, -, folded, rfl⟩
  obtain ⟨some_, -, last⟩ := elisions_visible word mem
  obtain ⟨init, c, rfl, visible⟩ := folded.ends some_ last
  exact ⟨left ++ "//".toList ++ gap ++ init, c, by simp, visible⟩

theorem elisionBlock_visible : EndsVisibly elisionBlock := by
  rintro _ ⟨left, gap, gap', -, -, rfl⟩
  exact ⟨left ++ "\x7b/*".toList ++ gap ++ "...".toList ++ gap' ++ "*/".toList, '\x7d', by simp, by decide⟩

theorem placeholder_visible : EndsVisibly placeholder := .or elision_visible elisionBlock_visible

theorem directive_visible : EndsVisibly directive := by
  rintro _ ⟨lead, q, q', -, -, quote, rfl⟩
  exact ⟨lead ++ q :: "use client".toList, q', by simp, isBlank_of_isQuote quote⟩

end Construct

open Construct

/-! ## tests of a line -/

theorem isComment_returned (line : Line) : isComment (line ++ ['\r']) = isComment line :=
  test_returned isComment_iff commentOpening_visible line

theorem attributeProblems_returned (line : Line) :
    attributeProblems (line ++ ['\r']) = attributeProblems line := by
  unfold attributeProblems
  rw [isComment_returned, test_returned showsClass_iff classAttribute_visible,
    test_returned showsLabelFor_iff labelFor_visible, test_returned showsStyle_iff styleString_visible,
    test_returned showsHtmlComment_iff htmlComment_visible]

theorem trim_returned (line : Line) : trim (line ++ ['\r']) = trim line := by
  have blank : Blanks ['\r'] := List.forall_mem_singleton.mpr (by decide)
  exact trim_around blanks_nil blank

theorem excerpt_returned (line : Line) : excerpt (line ++ ['\r']) = excerpt line := by
  rw [excerpt, excerpt, trim_returned]

theorem name?_returned (s : List Char) : (name? (s ++ ['\r'])).map (·.1) = (name? s).map (·.1) := by
  have run (s : List Char) : (s ++ ['\r']).takeWhile isWord = s.takeWhile isWord := by
    induction s with
    | nil => rfl
    | cons c s ih => rw [List.cons_append, List.takeWhile_cons, List.takeWhile_cons, ih]
  cases s with
  | nil => rfl
  | cons c s =>
    rw [List.cons_append, name?, name?, word, word, run]
    split <;> rfl

theorem tags_returned (line : Line) : tags (line ++ ['\r']) = tags line := by
  have none_ (left : List Char) : tag? ⟨left, ['\r']⟩ = none ∧ tag? ⟨left, []⟩ = none := by
    unfold tag?
    constructor <;> split <;> rfl
  have here (left s : List Char) (c : Char) : tag? ⟨left, c :: (s ++ ['\r'])⟩ = tag? ⟨left, c :: s⟩ := by
    by_cases sign : c = '<'
    · have opened (s : List Char) : after? ['<'] ('<' :: s) = some s := rfl
      rw [sign, tag?, tag?, opened, opened, Option.bind_some, Option.bind_some, name?_returned]
      rfl
    · have other (s : List Char) : after? ['<'] (c :: s) = none := by rw [after?, if_neg sign]
      rw [tag?, tag?, other, other]
      rfl
  have onward (left s : List Char) :
      (placesFrom left (s ++ ['\r'])).filterMap tag? = (placesFrom left s).filterMap tag? := by
    induction s generalizing left with
    | nil => simp [placesFrom, none_]
    | cons c s ih =>
      rw [List.cons_append, placesFrom, placesFrom, List.filterMap_cons, List.filterMap_cons, here, ih]
  exact onward [] line

/-! ## statements of modules -/

/-- nothing but `export`, blanks in front of it left out of account -/
def BareExport (line : Line) : Prop := ∃ lead, Blanks lead ∧ line = lead ++ "export".toList

theorem isExport_returned : isExport (line ++ ['\r']) = true ↔ isExport line = true ∨ BareExport line := by
  rw [isExport_iff, isExport_iff]
  constructor
  · rintro ⟨_, ahead, lead, c, lead_, blank, rfl⟩
    rcases List.prefix_concat_iff.mp ahead with whole | ahead
    · exact .inr ⟨lead, lead_, (List.append_inj' whole rfl).1.symm⟩
    · exact .inl ⟨_, ahead, lead, c, lead_, blank, rfl⟩
  · rintro (⟨front, ahead, shown⟩ | ⟨lead, lead_, rfl⟩)
    · exact ⟨front, ahead.trans (List.prefix_append line _), shown⟩
    · exact ⟨_, List.prefix_rfl, lead, '\r', lead_, by decide, rfl⟩

theorem moduleProblem?_returned_iff :
    moduleProblem? (line ++ ['\r']) = moduleProblem? line ↔ ¬BareExport line := by
  have imports := test_returned isImport_iff importOpening_visible line
  constructor
  · rintro same ⟨lead, lead_, rfl⟩
    have word (s : List Char) : blanks (lead ++ "export".toList ++ s) = "export".toList ++ s := by
      rw [List.append_assoc]
      exact blanks_run lead_ (stops_cons.mpr (by decide))
    have before : moduleProblem? (lead ++ "export".toList) = none := by
      rw [moduleProblem?, isImport, isExport, ← List.append_nil (lead ++ _), word]
      rfl
    have behind : moduleProblem? (lead ++ "export".toList ++ ['\r']) = some .exportStatement := by
      rw [moduleProblem?, isImport, isExport, word]
      rfl
    rw [before, behind] at same
    cases same
  · intro other
    have exports : isExport (line ++ ['\r']) = isExport line := by
      rw [Bool.eq_iff_iff, isExport_returned, or_iff_left other]
    rw [moduleProblem?, moduleProblem?, imports, exports]

/-! ## placeholders -/

/-- the line ends with `etc` behind a comment sign, and shows no other placeholder -/
def OnlyEtc (line : Line) : Prop := EndsInEtc line ∧ ¬Shows placeholder line

theorem endsInEtc_visible : EndsVisibly EndsInEtc := by
  rintro _ ⟨left, gap, written, dot, -, folded, rfl | rfl, rfl⟩
  · obtain ⟨init, c, rfl, visible⟩ := folded.ends (by decide) (by decide)
    exact ⟨left ++ "//".toList ++ gap ++ init, c, by simp, visible⟩
  · exact ⟨_, '.', rfl, by decide⟩

theorem showsTruncation_returned : showsTruncation (line ++ ['\r']) = true ↔ Shows placeholder line := by
  rw [showsTruncation_iff, or_iff_left (not_returned endsInEtc_visible), shows_returned placeholder_visible]

def truncations (line : Line) : List Problem :=
  if showsTruncation line then [.truncation (excerpt line)] else []

theorem truncations_returned_iff : truncations (line ++ ['\r']) = truncations line ↔ ¬OnlyEtc line := by
  have kept : showsTruncation (line ++ ['\r']) = true ↔ Shows placeholder line := showsTruncation_returned
  constructor
  · rintro same ⟨etc, bare⟩
    have found : showsTruncation line = true := showsTruncation_iff.mpr (.inr etc)
    rw [truncations, truncations, if_neg (kept.not.mpr bare), if_pos found] at same
    cases same
  · intro other
    have alike : showsTruncation (line ++ ['\r']) = showsTruncation line := by
      rw [Bool.eq_iff_iff, kept, showsTruncation_iff]
      exact ⟨.inl, fun shown => shown.elim id fun etc => by_contra fun bare => other ⟨etc, bare⟩⟩
    rw [truncations, truncations, alike, excerpt_returned]

/-! ## line by line -/

section
variable {α β : Type} {read : Line → List α}

/-- what is read on each line, with the line's number -/
def perLine (make : Nat → α → β) (read : Line → List α) (ls : List Line) : List β :=
  (numbered ls).flatMap fun p => (read p.2).map (make p.1)

theorem perLine_eq (make : Nat → α → β) (ls : List Line) :
    perLine make read ls = ((ls.map read).zipIdx 1).flatMap fun p => p.1.map (make p.2) := by
  rw [perLine, numbered, List.zipIdx_map, List.flatMap_map, List.flatMap_map]
  rfl

theorem perLine_congr (make : Nat → α → β) (same : ls'.map read = ls.map read) :
    perLine make read ls' = perLine make read ls := by
  rw [perLine_eq, perLine_eq, same]

end

/-- the findings of a line stand in front of those of all later lines -/
theorem first_of_told {κ : Type} (causes : List κ) (later : List (List κ)) (n : Nat) :
    (((causes :: later).zipIdx n).flatMap fun p => p.1.map (Finding.mk p.2)).filter (·.line = n) =
      causes.map (Finding.mk n) := by
  have beyond : ∀ f ∈ (later.zipIdx (n + 1)).flatMap fun p => p.1.map (Finding.mk p.2),
      ¬decide (f.line = n) = true := by
    intro f mem
    obtain ⟨⟨cs, m⟩, at_, told⟩ := List.mem_flatMap.mp mem
    obtain ⟨c, -, rfl⟩ := List.mem_map.mp told
    have further : n + 1 ≤ m := List.le_snd_of_mem_zipIdx at_
    rw [decide_eq_true_iff]
    show ¬m = n
    omega
  have here : ∀ f ∈ causes.map (Finding.mk n), decide (f.line = n) = true := by
    intro f mem
    obtain ⟨c, -, rfl⟩ := List.mem_map.mp mem
    exact decide_eq_true rfl
  rw [List.zipIdx_cons, List.flatMap_cons, List.filter_append, List.filter_eq_self.mpr here,
    List.filter_eq_nil_iff.mpr beyond, List.append_nil]

theorem told_inj {κ : Type} {cs cs' : List (List κ)} {n : Nat} (length : cs'.length = cs.length)
    (same : ((cs'.zipIdx n).flatMap fun p => p.1.map (Finding.mk p.2)) =
      (cs.zipIdx n).flatMap fun p => p.1.map (Finding.mk p.2)) : cs' = cs := by
  -- line by line: the number of the first line tells its findings from all others
  induction cs generalizing cs' n with
  | nil => exact List.length_eq_zero_iff.mp length
  | cons c cs ih =>
    obtain ⟨c', cs', rfl⟩ := List.exists_cons_of_length_eq_add_one length
    have first : c' = c := by
      have front := first_of_told c' cs' n
      rw [same, first_of_told] at front
      exact (List.map_injective_iff.mpr fun a b eq => (Finding.mk.inj eq).2) front.symm
    subst first
    rw [List.zipIdx_cons, List.zipIdx_cons, List.flatMap_cons, List.flatMap_cons,
      List.append_cancel_left_eq] at same
    rw [ih (Nat.succ.inj length) same]

/-- findings tell of each line what was read on it -/
theorem perLine_mk_iff {κ : Type} {read : Line → List κ} :
    perLine Finding.mk read (returned ls) = perLine Finding.mk read ls ↔
      ∀ line ∈ ls.dropLast, read (line ++ ['\r']) = read line := by
  rw [← map_returned_iff]
  refine ⟨fun same => ?_, perLine_congr Finding.mk⟩
  rw [perLine_eq, perLine_eq] at same
  exact told_inj (by simp) same

theorem checkModules_eq (ls : List Line) :
    checkModules ls = perLine Finding.mk (fun l => (moduleProblem? l).toList) ls := by
  rw [checkModules, perLine, List.filterMap_eq_flatMap_toList]
  refine congrArg (List.flatMap · (numbered ls)) (funext fun p => ?_)
  cases moduleProblem? p.2 <;> rfl

theorem checkTruncation_eq (ls : List Line) : checkTruncation ls = perLine Finding.mk truncations ls := by
  rw [checkTruncation, findLines, perLine, List.filterMap_eq_flatMap_toList]
  refine congrArg (List.flatMap · (numbered ls)) (funext fun p => ?_)
  unfold truncations
  split <;> rfl

theorem tagUses_eq (ls : List Line) :
    tagUses ls = perLine Prod.mk (fun l => if isComment l then [] else (tags l).map String.ofList) ls := by
  refine congrArg (List.flatMap · (numbered ls)) (funext fun p => ?_)
  dsimp only
  split
  · rfl
  · rw [List.map_map]
    rfl

theorem tagUses_returned (ls : List Line) : tagUses (returned ls) = tagUses ls := by
  rw [tagUses_eq, tagUses_eq]
  refine perLine_congr _ (map_returned_iff.mpr fun line _ => ?_)
  rw [isComment_returned, tags_returned]

theorem checkAttributes_returned (ls : List Line) : checkAttributes (returned ls) = checkAttributes ls :=
  perLine_congr Finding.mk (map_returned_iff.mpr fun line _ => attributeProblems_returned line)

theorem checkModules_returned_iff :
    checkModules (returned ls) = checkModules ls ↔ ∀ line ∈ ls.dropLast, ¬BareExport line := by
  rw [checkModules_eq, checkModules_eq, perLine_mk_iff]
  refine forall₂_congr fun line _ => ?_
  rw [← moduleProblem?_returned_iff]
  refine ⟨fun same => Option.ext fun cause => ?_, congrArg _⟩
  rw [← Option.mem_toList, ← Option.mem_toList, same]

theorem checkTruncation_returned_iff :
    checkTruncation (returned ls) = checkTruncation ls ↔ ∀ line ∈ ls.dropLast, ¬OnlyEtc line := by
  rw [checkTruncation_eq, checkTruncation_eq, perLine_mk_iff]
  exact forall₂_congr fun line _ => truncations_returned_iff

/-! ## lines with those behind them -/

theorem lacksKey_eq (ls : List Line) : lacksKey ls =
    ((ls.map showsMap).head?.getD false && !((ls.map showsKey).take 11).any id) := by
  cases ls with
  | nil => rfl
  | cons l ls =>
    rw [lacksKey, ← List.map_take, List.any_map]
    rfl

theorem checkKeys_returned (ls : List Line) : checkKeys (returned ls) = checkKeys ls := by
  have maps : (returned ls).map showsMap = ls.map showsMap :=
    map_returned_iff.mpr fun line _ => test_returned showsMap_iff mapCall_visible line
  have keys : (returned ls).map showsKey = ls.map showsKey :=
    map_returned_iff.mpr fun line _ => test_returned showsKey_iff keyGiven_visible line
  refine scans_keysFrom.congr (length_returned ls) (fun k => ?_) 1
  rw [lacksKey_eq, lacksKey_eq, List.map_drop, List.map_drop, List.map_drop, List.map_drop, maps, keys]

theorem repeatsAt_returned {i : Nat} (plain : ∀ line ∈ ls, '\r' ∉ line) :
    RepeatsAt (returned ls) i ↔ RepeatsAt ls i ∧ i + 8 < ls.length := by
  constructor
  · intro repeats
    have long := repeats.le_length
    rw [length_returned] at long
    have inner : i + 8 < ls.length := by
      by_contra short
      obtain ⟨l, first, -, last⟩ := repeats 3 (by decide)
      rw [getElem?_returned, if_pos (by omega)] at first
      rw [getElem?_returned, if_neg (by omega)] at last
      obtain ⟨line, -, rfl⟩ := Option.map_eq_some_iff.mp first
      exact plain _ (List.mem_of_getElem? last) (by simp)
    refine ⟨fun k small => ?_, inner⟩
    obtain ⟨l, first, text, last⟩ := repeats k small
    rw [getElem?_returned, if_pos (by omega)] at first last
    obtain ⟨line, at_, rfl⟩ := Option.map_eq_some_iff.mp first
    obtain ⟨line', at', same⟩ := Option.map_eq_some_iff.mp last
    obtain rfl : line' = line := List.append_cancel_right same
    rw [trim_returned] at text
    exact ⟨line', at_, text, at'⟩
  · rintro ⟨repeats, inner⟩ k small
    obtain ⟨l, first, text, last⟩ := repeats k small
    refine ⟨l ++ ['\r'], ?_, by rwa [trim_returned], ?_⟩
    · rw [getElem?_returned, if_pos (by omega), first]
      rfl
    · rw [getElem?_returned, if_pos (by omega), last]
      rfl

/-- a block comes again right at the end of the text, which is more than the two -/
def RepeatsLast (ls : List Line) : Prop := 8 < ls.length ∧ RepeatsAt ls (ls.length - 8)

theorem checkDuplicates_returned_iff (plain : ∀ line ∈ ls, '\r' ∉ line) :
    checkDuplicates (returned ls) = checkDuplicates ls ↔ ¬RepeatsLast ls := by
  constructor
  · rintro same ⟨long, repeats⟩
    have told : ⟨ls.length - 8 + 5, .duplicateBlock⟩ ∈ checkDuplicates ls :=
      mem_checkDuplicates_iff.mpr ⟨long, _, repeats, rfl⟩
    rw [← same] at told
    obtain ⟨-, i, repeats', here⟩ := mem_checkDuplicates_iff.mp told
    have inner := ((repeatsAt_returned plain).mp repeats').2
    have number : ls.length - 8 + 5 = i + 5 := (Finding.mk.inj here).1
    omega
  · intro other
    have alike (i : Nat) (long : 8 < ls.length) : RepeatsAt (returned ls) i ↔ RepeatsAt ls i := by
      rw [repeatsAt_returned plain]
      refine ⟨And.left, fun repeats => ⟨repeats, ?_⟩⟩
      have within := repeats.le_length
      by_contra short
      have last : i = ls.length - 8 := by omega
      exact other ⟨long, last ▸ repeats⟩
    rw [checkDuplicates, checkDuplicates, length_returned]
    split
    · next long =>
      refine scans_duplicatesFrom.congr (length_returned ls) (fun k => ?_) 0
      rw [Bool.eq_iff_iff, repeatsBlock_drop, repeatsBlock_drop]
      exact alike k long
    · rfl

/-! ## what stands apart -/

/-- what is told otherwise for the returns: a line of nothing but `export`, one that is a placeholder for its
last word `etc` only, and a block that comes again right at the end -/
def StandsApart (ls : List Line) : Prop :=
  (∃ line ∈ ls.dropLast, BareExport line ∨ OnlyEtc line) ∨ RepeatsLast ls

section
variable {line : Line} {code : List Char}

theorem subset_of_mem_lines (mem : line ∈ lines code) : line ⊆ code := by
  obtain ⟨left, rest, rfl, -⟩ := exists_of_mem_lines mem
  intro c here
  exact List.mem_append_right left (List.mem_append_left rest here)

theorem nonblank_of_standsApart (apart : StandsApart (lines code)) : trim code ≠ [] := by
  have visible : ∃ line ∈ lines code, ∃ c ∈ line, isBlank c = false := by
    rcases apart with ⟨line, mem, ⟨lead, -, rfl⟩ | ⟨etc, -⟩⟩ | ⟨-, repeats⟩
    · exact ⟨_, List.dropLast_subset _ mem, 't', by simp, by decide⟩
    · obtain ⟨init, c, rfl, other⟩ := endsInEtc_visible line etc
      exact ⟨_, List.dropLast_subset _ mem, c, by simp, other⟩
    · obtain ⟨line, at_, text, -⟩ := repeats 0 (by decide)
      obtain ⟨c, t, first, other⟩ := trim_eq_cons text
      exact ⟨line, List.mem_of_getElem? at_, c, mem_of_mem_trim (by simp [first]), other⟩
  obtain ⟨line, mem, c, here, other⟩ := visible
  exact trim_ne_nil (subset_of_mem_lines mem here) other

/-! ## notices -/

theorem firstUses_congr {seen seen' : List String} {us : List (Nat × String)}
    (alike : ∀ u ∈ us, u.2 ∈ seen' ↔ u.2 ∈ seen) : firstUses seen' us = firstUses seen us := by
  induction us generalizing seen seen' with
  | nil => rfl
  | cons u us ih =>
    obtain ⟨first, others⟩ := List.forall_mem_cons.mp alike
    rw [firstUses, firstUses]
    by_cases known : u.2 ∈ seen
    · rw [if_pos known, if_pos (first.mpr known), ih others]
    · have longer : ∀ v ∈ us, v.2 ∈ u.2 :: seen' ↔ v.2 ∈ u.2 :: seen := fun v mem => by
        rw [List.mem_cons, List.mem_cons, others v mem]
      rw [if_neg known, if_neg (first.not.mpr known), ih longer]

theorem checkTags_crlf (caps : Capabilities) (code : String) :
    checkTags caps (crlf code.toList) (returned (lines code.toList)) =
      checkTags caps code.toList (lines code.toList) := by
  have alike : ∀ u ∈ tagUses (lines code.toList),
      u.2 ∈ inScope caps (crlf code.toList) ↔ u.2 ∈ inScope caps code.toList := by
    intro u mem
    obtain ⟨_, _, _, _, _, _, isName, _⟩ := mem_tagUses.mp mem
    exact mem_inScope_crlf isName
  rw [checkTags, checkTags, tagUses_returned, firstUses_congr alike]

theorem checkDirective_crlf (code : List Char) : checkDirective (crlf code) = checkDirective code := by
  have by_line (s : List Char) : showsUseClient s = true ↔ true ∈ (lines s).map isUseClient := by
    rw [showsUseClient_iff, List.mem_map]
    simp only [isUseClient_iff]
  have shown : showsUseClient (crlf code) = showsUseClient code := by
    have same : (returned (lines code)).map isUseClient = (lines code).map isUseClient :=
      map_returned_iff.mpr fun line _ => test_returned isUseClient_iff Construct.directive_visible line
    rw [Bool.eq_iff_iff, by_line, by_line, lines_crlf, same]
  rw [checkDirective, checkDirective, shown]

/-! ## problems -/

theorem checkEntry_crlf (code : List Char) : checkEntry (crlf code) = checkEntry code := by
  rw [checkEntry, checkEntry, definesEntry_crlf, definesLookalike_crlf]

theorem run_crlf_iff (plain : '\r' ∉ code) :
    (∀ k : Check, k.run (crlf code) = k.run code) ↔ ¬StandsApart (lines code) := by
  have each : ∀ line ∈ lines code, '\r' ∉ line := fun line mem here => plain (subset_of_mem_lines mem here)
  have same : ¬StandsApart (lines code) ↔ Check.modules.run (crlf code) = Check.modules.run code ∧
      Check.truncation.run (crlf code) = Check.truncation.run code ∧
        Check.duplicates.run (crlf code) = Check.duplicates.run code := by
    simp only [Check.run, lines_crlf, checkModules_returned_iff, checkTruncation_returned_iff,
      checkDuplicates_returned_iff each, StandsApart]
    grind
  rw [same]
  constructor
  · exact fun all => ⟨all .modules, all .truncation, all .duplicates⟩
  · rintro ⟨modules, truncation, duplicates⟩ k
    cases k with
    | modules => exact modules
    | entry => exact checkEntry_crlf code
    | attributes =>
      show checkAttributes (lines (crlf code)) = _
      rw [lines_crlf]
      exact checkAttributes_returned (lines code)
    | truncation => exact truncation
    | duplicates => exact duplicates

end

/-! ## the whole check -/

section
variable {code : String} (caps : Capabilities)

theorem errors_eq_iff {code' : String} (nonblank : trim code.toList ≠ []) (nonblank' : trim code'.toList ≠ []) :
    (lint code' caps).errors = (lint code caps).errors ↔
      ∀ k : Check, k.run code'.toList = k.run code.toList := by
  constructor
  · intro same k
    rw [← filter_errors caps nonblank', ← filter_errors caps nonblank, same]
  · intro same
    rw [errors_of_nonblank caps nonblank', errors_of_nonblank caps nonblank, funext same]

theorem Validation.eq_iff_errors {v w : Validation} (warnings : v.warnings = w.warnings)
    (lines : v.lines = w.lines) (used : v.used = w.used) : v = w ↔ v.errors = w.errors := by
  obtain ⟨errors, _, _, _⟩ := v
  obtain ⟨errors', _, _, _⟩ := w
  rw [Validation.mk.injEq]
  exact ⟨And.left, fun same => ⟨same, warnings, lines, used⟩⟩

/-- **What the ends of lines change.**  A text without returns and the same text with returns in front of its
line feeds have the same notices, components in use and number of lines; they have the same problems just if
nothing in the text stands apart. -/
theorem lint_crlf_iff (plain : '\r' ∉ code.toList) :
    (lint (withReturns code) caps).warnings = (lint code caps).warnings ∧
    (lint (withReturns code) caps).lines = (lint code caps).lines ∧
    (lint (withReturns code) caps).used = (lint code caps).used ∧
    (lint (withReturns code) caps = lint code caps ↔ ¬StandsApart (lines code.toList)) := by
  have text := toList_withReturns code
  have trims : trim (withReturns code).toList = crlf (trim code.toList) := by rw [text, trim_crlf]
  have length : (lines (withReturns code).toList).length = (lines code.toList).length := by
    rw [text, lines_crlf, length_returned]
  by_cases blank : trim code.toList = []
  · have other : ¬StandsApart (lines code.toList) := fun apart => nonblank_of_standsApart apart blank
    have blank' : trim (withReturns code).toList = [] := by rw [trims, blank, crlf_nil]
    have same : lint (withReturns code) caps = lint code caps := by
      rw [lint_of_blank caps blank, lint_of_blank caps blank', length]
    rw [same]
    exact ⟨rfl, rfl, rfl, iff_of_true rfl other⟩
  · have blank' : trim (withReturns code).toList ≠ [] := by
      rw [trims, ← List.isEmpty_eq_false_iff, isEmpty_crlf, List.isEmpty_eq_false_iff]
      exact blank
    have warnings : (lint (withReturns code) caps).warnings = (lint code caps).warnings := by
      rw [(lint_of_nonblank caps blank).1, (lint_of_nonblank caps blank').1, text, lines_crlf, checkTags_crlf,
        checkKeys_returned, checkDirective_crlf]
    have number : (lint (withReturns code) caps).lines = (lint code caps).lines := by
      rw [lines_lint, lines_lint, length]
    have used : (lint (withReturns code) caps).used = (lint code caps).used := by
      rw [(lint_of_nonblank caps blank).2, (lint_of_nonblank caps blank').2, text, lines_crlf, usedComponents,
        usedComponents, tagUses_returned]
    refine ⟨warnings, number, used, ?_⟩
    rw [Validation.eq_iff_errors warnings number used, errors_eq_iff caps blank blank', text,
      run_crlf_iff plain]

/-- a comment with `etc` at the end of its line is not found any more -/
theorem lint_crlf_iff_etc :
    lint (withReturns "function Preview() \x7b\n  // etc\n\x7d") cardOnly ≠
      lint "function Preview() \x7b\n  // etc\n\x7d" cardOnly := by
  have bare : ¬Shows Construct.placeholder "  // etc".toList := by
    rw [← showsTruncation_returned]
    decide
  have etc : EndsInEtc "  // etc".toList := (showsTruncation_iff.mp (by decide)).resolve_left bare
  have apart : StandsApart (lines "function Preview() \x7b\n  // etc\n\x7d".toList) :=
    .inl ⟨"  // etc".toList, by decide, .inr ⟨etc, bare⟩⟩
  intro same
  exact (lint_crlf_iff cardOnly (by decide)).2.2.2.mp same apart

end

end SnippetStudio.Snippet
