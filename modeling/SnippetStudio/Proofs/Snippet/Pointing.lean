import SnippetStudio.Proofs.Snippet.Constructs
import SnippetStudio.Proofs.Snippet.Repeats

/-!
# Findings point at their lines

A finding names a construct and a line, and the line shows the construct (`Problem.StandsAt`,
`Notice.StandsAt`); line 0 is left to what is said of the snippet as a whole.  One notice is told without a
look at the line it stands on: that of the client directive, which is sought on all lines and always told of
the first (`findings_placed`).
-/

namespace SnippetStudio.Snippet

open Text

/-- line `n` of a text, the first being 1 -/
def LineAt (ls : List Line) (n : Nat) (line : Line) : Prop := 0 < n ∧ ls[n - 1]? = some line

def ShownOn (ls : List Line) (n : Nat) (construct : List Char → Prop) : Prop :=
  ∃ line, LineAt ls n line ∧ Shows construct line

/-- line `n` shows what the problem is about -/
def Problem.StandsAt (ls : List Line) (n : Nat) : Problem → Prop
  | .empty => False
  | .importStatement => ShownOn ls n Construct.importOpening
  | .exportStatement => ShownOn ls n Construct.exportOpening
  | .misspelledEntry => False
  | .missingEntry => False
  | .classAttribute => ShownOn ls n Construct.classAttribute
  | .labelFor => ShownOn ls n Construct.labelFor
  | .styleString => ShownOn ls n Construct.styleString
  | .htmlComment => ShownOn ls n Construct.htmlComment
  | .truncation shown =>
    ∃ line, LineAt ls n line ∧ (Shows Construct.placeholder line ∨ EndsInEtc line) ∧ shown = excerpt line
  | .duplicateBlock => ∃ i, n = i + 5 ∧ RepeatsAt ls i

/-- line `n` shows what the notice is about -/
def Notice.StandsAt (ls : List Line) (n : Nat) : Notice → Prop
  | .unknownComponent name _ => ∃ line, LineAt ls n line ∧ ShowsTag line name.toList
  | .missingKey => ShownOn ls n Construct.mapCall
  | .useClient => ShownOn ls n Construct.directive

section
variable {ls : List Line} {n : Nat} {line : Line}

theorem LineAt.pos (at_ : LineAt ls n line) : 0 < n := at_.1

theorem LineAt.le (at_ : LineAt ls n line) : n ≤ ls.length := by
  have pos := at_.1
  have inside := (List.getElem?_eq_some_iff.mp at_.2).1
  omega

theorem lineAt_of_mem (mem : (n, line) ∈ numbered ls) : LineAt ls n line := mem_numbered.mp mem

theorem exists_lineAt (mem : line ∈ ls) : ∃ n, LineAt ls n line := by
  obtain ⟨i, inside, rfl⟩ := List.getElem_of_mem mem
  exact ⟨i + 1, Nat.succ_pos i, List.getElem?_eq_getElem inside⟩

theorem moduleProblem?_stands {cause : Problem} (at_ : LineAt ls n line)
    (named : moduleProblem? line = some cause) : cause.StandsAt ls n := by
  rcases moduleProblem?_eq_some.mp named with ⟨rfl, shown⟩ | ⟨rfl, -, shown⟩
  · exact ⟨line, at_, isImport_iff.mp shown⟩
  · exact ⟨line, at_, isExport_iff.mp shown⟩

theorem attributeProblems_stand {cause : Problem} (at_ : LineAt ls n line)
    (named : cause ∈ attributeProblems line) : cause.StandsAt ls n := by
  rcases (mem_attributeProblems.mp named).2 with ⟨rfl, shown⟩ | ⟨rfl, shown⟩ | ⟨rfl, shown⟩ | ⟨rfl, shown⟩
  · exact ⟨line, at_, showsClass_iff.mp shown⟩
  · exact ⟨line, at_, showsLabelFor_iff.mp shown⟩
  · exact ⟨line, at_, showsStyle_iff.mp shown⟩
  · exact ⟨line, at_, showsHtmlComment_iff.mp shown⟩

end

/-- what a check finds stands at a line of the snippet, or at none -/
theorem run_stands {code : List Char} {k : Check} {f : Finding Problem} (mem : f ∈ k.run code)
    (placed : f.line ≠ 0) : f.line ≤ (lines code).length ∧ f.cause.StandsAt (lines code) f.line := by
  cases k with
  | modules =>
    obtain ⟨line, numbered, named⟩ := mem_checkModules.mp mem
    have at_ := lineAt_of_mem numbered
    exact ⟨at_.le, moduleProblem?_stands at_ named⟩
  | entry => exact absurd (mem_checkEntry.mp mem).2.1 placed
  | attributes =>
    obtain ⟨line, numbered, named⟩ := mem_checkAttributes.mp mem
    have at_ := lineAt_of_mem numbered
    exact ⟨at_.le, attributeProblems_stand at_ named⟩
  | truncation =>
    obtain ⟨line, numbered, shown, cause⟩ := mem_checkTruncation.mp mem
    have at_ := lineAt_of_mem numbered
    rw [cause]
    exact ⟨at_.le, line, at_, showsTruncation_iff.mp shown, rfl⟩
  | duplicates =>
    obtain ⟨-, i, repeats, rfl⟩ := mem_checkDuplicates_iff.mp mem
    have long := repeats.le_length
    exact ⟨by show i + 5 ≤ _; omega, i, rfl, repeats⟩

theorem lacksKey_drop {ls : List Line} {k : Nat} (lacks : lacksKey (ls.drop k) = true) :
    ∃ line, LineAt ls (1 + k) line ∧ showsMap line = true := by
  have first : (ls.drop k).head? = ls[1 + k - 1]? := by rw [List.head?_drop, Nat.add_sub_cancel_left]
  cases here : ls.drop k with
  | nil =>
    rw [here] at lacks
    cases lacks
  | cons line rest =>
    rw [here] at first lacks
    rw [lacksKey, Bool.and_eq_true] at lacks
    exact ⟨line, ⟨by omega, first.symm⟩, lacks.1⟩

theorem mem_checkKeys {ls : List Line} {f : Finding Notice} (mem : f ∈ checkKeys ls) :
    f.cause = .missingKey ∧ ∃ line, LineAt ls f.line line ∧ showsMap line = true := by
  obtain ⟨k, lacks, rfl⟩ := scans_keysFrom.mem.mp mem
  exact ⟨rfl, lacksKey_drop lacks⟩

theorem nonblank_of_directive {code : List Char} (shown : showsUseClient code = true) : trim code ≠ [] := by
  obtain ⟨line, mem, _, ⟨rest, rfl⟩, lead, q, q', -, quote, -, rfl⟩ := showsUseClient_iff.mp shown
  obtain ⟨left, behind, rfl, -⟩ := exists_of_mem_lines mem
  have inside : q ∈ left ++ (lead ++ q :: ("use client".toList ++ [q']) ++ rest ++ behind) := by simp
  exact trim_ne_nil inside (isBlank_of_isQuote quote)

section
variable {code : String} {caps : Capabilities}

theorem errors_stand {f : Finding Problem} (mem : f ∈ (lint code caps).errors) (placed : f.line ≠ 0) :
    f.line ≤ (lines code.toList).length ∧ f.cause.StandsAt (lines code.toList) f.line := by
  by_cases blank : trim code.toList = []
  · rw [errors_of_blank caps blank, List.mem_singleton] at mem
    rw [mem] at placed
    exact absurd rfl placed
  · obtain ⟨k, found⟩ := (mem_errors caps blank).mp mem
    exact run_stands found placed

theorem warnings_of_blank (blank : trim code.toList = []) : (lint code caps).warnings = [] := by
  rw [lint_of_blank caps blank]

/-- a notice stands at a line that shows what it is about, or is the one of the client directive -/
theorem warnings_stand {f : Finding Notice} (mem : f ∈ (lint code caps).warnings) :
    (∃ line, LineAt (lines code.toList) f.line line) ∧
      (f.cause.StandsAt (lines code.toList) f.line ∨
        showsUseClient code.toList = true ∧ f = ⟨1, .useClient⟩) := by
  by_cases blank : trim code.toList = []
  · rw [warnings_of_blank blank] at mem
    cases mem
  · rcases (mem_warnings caps blank).mp mem with tagged | mapped | told
    · obtain ⟨name, used, cause⟩ := mem_checkTags tagged
      obtain ⟨line, at_, -, shown⟩ := mem_tagUses.mp used
      rw [cause]
      exact ⟨⟨line, at_⟩, .inl ⟨line, at_, shown⟩⟩
    · obtain ⟨cause, line, at_, shown⟩ := mem_checkKeys mapped
      rw [cause]
      exact ⟨⟨line, at_⟩, .inl ⟨line, at_, showsMap_iff.mp shown⟩⟩
    · obtain ⟨shown, rfl⟩ := mem_checkDirective.mp told
      have first := head?_lines code.toList
      rw [List.head?_eq_getElem?] at first
      exact ⟨⟨_, Nat.one_pos, first⟩, .inr ⟨shown, rfl⟩⟩

theorem showsUseClient_iff_shownOn :
    showsUseClient code.toList = true ↔ ∃ n, Notice.useClient.StandsAt (lines code.toList) n := by
  rw [showsUseClient_iff]
  constructor
  · rintro ⟨line, mem, shown⟩
    obtain ⟨n, at_⟩ := exists_lineAt mem
    exact ⟨n, line, at_, shown⟩
  · rintro ⟨n, line, at_, shown⟩
    exact ⟨line, List.mem_of_getElem? at_.2, shown⟩

end

/-- **Findings point at their lines.**  Whatever has a line has one of the snippet's, and this line shows what
the finding is about; the notice of the client directive alone may stand elsewhere: it does where the
directive has a line of the snippet, but not the first. -/
theorem findings_placed (code : String) (caps : Capabilities) :
    let v := lint code caps
    let ls := lines code.toList
    v.lines = ls.length ∧
    (∀ f ∈ v.errors, f.line ≠ 0 → f.line ≤ v.lines ∧ f.cause.StandsAt ls f.line) ∧
    (∀ f ∈ v.warnings, 0 < f.line ∧ f.line ≤ v.lines ∧
      (f.cause ≠ .useClient → f.cause.StandsAt ls f.line)) ∧
    ((∀ f ∈ v.warnings, f.cause.StandsAt ls f.line) ↔
      ∀ n, Notice.useClient.StandsAt ls n → Notice.useClient.StandsAt ls 1) := by
  intro v ls
  have count : v.lines = ls.length := lines_lint caps code
  rw [count]
  refine ⟨rfl, fun f mem => errors_stand mem, fun f mem => ?_, fun pointed n stands => ?_,
    fun first f mem => ?_⟩
  · obtain ⟨⟨line, at_⟩, stands | ⟨-, told⟩⟩ := warnings_stand mem
    · exact ⟨at_.pos, at_.le, fun _ => stands⟩
    · refine ⟨at_.pos, at_.le, fun other => absurd ?_ other⟩
      rw [told]
  · have shown := showsUseClient_iff_shownOn.mpr ⟨n, stands⟩
    have told : (⟨1, .useClient⟩ : Finding Notice) ∈ checkDirective code.toList :=
      mem_checkDirective.mpr ⟨shown, rfl⟩
    exact pointed _ ((mem_warnings caps (nonblank_of_directive shown)).mpr (.inr (.inr told)))
  · obtain ⟨-, stands | ⟨shown, rfl⟩⟩ := warnings_stand mem
    · exact stands
    · obtain ⟨n, stands⟩ := showsUseClient_iff_shownOn.mp shown
      exact first n stands

/-- the directive on the second line is told of the first -/
theorem findings_placed_second :
    ¬∀ f ∈ (lint "function Preview() \x7b\x7d\n'use client'" cardOnly).warnings,
      f.cause.StandsAt (lines "function Preview() \x7b\x7d\n'use client'".toList) f.line := by
  intro pointed
  have second : Notice.useClient.StandsAt (lines "function Preview() \x7b\x7d\n'use client'".toList) 2 :=
    ⟨"'use client'".toList, ⟨by decide, by decide⟩, isUseClient_iff.mp (by decide)⟩
  obtain ⟨line, ⟨-, at_⟩, shown⟩ := (findings_placed _ cardOnly).2.2.2.mp pointed 2 second
  obtain rfl : "function Preview() \x7b\x7d".toList = line := Option.some.inj at_
  have none : isUseClient "function Preview() \x7b\x7d".toList = false := by decide
  rw [isUseClient_iff.mpr shown] at none
  cases none

end SnippetStudio.Snippet
