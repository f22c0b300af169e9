import SnippetStudio.Proofs.Snippet.Scope

/-!
# Findings, check by check

The problems of a snippet come from five checks (`Check`), and each kind of problem from one of them.  So the
list of all problems falls apart into what the checks find (`filter_errors`), and what a single check finds
can be told line by line:

* `mem_checkModules`, `mem_findLines`, `mem_checkAttributes`  a line, and what it is tested for;
* `Scans.mem`                                                 a line, and what it and those behind it are
                                                              tested for;
* `mem_checkTags`, `mem_checkDirective`                       the notices.
-/

namespace SnippetStudio.Snippet

open Text

/-! ## one check's findings -/

section
variable {ls : List Line} {κ : Type}

theorem mem_findLines {test : Line → Bool} {cause : Line → κ} {f : Finding κ} :
    f ∈ findLines test cause ls ↔
      ∃ line, (f.line, line) ∈ numbered ls ∧ test line = true ∧ f.cause = cause line := by
  rw [findLines, List.mem_filterMap]
  constructor
  · rintro ⟨⟨n, line⟩, mem, found⟩
    split at found
    · next accepted =>
      obtain rfl := Option.some.inj found
      exact ⟨line, mem, accepted, rfl⟩
    · cases found
  · rintro ⟨line, mem, accepted, caused⟩
    refine ⟨(f.line, line), mem, ?_⟩
    rw [if_pos accepted, ← caused]

theorem mem_checkModules {f : Finding Problem} :
    f ∈ checkModules ls ↔
      ∃ line, (f.line, line) ∈ numbered ls ∧ moduleProblem? line = some f.cause := by
  rw [checkModules, List.mem_filterMap]
  constructor
  · rintro ⟨⟨n, line⟩, mem, found⟩
    obtain ⟨cause, named, rfl⟩ := Option.map_eq_some_iff.mp found
    exact ⟨line, mem, named⟩
  · rintro ⟨line, mem, named⟩
    refine ⟨(f.line, line), mem, ?_⟩
    rw [named]
    rfl

theorem moduleProblem?_eq_some {line : Line} {cause : Problem} :
    moduleProblem? line = some cause ↔
      cause = .importStatement ∧ isImport line = true ∨
        cause = .exportStatement ∧ isImport line = false ∧ isExport line = true := by
  unfold moduleProblem?
  cases isImport line <;> cases isExport line <;> simp [eq_comm]

theorem mem_attributeProblems {line : Line} {cause : Problem} :
    cause ∈ attributeProblems line ↔ isComment line = false ∧
      (cause = .classAttribute ∧ showsClass line = true ∨ cause = .labelFor ∧ showsLabelFor line = true ∨
        cause = .styleString ∧ showsStyle line = true ∨
          cause = .htmlComment ∧ showsHtmlComment line = true) := by
  unfold attributeProblems
  split
  · next comment => simp [comment]
  · next code =>
    simp only [List.mem_append, List.mem_ite_nil_right, List.mem_singleton, code, true_and, or_assoc,
      and_comm]

theorem mem_checkAttributes {f : Finding Problem} :
    f ∈ checkAttributes ls ↔
      ∃ line, (f.line, line) ∈ numbered ls ∧ f.cause ∈ attributeProblems line := by
  rw [checkAttributes, List.mem_flatMap]
  constructor
  · rintro ⟨⟨n, line⟩, mem, found⟩
    obtain ⟨cause, named, rfl⟩ := List.mem_map.mp found
    exact ⟨line, mem, named⟩
  · rintro ⟨line, mem, named⟩
    exact ⟨(f.line, line), mem, List.mem_map.mpr ⟨f.cause, named, rfl⟩⟩

end

/-! ## a line together with those behind it -/

/-- a check that goes from line to line, looking at the lines from there on -/
structure Scans {κ : Type} (test : List Line → Bool) (found : Nat → Finding κ)
    (scan : Nat → List Line → List (Finding κ)) : Prop where
  last : test [] = false
  nil : ∀ i, scan i [] = []
  cons : ∀ i l ls, scan i (l :: ls) = (if test (l :: ls) then [found i] else []) ++ scan (i + 1) ls

namespace Scans
variable {κ : Type} {test : List Line → Bool} {found : Nat → Finding κ}
  {scan : Nat → List Line → List (Finding κ)}

theorem mem (scans : Scans test found scan) {i : Nat} {ls : List Line} {f : Finding κ} :
    f ∈ scan i ls ↔ ∃ k, test (ls.drop k) = true ∧ f = found (i + k) := by
  induction ls generalizing i with
  | nil => simp [scans.nil, scans.last]
  | cons l ls ih =>
    rw [scans.cons, List.mem_append, List.mem_ite_nil_right, List.mem_singleton, ih]
    constructor
    · rintro (here | ⟨k, accepted, rfl⟩)
      · exact ⟨0, here⟩
      · refine ⟨k + 1, accepted, ?_⟩
        rw [Nat.add_right_comm, Nat.add_assoc]
    · rintro ⟨k, accepted, rfl⟩
      cases k with
      | zero => exact .inl ⟨accepted, rfl⟩
      | succ k =>
        refine .inr ⟨k, accepted, ?_⟩
        rw [Nat.add_right_comm, Nat.add_assoc]

theorem ascending (scans : Scans test found scan) (apart : ∀ i j, i < j → (found i).line < (found j).line)
    (i : Nat) (ls : List Line) : (scan i ls).Pairwise fun f g => f.line < g.line := by
  induction ls generalizing i with
  | nil => rw [scans.nil]; exact .nil
  | cons l ls ih =>
    rw [scans.cons]
    split
    · refine List.pairwise_cons.mpr ⟨fun f mem => ?_, ih (i + 1)⟩
      obtain ⟨k, -, rfl⟩ := scans.mem.mp mem
      exact apart _ _ (by omega)
    · exact ih (i + 1)

theorem congr (scans : Scans test found scan) {ls ls' : List Line} (length : ls'.length = ls.length)
    (same : ∀ k, test (ls'.drop k) = test (ls.drop k)) (i : Nat) : scan i ls' = scan i ls := by
  induction ls generalizing i ls' with
  | nil =>
    obtain rfl := List.length_eq_zero_iff.mp length
    rfl
  | cons l ls ih =>
    obtain ⟨l', ls', rfl⟩ := List.exists_cons_of_length_eq_add_one length
    have here : test (l' :: ls') = test (l :: ls) := same 0
    rw [scans.cons, scans.cons, here, ih (Nat.succ.inj length) (fun k => same (k + 1))]

end Scans

theorem scans_duplicatesFrom : Scans repeatsBlock (fun i => ⟨i + 5, .duplicateBlock⟩) duplicatesFrom :=
  ⟨rfl, fun _ => rfl, fun _ _ _ => rfl⟩

theorem scans_keysFrom : Scans lacksKey (fun i => ⟨i, .missingKey⟩) keysFrom :=
  ⟨rfl, fun _ => rfl, fun _ _ _ => rfl⟩

/-! ## notices -/

theorem mem_of_mem_firstUses {seen : List String} {us : List (Nat × String)} {u : Nat × String}
    (mem : u ∈ firstUses seen us) : u ∈ us := by
  induction us generalizing seen with
  | nil => exact mem
  | cons v us ih =>
    rw [firstUses] at mem
    split at mem
    · exact List.mem_cons_of_mem v (ih mem)
    · rcases List.mem_cons.mp mem with rfl | later
      · exact List.mem_cons_self
      · exact List.mem_cons_of_mem v (ih later)

theorem mem_checkTags {caps : Capabilities} {code : List Char} {ls : List Line} {f : Finding Notice}
    (mem : f ∈ checkTags caps code ls) :
    ∃ name, (f.line, name) ∈ tagUses ls ∧ f.cause = .unknownComponent name (name ∈ caps.icons) := by
  obtain ⟨⟨n, name⟩, used, rfl⟩ := List.mem_map.mp mem
  exact ⟨name, mem_of_mem_firstUses used, rfl⟩

theorem mem_checkDirective {code : List Char} {f : Finding Notice} :
    f ∈ checkDirective code ↔ showsUseClient code = true ∧ f = ⟨1, .useClient⟩ := by
  rw [checkDirective, List.mem_ite_nil_right, List.mem_singleton]

/-! ## all problems -/

inductive Check where
  | modules
  | entry
  | attributes
  | truncation
  | duplicates
deriving DecidableEq

namespace Check

def all : List Check := [modules, entry, attributes, truncation, duplicates]

def run (code : List Char) : Check → List (Finding Problem)
  | modules => checkModules (lines code)
  | entry => checkEntry code
  | attributes => checkAttributes (lines code)
  | truncation => checkTruncation (lines code)
  | duplicates => checkDuplicates (lines code)

end Check

/-- the check that a problem comes from; a blank snippet is not checked -/
def Problem.check : Problem → Option Check
  | .empty => none
  | .importStatement => some .modules
  | .exportStatement => some .modules
  | .misspelledEntry => some .entry
  | .missingEntry => some .entry
  | .classAttribute => some .attributes
  | .labelFor => some .attributes
  | .styleString => some .attributes
  | .htmlComment => some .attributes
  | .truncation _ => some .truncation
  | .duplicateBlock => some .duplicates

theorem mem_checkDuplicates {ls : List Line} {f : Finding Problem} :
    f ∈ checkDuplicates ls ↔
      8 < ls.length ∧ ∃ i, repeatsBlock (ls.drop i) = true ∧ f = ⟨i + 5, .duplicateBlock⟩ := by
  have scanned : f ∈ duplicatesFrom 0 ls ↔
      ∃ k, repeatsBlock (ls.drop k) = true ∧ f = ⟨0 + k + 5, .duplicateBlock⟩ := scans_duplicatesFrom.mem
  rw [checkDuplicates, List.mem_ite_nil_right, scanned]
  simp only [Nat.zero_add]

theorem mem_checkTruncation {ls : List Line} {f : Finding Problem} :
    f ∈ checkTruncation ls ↔ ∃ line, (f.line, line) ∈ numbered ls ∧ showsTruncation line = true ∧
      f.cause = .truncation (excerpt line) :=
  mem_findLines

theorem mem_checkEntry {code : List Char} {f : Finding Problem} :
    f ∈ checkEntry code ↔ definesEntry entryName code = false ∧ f.line = 0 ∧
      f.cause = if definesLookalike lookalike code then .misspelledEntry else .missingEntry := by
  obtain ⟨line, cause⟩ := f
  unfold checkEntry
  cases definesEntry entryName code <;> cases definesLookalike lookalike code <;> simp

theorem check_of_mem_run {code : List Char} {k : Check} {f : Finding Problem} (mem : f ∈ k.run code) :
    f.cause.check = some k := by
  cases k with
  | modules =>
    obtain ⟨line, -, named⟩ := mem_checkModules.mp mem
    rcases moduleProblem?_eq_some.mp named with ⟨cause, -⟩ | ⟨cause, -⟩ <;> rw [cause] <;> rfl
  | entry =>
    obtain ⟨-, -, cause⟩ := mem_checkEntry.mp mem
    rw [cause]
    split <;> rfl
  | attributes =>
    obtain ⟨line, -, named⟩ := mem_checkAttributes.mp mem
    rcases (mem_attributeProblems.mp named).2 with ⟨cause, -⟩ | ⟨cause, -⟩ | ⟨cause, -⟩ | ⟨cause, -⟩ <;>
      rw [cause] <;> rfl
  | truncation =>
    obtain ⟨line, -, -, cause⟩ := mem_checkTruncation.mp mem
    rw [cause]
    rfl
  | duplicates =>
    obtain ⟨-, i, -, rfl⟩ := mem_checkDuplicates.mp mem
    rfl

section
variable {code : String} (caps : Capabilities)

theorem lines_lint (code : String) : (lint code caps).lines = (lines code.toList).length := by
  rw [lint, check]
  split <;> rfl

theorem lint_of_blank (blank : trim code.toList = []) :
    lint code caps = ⟨[⟨0, .empty⟩], [], (lines code.toList).length, []⟩ := by
  simp [lint, check, blank]

theorem errors_of_nonblank (nonblank : trim code.toList ≠ []) :
    (lint code caps).errors = Check.all.flatMap (Check.run code.toList) := by
  have some : (trim code.toList).isEmpty = false := by simpa using nonblank
  simp [lint, check, some, Check.all, Check.run]

theorem errors_of_blank (blank : trim code.toList = []) : (lint code caps).errors = [⟨0, .empty⟩] := by
  rw [lint_of_blank caps blank]

/-- **Among all problems those of a check are what the check finds**, in its order. -/
theorem filter_errors (nonblank : trim code.toList ≠ []) (k : Check) :
    (lint code caps).errors.filter (·.cause.check = some k) = k.run code.toList := by
  have each (j : Check) : (j.run code.toList).filter (·.cause.check = some k) =
      if j = k then j.run code.toList else [] := by
    split
    · next own =>
      exact List.filter_eq_self.mpr fun f mem => decide_eq_true (own ▸ check_of_mem_run mem)
    · next other =>
      refine List.filter_eq_nil_iff.mpr fun f mem => ?_
      rw [check_of_mem_run mem]
      simpa using other
  rw [errors_of_nonblank caps nonblank, List.filter_flatMap]
  simp only [each]
  cases k <;> simp [Check.all]

theorem mem_errors (nonblank : trim code.toList ≠ []) {f : Finding Problem} :
    f ∈ (lint code caps).errors ↔ ∃ k : Check, f ∈ k.run code.toList := by
  rw [errors_of_nonblank caps nonblank, List.mem_flatMap]
  exact ⟨fun ⟨k, _, mem⟩ => ⟨k, mem⟩, fun ⟨k, mem⟩ => ⟨k, by cases k <;> simp [Check.all], mem⟩⟩

theorem mem_warnings (nonblank : trim code.toList ≠ []) {f : Finding Notice} :
    f ∈ (lint code caps).warnings ↔ f ∈ checkTags caps code.toList (lines code.toList) ∨
      f ∈ checkKeys (lines code.toList) ∨ f ∈ checkDirective code.toList := by
  rw [(lint_of_nonblank caps nonblank).1, List.mem_append, List.mem_append, or_assoc]

end

end SnippetStudio.Snippet
