import SnippetStudio.Proofs.Snippet.Findings

/-!
# Blocks that follow on themselves

Four lines with text and the same four right behind them (`RepeatsAt`).  The linter tells the first line of
the second copy, for every such place and for no other (`duplicates_iff`), with one exception: it does not
look into a snippet of exactly eight lines, the shortest one that can hold a block twice.
-/

namespace SnippetStudio.Snippet

open Text

variable {ls : List Line} {i : Nat}

/-- from line `i` on (the first being 0) four lines have text, and the same four follow -/
def RepeatsAt (ls : List Line) (i : Nat) : Prop :=
  ∀ k < 4, ∃ l, ls[i + k]? = some l ∧ trim l ≠ [] ∧ ls[i + 4 + k]? = some l

theorem RepeatsAt.le_length (repeats : RepeatsAt ls i) : i + 8 ≤ ls.length := by
  obtain ⟨l, -, -, last⟩ := repeats 3 (by decide)
  have inside := (List.getElem?_eq_some_iff.mp last).1
  omega

theorem repeatsBlock_drop : repeatsBlock (ls.drop i) = true ↔ RepeatsAt ls i := by
  have first (k : Nat) (small : k < 4) : ((ls.drop i).take 4)[k]? = ls[i + k]? := by
    rw [List.getElem?_take_of_lt small, List.getElem?_drop]
  have second (k : Nat) (small : k < 4) : (((ls.drop i).drop 4).take 4)[k]? = ls[i + 4 + k]? := by
    rw [List.getElem?_take_of_lt small, List.getElem?_drop, List.getElem?_drop, Nat.add_assoc]
  simp only [repeatsBlock, Bool.and_eq_true, beq_iff_eq, List.all_eq_true, Bool.not_eq_true',
    List.isEmpty_eq_false_iff]
  constructor
  · rintro ⟨⟨four, texts⟩, same⟩ k small
    have here : k < ((ls.drop i).take 4).length := by omega
    have at_ := List.getElem?_eq_getElem here
    refine ⟨((ls.drop i).take 4)[k], ?_, texts _ (List.getElem_mem here), ?_⟩
    · rw [← first k small, at_]
    · rw [← second k small, same, at_]
  · intro repeats
    have long := repeats.le_length
    have four : ((ls.drop i).take 4).length = 4 := by
      rw [List.length_take, List.length_drop]
      omega
    refine ⟨⟨four, fun l mem => ?_⟩, ?_⟩
    · obtain ⟨k, inside, rfl⟩ := List.getElem_of_mem mem
      have small : k < 4 := by omega
      obtain ⟨l, at_, text, -⟩ := repeats k small
      rw [← first k small, List.getElem?_eq_getElem inside] at at_
      rwa [Option.some.inj at_]
    · apply List.ext_getElem?
      intro k
      by_cases small : k < 4
      · obtain ⟨l, at_, -, again⟩ := repeats k small
        rw [first k small, second k small, at_, again]
      · rw [List.getElem?_take, List.getElem?_take, if_neg small, if_neg small]

instance (ls : List Line) (i : Nat) : Decidable (RepeatsAt ls i) := decidable_of_iff _ repeatsBlock_drop

theorem mem_checkDuplicates_iff {f : Finding Problem} :
    f ∈ checkDuplicates ls ↔ 8 < ls.length ∧ ∃ i, RepeatsAt ls i ∧ f = ⟨i + 5, .duplicateBlock⟩ := by
  rw [mem_checkDuplicates]
  simp only [repeatsBlock_drop]

theorem checkDuplicates_ascending (ls : List Line) :
    (checkDuplicates ls).Pairwise fun f g => f.line < g.line := by
  rw [checkDuplicates]
  split
  · exact scans_duplicatesFrom.ascending (fun i j before => Nat.add_lt_add_right before 5) 0 ls
  · exact .nil

/-- the lines at which a block is told to come again -/
def Validation.duplicates (v : Validation) : List Nat :=
  (v.errors.filter (·.cause = .duplicateBlock)).map (·.line)

theorem duplicates_lint {code : String} (caps : Capabilities) (nonblank : trim code.toList ≠ []) :
    (lint code caps).duplicates = (checkDuplicates (lines code.toList)).map (·.line) := by
  have kind (f : Finding Problem) : decide (f.cause = .duplicateBlock) =
      decide (f.cause.check = some .duplicates) := by
    obtain ⟨line, cause⟩ := f
    cases cause <;> rfl
  rw [Validation.duplicates, funext kind, filter_errors caps nonblank .duplicates]
  rfl

/-- **Where blocks are told to come again**: at the first line of each second copy, in order and once each,
except that a snippet of exactly eight lines is not searched. -/
theorem duplicates_iff {code : String} (caps : Capabilities) (nonblank : trim code.toList ≠ []) :
    (lint code caps).duplicates.Pairwise (· < ·) ∧
    ∀ n, n ∈ (lint code caps).duplicates ↔
      ∃ i, n = i + 5 ∧ RepeatsAt (lines code.toList) i ∧ (lines code.toList).length ≠ 8 := by
  rw [duplicates_lint caps nonblank]
  refine ⟨List.pairwise_map.mpr (checkDuplicates_ascending _), fun n => ?_⟩
  rw [List.mem_map]
  constructor
  · rintro ⟨f, mem, rfl⟩
    obtain ⟨long, i, repeats, rfl⟩ := mem_checkDuplicates_iff.mp mem
    exact ⟨i, rfl, repeats, by omega⟩
  · rintro ⟨i, rfl, repeats, other⟩
    have long := repeats.le_length
    exact ⟨⟨i + 5, .duplicateBlock⟩, mem_checkDuplicates_iff.mpr ⟨by omega, i, repeats, rfl⟩, rfl⟩

/-- a block twice is told from nine lines on, and not in eight -/
theorem duplicates_iff_eight :
    RepeatsAt (lines "a\nb\nc\nd\na\nb\nc\nd".toList) 0 ∧
    5 ∉ (lint "a\nb\nc\nd\na\nb\nc\nd" cardOnly).duplicates ∧
    5 ∈ (lint "a\nb\nc\nd\na\nb\nc\nd\n" cardOnly).duplicates := by
  refine ⟨by decide, fun told => ?_, ?_⟩
  · obtain ⟨i, -, -, other⟩ := ((duplicates_iff cardOnly (by decide)).2 5).mp told
    exact other (by decide)
  · exact ((duplicates_iff cardOnly (by decide)).2 5).mpr ⟨0, rfl, by decide, by decide⟩

end SnippetStudio.Snippet
