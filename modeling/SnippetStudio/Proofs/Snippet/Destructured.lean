import SnippetStudio.Proofs.Snippet.Coordinates
import SnippetStudio.Proofs.Snippet.Patterns

/-!
# Names in front of the snippet

The wrapping declares its names in text: two of its opening lines take them out of an object, between
braces.  Read back as any such text is read, they are the names that went in, where each stands for itself
(`StandsAlone`).

* `patterns_destructuring`  a line of the wrapping has one pattern;
* `entryNames_glued`        the entries of a pattern are the names between its commas;
* `destructured_wrap`       **the names in front of a wrapped snippet are those of the scope**.
-/

namespace SnippetStudio.Snippet

open Text

/-- a name without blanks and without the marks that mean something in a pattern -/
def StandsAlone (name : List Char) : Prop :=
  name ≠ [] ∧ begins "...".toList name = false ∧
    ∀ c ∈ name, isBlank c = false ∧ c ≠ ',' ∧ c ≠ ':' ∧ c ≠ '=' ∧ c ≠ '\x7d'

instance (name : List Char) : Decidable (StandsAlone name) :=
  decidable_of_iff (name ≠ [] ∧ begins "...".toList name = false ∧
    name.all fun c => !isBlank c && c != ',' && c != ':' && c != '=' && c != '\x7d')
    (by simp [StandsAlone, and_assoc])

/-! ## One entry -/

theorem StandsAlone.not_mem {name : List Char} (alone : StandsAlone name) {c : Char}
    (mark : c ∈ [',', ':', '=', '\x7d']) : c ∉ name := by
  intro mem
  obtain ⟨-, comma, colon, equals, brace⟩ := alone.2.2 c mem
  simp [comma, colon, equals, brace] at mark

theorem entryName?_of_trim {entry name : List Char} (trims : trim entry = name) (alone : StandsAlone name) :
    entryName? entry = some name := by
  have noColon : ':' ∉ name := alone.not_mem (by decide)
  have noDefault : '=' ∉ name := alone.not_mem (by decide)
  have own : boundPart name = name := by
    rw [boundPart, cutOnce_of_not_mem noColon, Option.getD_none, upTo_of_not_mem noDefault,
      trim_of_visible fun c mem => (alone.2.2 c mem).1]
  rw [entryName?_eq, trims, own, alone.2.1, List.isEmpty_eq_false_iff.mpr alone.1]
  rfl

theorem entryNames_glued {names : List (List Char)} (alone : ∀ name ∈ names, StandsAlone name) :
    entryNames (' ' :: ([',', ' '].intercalate names ++ [' '])) = names := by
  induction names with
  | nil => rfl
  | cons name names ih =>
    obtain ⟨first, rest⟩ := List.forall_mem_cons.mp alone
    have noComma : ',' ∉ name := first.not_mem (by decide)
    have own : trim name = name := trim_of_visible fun c mem => (first.2.2 c mem).1
    have space : Blanks [' '] := List.forall_mem_singleton.mpr (by decide)
    cases names with
    | nil =>
      have whole : ',' ∉ ' ' :: (name ++ [' ']) := by simp [noComma]
      rw [List.intercalate_singleton, entryNames, cut_of_not_mem whole, List.filterMap_cons_some,
        List.filterMap_nil]
      exact entryName?_of_trim ((trim_around space space).trans own) first
    | cons k ks =>
      have cuts : ' ' :: ([',', ' '].intercalate (name :: k :: ks) ++ [' ']) =
          (' ' :: name) ++ ',' :: (' ' :: ([',', ' '].intercalate (k :: ks) ++ [' '])) := by
        rw [List.intercalate_cons_cons]
        simp
      have front : ',' ∉ ' ' :: name := by simp [noComma]
      have tail := ih rest
      rw [entryNames] at tail
      rw [entryNames, cuts, cut_append, cut_of_not_mem front, List.filterMap_append, tail,
        List.filterMap_cons_some, List.filterMap_nil, List.singleton_append]
      exact entryName?_of_trim ((trim_behind space).trans own) first

/-! ## One pattern -/

theorem patterns_destructuring {inside object : List Char} (closed : '\x7d' ∉ inside)
    (plain : '\x7b' ∉ object) :
    patterns ("  const \x7b".toList ++ inside ++ "\x7d = ".toList ++ object) = [inside] := by
  have found : pattern? ⟨[], "const \x7b".toList ++ inside ++ "\x7d = ".toList ++ object⟩ =
      some (inside, ' ' :: object) := by
    have space : Blanks [' '] := List.forall_mem_singleton.mpr (by decide)
    refine pattern?_eq_some.mpr ⟨rfl, closed, "const".toList, by decide, [' '], [' '], space, space, ?_⟩
    simp [braced]
  have rest : '\x7b' ∉ ' ' :: object := by simp [plain]
  show patterns (' ' :: ' ' :: ("const \x7b".toList ++ inside ++ "\x7d = ".toList ++ object)) = [inside]
  rw [patterns_cons (by decide), patterns_cons (by decide), patterns_of_pattern? found, patterns,
    patternsFrom_of_not_mem rest]

end SnippetStudio.Snippet

namespace SnippetStudio

open Text Snippet

/-- one name, as a snippet may use it: letters, digits, underscores and dollar signs -/
def Scope.IsIdentifier (name : String) : Prop :=
  name ≠ "" ∧ ∀ c ∈ name.toList, isWord c = true ∨ c = '$'

instance (name : String) : Decidable (Scope.IsIdentifier name) :=
  decidable_of_iff (name ≠ "" ∧ name.toList.all fun c => isWord c || c == '$') (by simp [Scope.IsIdentifier])

theorem Scope.IsIdentifier.standsAlone {name : String} (h : IsIdentifier name) : StandsAlone name.toList := by
  have apart {c m : Char} (mem : c ∈ name.toList) (mark : isWord m = false ∧ m ≠ '$') : c ≠ m := by
    rintro rfl
    rcases h.2 _ mem with word | dollar
    · rw [mark.1] at word
      cases word
    · exact mark.2 dollar
  refine ⟨by simpa using h.1, ?_, fun c mem => ⟨?_, apart mem ?_, apart mem ?_, apart mem ?_, apart mem ?_⟩⟩
  · cases spelled : name.toList with
    | nil => rfl
    | cons c s =>
      have dot : c ≠ '.' := apart (by rw [spelled]; exact List.mem_cons_self ..) (by decide)
      simp [begins, after?, dot]
  · rcases h.2 c mem with word | rfl
    · exact isBlank_of_isWord word
    · decide
  all_goals decide

namespace Wrapped

/-- the names that are taken out of objects in front of the snippet -/
def destructured (w : Wrapped) : List String :=
  ((lineTexts w.text).take w.lineOffset).flatMap fun line =>
    ((patterns line.toList).flatMap entryNames).map String.ofList

theorem names_destructuring {names : List String} (alone : ∀ name ∈ names, StandsAlone name.toList)
    {object : String} (plain : '\x7b' ∉ object.toList) :
    ((patterns (destructuring names object).toList).flatMap entryNames).map String.ofList = names := by
  have each : ∀ name ∈ names.map String.toList, StandsAlone name := List.forall_mem_map.mpr alone
  have line : (destructuring names object).toList = "  const \x7b".toList ++
      (' ' :: ([',', ' '].intercalate (names.map String.toList) ++ [' '])) ++ "\x7d = ".toList ++
        (object.toList ++ [';']) := by
    simp [destructuring, String.toList_intercalate]
  have closed : '\x7d' ∉ ' ' :: ([',', ' '].intercalate (names.map String.toList) ++ [' ']) := by
    have inner : '\x7d' ∉ [',', ' '].intercalate (names.map String.toList) := by
      intro brace
      rw [← glue_eq_intercalate] at brace
      rcases mem_glue brace with comma | ⟨name, mem, inside⟩
      · revert comma
        decide
      · exact (each name mem).not_mem (by decide) inside
    simp [inner]
  rw [line, patterns_destructuring closed (by simp [plain]), List.flatMap_singleton,
    entryNames_glued each, List.map_map]
  exact (List.map_congr_left fun name _ => String.ofList_toList).trans (List.map_id _)

end Wrapped

/-- **The names in front of a wrapped snippet** are the components, and the hooks behind the extra names of
the library. -/
theorem destructured_wrap {components hooks : List String} (source : String)
    (hc : ∀ name ∈ components, StandsAlone name.toList) (hh : ∀ name ∈ hooks, StandsAlone name.toList) :
    (wrap source components hooks).destructured = scopeNames components hooks := by
  have oneLiner {names : List String} (alone : ∀ name ∈ names, StandsAlone name.toList) : OneLiners names :=
    fun name mem newline => absurd ((alone name mem).2.2 _ newline).1 (by decide)
  have extras : ∀ name ∈ Scope.extras ++ hooks, StandsAlone name.toList :=
    List.forall_mem_append.mpr ⟨by decide, hh⟩
  have first : patterns "(function () \x7b".toList = [] := by decide
  have last : patterns "  \x7b".toList = [] := by decide
  rw [Wrapped.destructured, lineTexts_wrap source (oneLiner hc) (oneLiner hh), List.append_assoc]
  show (Wrapped.opening components hooks).flatMap _ = _
  simp only [Wrapped.opening, List.flatMap_cons, List.flatMap_nil, List.append_nil, first, last,
    Wrapped.names_destructuring hc (show '\x7b' ∉ "ShadcnUI".toList by decide),
    Wrapped.names_destructuring extras (show '\x7b' ∉ "React".toList by decide), List.map_nil,
    List.nil_append]
  rw [scopeNames, List.append_assoc]

/-- two names in one declare what the two do -/
theorem wrap_joined (source a b : String) (hooks : List String) :
    wrap source [a ++ ", " ++ b] hooks = wrap source [a, b] hooks := by
  have joined : ", ".intercalate [a ++ ", " ++ b] = ", ".intercalate [a, b] := by
    rw [String.intercalate_singleton, String.intercalate_cons_cons, String.intercalate_singleton]
  simp only [wrap, Wrapped.opening, Wrapped.destructuring, joined, List.length_cons]

end SnippetStudio
