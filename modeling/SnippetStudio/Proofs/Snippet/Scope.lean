import Mathlib.Data.List.TakeWhile
import SnippetStudio.Proofs.Snippet.Destructured
import SnippetStudio.Snippet.Lint
import SnippetStudio.Text.Run

/-!
# Tags and the scope

A tag outside a comment line names a component.  The linter goes by a scope of its own making; for the names
of tags it is the scope that the wrapped snippet has (`mem_inScope`), and every name out of it is told once.

* `mem_tags`           the tags of a line, as they stand in it;
* `mem_tagUses`        the uses are the tags with their lines, in the order of the lines;
* `filter_firstUses`   of all uses of a name the first is kept;
* `lint_scope`         **what is told of a tag, and which components are in use**.
-/

namespace SnippetStudio.Snippet

open Text

/-! ## The tags of a line -/

/-- a capital with word characters behind it -/
def IsTagName (name : List Char) : Prop := ∃ c w, name = c :: w ∧ isCapital c ∧ ∀ d ∈ w, isWord d

/-- the line has a tag of this name, with neither a word nor a dot in front -/
def ShowsTag (line : Line) (name : List Char) : Prop :=
  ∃ left rest, line = left ++ '<' :: (name ++ rest) ∧ IsTagName name ∧ Stops isWord rest ∧
    ∀ c ∈ left.getLast?, isWord c = false ∧ c ≠ '.'

theorem name?_eq_some {s name rest : List Char} : name? s = some (name, rest) ↔
    s = name ++ rest ∧ IsTagName name ∧ Stops isWord rest := by
  constructor
  · intro h
    refine ⟨(name?_append h).symm, ?_⟩
    cases s with
    | nil => cases h
    | cons c s =>
      rw [name?] at h
      split at h
      · next capital =>
        obtain ⟨rfl, rfl⟩ := Prod.mk.inj (Option.some.inj h)
        exact ⟨⟨c, _, rfl, capital, fun d hd => List.mem_takeWhile_imp hd⟩, stops_dropWhile⟩
      · cases h
  · rintro ⟨rfl, ⟨c, w, rfl, capital, inside⟩, stops⟩
    rw [List.cons_append, name?, if_pos capital, word, takeWhile_run inside stops,
      dropWhile_run inside stops]

theorem tag?_eq_some {x : Place} {name : List Char} : tag? x = some name ↔
    (∀ c ∈ x.left.head?, isWord c = false ∧ c ≠ '.') ∧
      ∃ rest, x.rest = '<' :: (name ++ rest) ∧ IsTagName name ∧ Stops isWord rest := by
  have alone : (x.isFresh && x.left.head? != some '.') = true ↔
      ∀ c ∈ x.left.head?, isWord c = false ∧ c ≠ '.' := by
    cases h : x.left.head? with
    | none => simp [Place.isFresh, h]
    | some c => simp [Place.isFresh, h]
  unfold tag?
  split
  · next free =>
    simp only [Option.bind_eq_some_iff, after?_eq_some, Option.map_eq_some_iff]
    constructor
    · rintro ⟨s, behind, ⟨_, rest⟩, named, rfl⟩
      obtain ⟨rfl, isName, stops⟩ := name?_eq_some.mp named
      exact ⟨alone.mp free, rest, behind, isName, stops⟩
    · rintro ⟨-, rest, behind, isName, stops⟩
      exact ⟨name ++ rest, behind, (name, rest), name?_eq_some.mpr ⟨rfl, isName, stops⟩, rfl⟩
  · next bound =>
    simp only [reduceCtorEq, false_iff, not_and]
    exact fun free => absurd (alone.mpr free) bound

theorem mem_tags {line : Line} {name : List Char} : name ∈ tags line ↔ ShowsTag line name := by
  simp only [tags, List.mem_filterMap, mem_places, tag?_eq_some]
  constructor
  · rintro ⟨⟨left, right⟩, rfl, free, rest, rfl, named⟩
    refine ⟨left.reverse, rest, rfl, named.1, named.2, ?_⟩
    rwa [List.getLast?_reverse]
  · rintro ⟨left, rest, rfl, named, stops, free⟩
    refine ⟨⟨left.reverse, '<' :: (name ++ rest)⟩, by simp, ?_, rest, rfl, named, stops⟩
    rwa [List.head?_reverse]

/-! ## Uses, line by line -/

theorem mem_numbered {ls : List Line} {n : Nat} {line : Line} :
    (n, line) ∈ numbered ls ↔ 0 < n ∧ ls[n - 1]? = some line := by
  rw [numbered, List.mem_map]
  constructor
  · rintro ⟨⟨_, _⟩, mem, rfl, rfl⟩
    exact List.mem_zipIdx_iff_le_and_getElem?_sub.mp mem
  · exact fun at_ => ⟨(line, n), List.mem_zipIdx_iff_le_and_getElem?_sub.mpr at_, rfl⟩

theorem numbered_ascending (ls : List Line) : (numbered ls).Pairwise fun p q => p.1 < q.1 := by
  have ascending := List.pairwise_lt_range' (s := 1) (n := ls.length)
  rw [← List.zipIdx_map_snd, List.pairwise_map] at ascending
  rw [numbered, List.pairwise_map]
  exact ascending

/-- a tag of this name on a line that is no comment, the first line being 1 -/
def TagAt (code : String) (n : Nat) (name : String) : Prop :=
  ∃ line, (0 < n ∧ (lines code.toList)[n - 1]? = some line) ∧ isComment line = false ∧
    ShowsTag line name.toList

theorem mem_lineUses {p : Nat × Line} {u : Nat × String} :
    (u ∈ if isComment p.2 then [] else (tags p.2).map fun t => (p.1, String.ofList t)) ↔
      u.1 = p.1 ∧ isComment p.2 = false ∧ ShowsTag p.2 u.2.toList := by
  split
  · next comment => simp [comment]
  · next code =>
    rw [List.mem_map]
    constructor
    · rintro ⟨t, mem, rfl⟩
      exact ⟨rfl, by simpa using code, by rw [String.toList_ofList]; exact mem_tags.mp mem⟩
    · rintro ⟨number, -, shown⟩
      exact ⟨u.2.toList, mem_tags.mpr shown, Prod.ext number.symm String.ofList_toList⟩

theorem mem_tagUses {code : String} {n : Nat} {name : String} :
    (n, name) ∈ tagUses (lines code.toList) ↔ TagAt code n name := by
  simp only [tagUses, List.mem_flatMap, mem_lineUses]
  constructor
  · rintro ⟨⟨n, line⟩, mem, rfl, shown⟩
    exact ⟨line, mem_numbered.mp mem, shown⟩
  · rintro ⟨line, at_, shown⟩
    exact ⟨(n, line), mem_numbered.mpr at_, rfl, shown⟩

theorem tagUses_ascending (ls : List Line) : (tagUses ls).Pairwise fun u v => u.1 ≤ v.1 := by
  rw [tagUses, List.pairwise_flatMap]
  refine ⟨fun p _ => List.pairwise_of_forall_mem_list fun u hu v hv => ?_,
    (numbered_ascending ls).imp fun before u hu v hv => ?_⟩
  · exact ((mem_lineUses.mp hu).1.trans (mem_lineUses.mp hv).1.symm).le
  · rw [(mem_lineUses.mp hu).1, (mem_lineUses.mp hv).1]
    exact before.le

/-! ## The first use of a name -/

/-- of the uses of a name none is left where it was seen before, else the first one -/
theorem filter_firstUses (name : String) (seen : List String) (us : List (Nat × String)) :
    (firstUses seen us).filter (·.2 == name) =
      if name ∈ seen then [] else (us.find? (·.2 == name)).toList := by
  -- on the uses that are left; the first use of the name itself is what puts it among those seen
  induction us generalizing seen with
  | nil => simp [firstUses]
  | cons u us ih =>
    rw [firstUses]
    by_cases same : u.2 = name
    · subst same
      by_cases known : u.2 ∈ seen
      · rw [if_pos known, ih, if_pos known, if_pos known]
      · rw [if_neg known, List.filter_cons_of_pos (by simp), ih, if_pos List.mem_cons_self,
          if_neg known, List.find?_cons_of_pos (by simp)]
        rfl
    · rw [List.find?_cons_of_neg (by simpa using same)]
      split
      · exact ih seen
      · rw [List.filter_cons_of_neg (by simpa using same), ih]
        simp only [List.mem_cons, Ne.symm same, false_or]

theorem find?_first {us : List (Nat × String)} {n : Nat} {name : String}
    (ascending : us.Pairwise fun u v => u.1 ≤ v.1) (here : (n, name) ∈ us)
    (first : ∀ m, (m, name) ∈ us → n ≤ m) : us.find? (·.2 == name) = some (n, name) := by
  have some : (us.find? (·.2 == name)).isSome := List.find?_isSome.mpr ⟨_, here, beq_self_eq_true _⟩
  obtain ⟨⟨m, other⟩, found⟩ := Option.isSome_iff_exists.mp some
  obtain ⟨same, before, behind, rfl, none⟩ := List.find?_eq_some_iff_append.mp found
  obtain rfl : other = name := eq_of_beq same
  have later : n = m ∨ m ≤ n := by
    rcases List.mem_append.mp here with mem | mem
    · exact absurd (none _ mem) (by simp)
    · rcases List.mem_cons.mp mem with same | mem
      · exact .inl (Prod.mk.inj same).1
      · exact .inr ((List.pairwise_cons.mp (List.pairwise_append.mp ascending).2.1).1 _ mem)
  have earlier := first m (by simp)
  obtain rfl : n = m := by omega
  exact found

/-! ## The scope -/

/-- the notice of an unknown component of this name -/
def Notice.names (name : String) : Notice → Bool
  | .unknownComponent n _ => n == name
  | _ => false

/-- the notices that a name is unknown -/
def Validation.unknown (v : Validation) (name : String) : List (Finding Notice) :=
  v.warnings.filter (·.cause.names name)

/-- what a tag may name: what the wrapping declares, what the compiled snippet is given, and what the snippet
declares itself -/
def scope (code : String) (caps : Capabilities) : List String :=
  scopeNames caps.names caps.hooks ++ Scope.parameters ++ localNames code

theorem mem_localNames {code name : String} :
    name ∈ localNames code ↔ name ∈ (declaredNames code.toList).map String.ofList := by
  rw [localNames, List.mem_mergeSort, List.mem_eraseDups]

/-- for the name of a tag the linter's scope is the scope that a snippet has -/
theorem mem_inScope {code name : String} {caps : Capabilities} (tag : IsTagName name.toList) :
    name ∈ inScope caps code.toList ↔ name ∈ scope code caps := by
  have capital : name ≠ "cn" ∧ name ≠ "mockData" := by
    obtain ⟨c, w, spelled, isCapital, -⟩ := tag
    constructor <;> rintro rfl <;> cases spelled <;> revert isCapital <;> decide
  simp only [inScope, scope, scopeNames, ambient, Scope.parameters, List.mem_append, mem_localNames,
    List.mem_cons, List.not_mem_nil, capital.1, capital.2, or_false]
  grind

theorem filter_names_checkTags (caps : Capabilities) (code : List Char) (ls : List Line) (name : String) :
    (checkTags caps code ls).filter (·.cause.names name) =
      if name ∈ inScope caps code then [] else
        ((tagUses ls).find? (·.2 == name)).toList.map fun u =>
          ⟨u.1, .unknownComponent u.2 (u.2 ∈ caps.icons)⟩ := by
  have first := filter_firstUses name (inScope caps code) (tagUses ls)
  rw [checkTags, List.filter_map]
  show List.map _ ((firstUses _ _).filter (·.2 == name)) = _
  rw [first]
  split <;> rfl

theorem names_keysFrom (name : String) (i : Nat) (ls : List Line) :
    ∀ w ∈ keysFrom i ls, w.cause.names name = false := by
  induction ls generalizing i with
  | nil => exact nofun
  | cons l ls ih =>
    rw [keysFrom, List.forall_mem_append]
    refine ⟨?_, ih (i + 1)⟩
    split
    · simp [Notice.names]
    · exact nofun

theorem names_checkDirective (name : String) (code : List Char) :
    ∀ w ∈ checkDirective code, w.cause.names name = false := by
  rw [checkDirective]
  split
  · simp [Notice.names]
  · exact nofun

theorem lint_of_nonblank {code : String} (caps : Capabilities) (nonblank : trim code.toList ≠ []) :
    (lint code caps).warnings = checkTags caps code.toList (lines code.toList) ++
        checkKeys (lines code.toList) ++ checkDirective code.toList ∧
      (lint code caps).used = usedComponents caps (lines code.toList) := by
  have some : (trim code.toList).isEmpty = false := by simpa using nonblank
  simp [lint, check, some]

theorem unknown_lint {code : String} (caps : Capabilities) (name : String)
    (nonblank : trim code.toList ≠ []) :
    (lint code caps).unknown name =
      (checkTags caps code.toList (lines code.toList)).filter (·.cause.names name) := by
  have none {ws : List (Finding Notice)} (h : ∀ w ∈ ws, w.cause.names name = false) :
      ws.filter (·.cause.names name) = [] :=
    List.filter_eq_nil_iff.mpr fun w mem => by simp [h w mem]
  rw [Validation.unknown, (lint_of_nonblank caps nonblank).1, List.filter_append, List.filter_append,
    checkKeys, none (names_keysFrom name 1 _), none (names_checkDirective name _), List.append_nil,
    List.append_nil]

theorem unknown_of_first {code : String} {caps : Capabilities} {n : Nat} {name : String}
    (nonblank : trim code.toList ≠ []) (here : TagAt code n name)
    (first : ∀ m, TagAt code m name → n ≤ m) :
    (lint code caps).unknown name =
      if name ∈ scope code caps then [] else [⟨n, .unknownComponent name (name ∈ caps.icons)⟩] := by
  have tag : IsTagName name.toList := by
    obtain ⟨_, _, _, _, _, _, isName, _⟩ := here
    exact isName
  have use := find?_first (tagUses_ascending _) (mem_tagUses.mpr here) fun m mem => first m (mem_tagUses.mp mem)
  rw [unknown_lint caps name nonblank, filter_names_checkTags, use]
  simp only [mem_inScope tag]
  rfl

theorem unknown_of_none {code : String} (caps : Capabilities) {name : String}
    (nonblank : trim code.toList ≠ []) (none : ∀ n, ¬TagAt code n name) :
    (lint code caps).unknown name = [] := by
  have noUse : (tagUses (lines code.toList)).find? (·.2 == name) = Option.none := by
    refine List.find?_eq_none.mpr fun ⟨n, other⟩ mem same => ?_
    obtain rfl : other = name := eq_of_beq same
    exact none n (mem_tagUses.mp mem)
  rw [unknown_lint caps name nonblank, filter_names_checkTags, noUse]
  exact ite_self _

/-! ## Components in use -/

theorem nodup_eraseDups : ∀ names : List String, names.eraseDups.Nodup
  | [] => by simp
  | name :: names => by
    rw [List.eraseDups_cons, List.nodup_cons]
    exact ⟨by simp, nodup_eraseDups (names.filter fun n => !n == name)⟩
termination_by names => names.length
decreasing_by exact Nat.lt_succ_of_le (List.length_filter_le _ _)

theorem sortNames_ascending {names : List String} (distinct : names.Nodup) :
    (sortNames names).Pairwise (· < ·) := by
  have sorted := @List.pairwise_mergeSort String (fun a b => decide (a ≤ b))
    (fun a b c => by simpa using String.le_trans) (fun a b => by simpa using String.le_total a b) names
  have apart : (sortNames names).Nodup := (List.mergeSort_perm names _).nodup_iff.mpr distinct
  refine List.Pairwise.imp₂ (fun a b le ne => ?_) sorted apart
  exact String.not_le.mp fun ge => ne (String.le_antisymm (of_decide_eq_true le) ge)

theorem mem_usedComponents {code : String} {caps : Capabilities} {name : String} :
    name ∈ usedComponents caps (lines code.toList) ↔
      name ∈ caps.components.map (·.name) ∧ ∃ n, TagAt code n name := by
  rw [usedComponents, sortNames, List.mem_mergeSort, List.mem_eraseDups, List.mem_filter, List.mem_map,
    decide_eq_true_iff, Capabilities.names, sortNames, List.mem_mergeSort]
  constructor
  · rintro ⟨⟨⟨n, _⟩, mem, rfl⟩, known⟩
    exact ⟨known, n, mem_tagUses.mp mem⟩
  · rintro ⟨known, n, here⟩
    exact ⟨⟨(n, name), mem_tagUses.mpr here, rfl⟩, known⟩

/-- **The linter's scope is the scope of the wrapped snippet.**  A capitalised tag has one notice, at the
first of its lines, if its name is not in scope, and none if it is; the components in use are those that occur
as tags.  Where the components and the hooks are identifiers, the scope is what the text of the wrapping declares,
what the compiled snippet is given, and what the snippet declares. -/
theorem lint_scope {code : String} (caps : Capabilities) (nonblank : trim code.toList ≠ []) :
    (∀ name n, TagAt code n name → (∀ m, TagAt code m name → n ≤ m) →
      (lint code caps).unknown name =
        if name ∈ scope code caps then [] else [⟨n, .unknownComponent name (name ∈ caps.icons)⟩]) ∧
    (∀ name, (∀ n, ¬TagAt code n name) → (lint code caps).unknown name = []) ∧
    (lint code caps).used.Pairwise (· < ·) ∧
    (∀ name, name ∈ (lint code caps).used ↔
      name ∈ caps.components.map (·.name) ∧ ∃ n, TagAt code n name) ∧
    ((∀ name ∈ caps.names ++ caps.hooks, Scope.IsIdentifier name) →
      scope code caps =
        (wrap code caps.names caps.hooks).destructured ++ Scope.parameters ++ localNames code) := by
  have used := (lint_of_nonblank caps nonblank).2
  refine ⟨fun name n => unknown_of_first nonblank, fun name => unknown_of_none caps nonblank, ?_, ?_, ?_⟩
  · rw [used]
    exact sortNames_ascending (nodup_eraseDups _)
  · intro name
    rw [used]
    exact mem_usedComponents
  · intro identifiers
    obtain ⟨components, hooks⟩ := List.forall_mem_append.mp fun name mem => (identifiers name mem).standsAlone
    rw [destructured_wrap code components hooks, scope]

/-- a set of one component -/
def cardOnly : Capabilities where
  components := [{ name := "Card", tag := "div" }]
  mockData := .obj true []
  icons := []

/-- the second line has a tag that nobody declares -/
theorem lint_scope_second :
    (∀ name ∈ cardOnly.names ++ cardOnly.hooks, Scope.IsIdentifier name) ∧
    "Foo" ∉ (wrap "<Card>\n<Foo /></Card>" cardOnly.names cardOnly.hooks).destructured ∧
    (lint "<Card>\n<Foo /></Card>" cardOnly).unknown "Foo" = [⟨2, .unknownComponent "Foo" false⟩] := by
  have nonblank : trim "<Card>\n<Foo /></Card>".toList ≠ [] := by decide
  have uses : tagUses (lines "<Card>\n<Foo /></Card>".toList) = [(1, "Card"), (2, "Foo")] := by decide
  have declared : localNames "<Card>\n<Foo /></Card>" = [] := by
    have none : declaredNames "<Card>\n<Foo /></Card>".toList = [] := by decide
    rw [localNames, none]
    exact List.mergeSort_nil
  have names : cardOnly.names = ["Card"] := List.mergeSort_singleton ..
  have unknown : "Foo" ∉ scope "<Card>\n<Foo /></Card>" cardOnly := by
    rw [scope, scopeNames, names, declared]
    decide
  have identifiers : ∀ name ∈ cardOnly.names ++ cardOnly.hooks, Scope.IsIdentifier name := by
    rw [names]
    decide
  obtain ⟨noticed, -, -, -, declares⟩ := lint_scope cardOnly nonblank
  have noticed := noticed "Foo" 2
  simp only [← mem_tagUses, uses] at noticed
  refine ⟨identifiers, fun mem => unknown ?_, (noticed (by simp) (by simp)).trans (if_neg unknown)⟩
  rw [declares identifiers]
  exact List.mem_append_left _ (List.mem_append_left _ mem)

/-- one component whose name is two identifiers -/
def cardAndFoo : Capabilities where
  components := [{ name := "Card, Foo", tag := "div" }]
  mockData := .obj true []
  icons := []

/-- a snippet that shows `Foo` and does not declare it -/
def usesFoo : String := "function Preview() \x7b return <Foo />; \x7d"

/-- a name that is no identifier may declare another one, which the linter does not know -/
theorem lint_scope_joined :
    "Foo" ∈ (wrap usesFoo cardAndFoo.names cardAndFoo.hooks).destructured ∧
    (lint usesFoo cardAndFoo).unknown "Foo" =
      [⟨1, .unknownComponent "Foo" false⟩] := by
  have names : cardAndFoo.names = ["Card, Foo"] := List.mergeSort_singleton ..
  rw [names]
  constructor
  · have joined := wrap_joined usesFoo "Card" "Foo" Scope.hookNames
    show "Foo" ∈ (wrap _ ["Card" ++ ", " ++ "Foo"] Scope.hookNames).destructured
    rw [joined, destructured_wrap _ (by decide) (by decide)]
    decide
  · have nonblank : trim usesFoo.toList ≠ [] := by decide
    have uses : tagUses (lines usesFoo.toList) = [(1, "Foo")] := by decide
    have declared : "Foo" ∉ localNames usesFoo := by
      rw [mem_localNames]
      decide
    have unknown : "Foo" ∉ scope usesFoo cardAndFoo := by
      rw [scope, scopeNames, names, List.mem_append, not_or]
      exact ⟨by decide, declared⟩
    have here : TagAt usesFoo 1 "Foo" :=
      mem_tagUses.mp (uses ▸ List.mem_singleton_self _)
    have first : ∀ m, TagAt usesFoo m "Foo" → 1 ≤ m := fun m mem => by
      rw [← mem_tagUses, uses] at mem
      simp_all
    exact (unknown_of_first nonblank here first).trans (if_neg unknown)

end SnippetStudio.Snippet
