import Mathlib.Data.List.Nodup
import SnippetStudio.Capability.Catalogue
import SnippetStudio.Proofs.Snippet.Scope

/-!
# Sets of components

A set of components is refused when two of them share a name, or when the scope already uses one of the names.
The text around a snippet is put together elsewhere, from the names as they are.  Where each name is a single
identifier, what that text declares is never declared twice, nor is it a parameter of the compiled snippet; a
name that is more than one identifier may well be declared twice (`scope_repeats`).

Fixture data is sealed at every depth when a set is built, and opened again when the set is handed to the
page.  Both go through the tree on their own; on data that is read from JSON the second undoes the first.

* `clash?_eq_none_iff`   which names are accepted;
* `build_eq_ok_iff`      which set is built of them;
* `nodup_scopeNames`     the names in front of a snippet are distinct;
* `scope_distinct`       **which sets are refused, and what the others declare**;
* `isFrozen_freeze`      nothing open is left in sealed data;
* `thaw_freeze`          opened again, every container is what it was, with its fields in their order;
* `fixture_kept`         **the page gets the fixture data that the set was built with**.
-/

namespace SnippetStudio

open Text Snippet

namespace Scope

/-- the scope already uses the name -/
def Uses (name : String) : Prop := name ∈ hookNames ∨ name ∈ extras ∨ name ∈ parameters

end Scope

namespace Capabilities

variable {names : List String} {components : List Component} {icons : List String} {mockData : Fixture}

/-! ## What is refused -/

theorem eraseDups_eq_nil_iff : ∀ {names : List String}, names.eraseDups = [] ↔ names = []
  | [] => by simp
  | name :: names => by simp [List.eraseDups_cons]

theorem repeated_eq_nil_iff : repeated names = [] ↔ names.Nodup := by
  rw [repeated, eraseDups_eq_nil_iff, List.filter_eq_nil_iff, List.nodup_iff_count]
  constructor
  · intro once name
    by_cases mem : name ∈ names
    · exact Nat.le_of_not_lt (by simpa using once name mem)
    · exact (List.count_eq_zero.mpr mem).le.trans (Nat.zero_le 1)
  · intro once name _
    simpa using once name

theorem taken_eq_nil_iff : taken names = [] ↔ ∀ name ∈ names, ¬Scope.Uses name := by
  rw [taken, eraseDups_eq_nil_iff, List.filter_eq_nil_iff]
  simp only [Scope.Uses, List.mem_append, decide_eq_true_eq, or_assoc]

theorem clash?_eq_none_iff : clash? names = none ↔ names.Nodup ∧ ∀ name ∈ names, ¬Scope.Uses name := by
  rw [← repeated_eq_nil_iff, ← taken_eq_nil_iff, clash?]
  split
  · next twice => simp [twice]
  · next once =>
    split
    · next used => simp [used]
    · next free => simp_all

theorem build_eq_ok_iff {caps : Capabilities} : build components icons mockData = .ok caps ↔
    clash? (components.map (·.name)) = none ∧
      caps = { components, mockData := mockData.freeze, icons := sortNames icons } := by
  rw [build]
  split
  · next clash => simp [clash]
  · next free => simp [free, eq_comm]

theorem build_eq_error_iff : (∃ clash, build components icons mockData = .error clash) ↔
    clash? (components.map (·.name)) ≠ none := by
  rw [build]
  split
  · next clash => simp [clash]
  · next free => simp [free]

/-! ## What the others declare -/

theorem names_perm (c : Capabilities) : c.names.Perm (c.components.map (·.name)) :=
  List.mergeSort_perm ..

end Capabilities

/-- the names in front of a snippet are distinct where those of the components are, and none is used already -/
theorem nodup_scopeNames {names : List String} (distinct : names.Nodup)
    (free : ∀ name ∈ names, ¬Scope.Uses name) : (scopeNames names Scope.hookNames).Nodup := by
  have own : (Scope.extras ++ Scope.hookNames).Nodup := by decide
  rw [scopeNames, List.append_assoc]
  refine distinct.append own fun name mem used => free name mem ?_
  rcases List.mem_append.mp used with extra | hook
  · exact .inr (.inl extra)
  · exact .inl hook

theorem not_mem_scopeNames {names : List String} (free : ∀ name ∈ names, ¬Scope.Uses name) {p : String}
    (parameter : p ∈ Scope.parameters) : p ∉ scopeNames names Scope.hookNames := by
  have apart : ∀ p ∈ Scope.parameters, p ∉ Scope.extras ∧ p ∉ Scope.hookNames := by decide
  intro mem
  rcases List.mem_append.mp mem with mem | hook
  · rcases List.mem_append.mp mem with component | extra
    · exact free p component (.inr (.inr parameter))
    · exact (apart p parameter).1 extra
  · exact (apart p parameter).2 hook

/-- **No clash in the scope.**  A set of components is refused just if two of them share a name or the scope
already uses one; otherwise its names are those of the components in their order.  Where these are identifiers,
the text in front of a snippet declares them, the extra names and the hooks, each of them once, and no parameter
of the compiled snippet. -/
theorem scope_distinct (components : List Component) (icons : List String) (mockData : Fixture) :
    ((∃ clash, Capabilities.build components icons mockData = .error clash) ↔
      ¬(components.map (·.name)).Nodup ∨ ∃ name ∈ components.map (·.name), Scope.Uses name) ∧
    ∀ caps, Capabilities.build components icons mockData = .ok caps →
      caps.names.Perm (components.map (·.name)) ∧ caps.names.Pairwise (· < ·) ∧
      ((∀ name ∈ components.map (·.name), Scope.IsIdentifier name) → ∀ source,
        (wrap source caps.names caps.hooks).destructured = caps.names ++ Scope.extras ++ Scope.hookNames ∧
        (wrap source caps.names caps.hooks).destructured.Nodup ∧
        ∀ p ∈ Scope.parameters, p ∉ (wrap source caps.names caps.hooks).destructured) := by
  refine ⟨?_, fun caps built => ?_⟩
  · rw [Capabilities.build_eq_error_iff, Ne, Capabilities.clash?_eq_none_iff, not_and_or]
    simp
  · obtain ⟨accepted, rfl⟩ := Capabilities.build_eq_ok_iff.mp built
    obtain ⟨distinct, free⟩ := Capabilities.clash?_eq_none_iff.mp accepted
    have perm := Capabilities.names_perm
      { components, mockData := mockData.freeze, icons := sortNames icons }
    refine ⟨perm, sortNames_ascending distinct, fun identifiers source => ?_⟩
    have alone : ∀ name ∈ sortNames (components.map (·.name)), StandsAlone name.toList := fun name mem =>
      (identifiers name (perm.mem_iff.mp mem)).standsAlone
    have hooks : ∀ name ∈ Scope.hookNames, StandsAlone name.toList := by decide
    have declared := destructured_wrap source alone hooks
    have free' : ∀ name ∈ sortNames (components.map (·.name)), ¬Scope.Uses name := fun name mem =>
      free name (perm.mem_iff.mp mem)
    refine ⟨declared, ?_, fun p parameter => ?_⟩
    · exact declared ▸ nodup_scopeNames (perm.nodup_iff.mpr distinct) free'
    · exact declared ▸ not_mem_scopeNames free' parameter

/-- two components, out of order -/
def tabsAndCard : List Component := [{ name := "Tabs", tag := "div" }, { name := "Card", tag := "div" }]

/-- two components are declared once each -/
theorem scope_distinct_two : (∀ name ∈ tabsAndCard.map (·.name), Scope.IsIdentifier name) ∧
    ∃ caps, Capabilities.build tabsAndCard [] (.obj false []) = .ok caps ∧
      caps.names.Perm ["Tabs", "Card"] ∧ (wrap "" caps.names caps.hooks).destructured.Nodup := by
  have identifiers : ∀ name ∈ tabsAndCard.map (·.name), Scope.IsIdentifier name := by
    have spelled : (tabsAndCard.map (·.name)).all (·.toList.all isWord) = true := by decide
    simp only [List.all_eq_true] at spelled
    exact fun name mem => ⟨by rintro rfl; revert mem; decide, fun c inside => .inl (spelled name mem c inside)⟩
  obtain ⟨caps, built⟩ : ∃ caps, Capabilities.build tabsAndCard [] (.obj false []) = .ok caps :=
    ⟨_, Capabilities.build_eq_ok_iff.mpr ⟨by decide, rfl⟩⟩
  obtain ⟨perm, -, declared⟩ := (scope_distinct tabsAndCard [] (.obj false [])).2 caps built
  exact ⟨identifiers, caps, built, perm, (declared identifiers "").2.1⟩

/-- one component whose name is two identifiers -/
def twinCards : List Component := [{ name := "Card, Card", tag := "div" }]

/-- a name that is no identifier may be declared twice: the text is that of two components -/
theorem scope_repeats : ∃ caps, Capabilities.build twinCards [] (.obj false []) = .ok caps ∧
    ¬(wrap "" caps.names caps.hooks).destructured.Nodup := by
  refine ⟨_, Capabilities.build_eq_ok_iff.mpr ⟨by decide, rfl⟩, ?_⟩
  have one : sortNames ["Card, Card"] = ["Card, Card"] := List.mergeSort_singleton ..
  have alone : ∀ name ∈ ["Card", "Card"], StandsAlone name.toList := by decide
  show ¬(wrap "" (sortNames ["Card, Card"]) Scope.hookNames).destructured.Nodup
  rw [one]
  show ¬(wrap "" ["Card" ++ ", " ++ "Card"] Scope.hookNames).destructured.Nodup
  rw [wrap_joined, destructured_wrap "" alone (by decide)]
  decide

/-! ## Fixture data -/

namespace Fixture

mutual

/-- **Data that is sealed has no open container** at any depth. -/
theorem isFrozen_freeze : ∀ v : Json, ((ofJson v).freeze).isFrozen = true
  | .null | .bool _ | .int _ | .real _ | .str _ => rfl
  | .arr xs => frozenItems_freezeItems xs
  | .obj fs => frozenFields_freezeFields fs

theorem frozenItems_freezeItems : ∀ xs : List Json, frozenItems (freezeItems (ofItems xs)) = true
  | [] => rfl
  | x :: xs => Bool.and_eq_true_iff.mpr ⟨isFrozen_freeze x, frozenItems_freezeItems xs⟩

theorem frozenFields_freezeFields : ∀ fs : List (String × Json),
    frozenFields (freezeFields (ofFields fs)) = true
  | [] => rfl
  | f :: fs => Bool.and_eq_true_iff.mpr ⟨isFrozen_freeze f.2, frozenFields_freezeFields fs⟩

end

mutual

/-- **Data that was sealed is opened as it was.** -/
theorem thaw_freeze : ∀ v : Json, ((ofJson v).freeze).thaw = ofJson v
  | .null | .bool _ | .int _ | .real _ | .str _ => rfl
  | .arr xs => congrArg (arr false) (thawItems_freezeItems xs)
  | .obj fs => congrArg (obj false) (thawFields_freezeFields fs)

theorem thawItems_freezeItems : ∀ xs : List Json, thawItems (freezeItems (ofItems xs)) = ofItems xs
  | [] => rfl
  | x :: xs => by
    rw [ofItems, freezeItems, thawItems, thaw_freeze x, thawItems_freezeItems xs]

theorem thawFields_freezeFields : ∀ fs : List (String × Json),
    thawFields (freezeFields (ofFields fs)) = ofFields fs
  | [] => rfl
  | f :: fs => by
    rw [ofFields, freezeFields, thawFields, thaw_freeze f.2, thawFields_freezeFields fs]

end

mutual

/-- a tree shows the value that it was read from -/
theorem toJson_ofJson : ∀ v : Json, (ofJson v).toJson = v
  | .null | .bool _ | .int _ | .real _ | .str _ => rfl
  | .arr xs => congrArg Json.Tree.arr (toItems_ofItems xs)
  | .obj fs => congrArg Json.Tree.obj (toFields_ofFields fs)

theorem toItems_ofItems : ∀ xs : List Json, toItems (ofItems xs) = xs
  | [] => rfl
  | x :: xs => by rw [ofItems, toItems, toJson_ofJson x, toItems_ofItems xs]

theorem toFields_ofFields : ∀ fs : List (String × Json), toFields (ofFields fs) = fs
  | [] => rfl
  | f :: fs => by rw [ofFields, toFields, toJson_ofJson f.2, toFields_ofFields fs]

end

end Fixture

/-! ## The document for the page -/

namespace Component

/-- tables are records, and what is dropped is a list -/
def inShape (c : Component) : Bool :=
  c.variants.fields?.isSome && c.sizes.fields?.isSome && c.attrs.fields?.isSome && c.dropped.items?.isSome &&
    c.renamed.fields?.isSome

theorem table_of_fields? {v : Json} (h : v.fields?.isSome) : ∃ fs, Json.table v = .ok fs := by
  cases v with
  | obj fs => exact ⟨fs, rfl⟩
  | _ => cases h

theorem parts_of_items? {v : Json} (h : v.items?.isSome) : ∃ xs, Json.parts v = .ok xs := by
  cases v with
  | arr xs => exact ⟨xs, rfl⟩
  | _ => cases h

theorem payload_of_inShape {c : Component} (h : c.inShape = true) : ∃ p, c.payload = .ok p := by
  simp only [inShape, Bool.and_eq_true] at h
  obtain ⟨⟨⟨⟨variants, sizes⟩, attrs⟩, dropped⟩, renamed⟩ := h
  obtain ⟨_, variants⟩ := table_of_fields? variants
  obtain ⟨_, sizes⟩ := table_of_fields? sizes
  obtain ⟨_, attrs⟩ := table_of_fields? attrs
  obtain ⟨_, dropped⟩ := parts_of_items? dropped
  obtain ⟨_, renamed⟩ := table_of_fields? renamed
  simp only [payload, variants, sizes, attrs, dropped, renamed]
  exact ⟨_, rfl⟩

end Component

namespace Capabilities

theorem payload_eq_ok_iff {c : Capabilities} {p : Json} : c.payload = .ok p ↔
    ∃ components, c.components.mapM (·.payload) = .ok components ∧
      p = .obj [("components", .arr components), ("mockData", c.mockData.thaw.toJson)] := by
  rw [payload]
  cases c.components.mapM (·.payload) with
  | error f => exact ⟨nofun, nofun⟩
  | ok components =>
    refine ⟨fun h => ⟨_, rfl, (Except.ok.inj h).symm⟩, fun ⟨_, h, e⟩ => ?_⟩
    cases h
    rw [e]
    rfl

theorem mapM_payload {ks : List Component} (h : ∀ k ∈ ks, k.inShape = true) :
    ∃ ps, ks.mapM (·.payload) = .ok ps := by
  induction ks with
  | nil => exact ⟨[], rfl⟩
  | cons k ks ih =>
    obtain ⟨first, rest⟩ := List.forall_mem_cons.mp h
    obtain ⟨p, hp⟩ := Component.payload_of_inShape first
    obtain ⟨ps, hps⟩ := ih rest
    exact ⟨p :: ps, by rw [List.mapM_cons, hp, hps]; rfl⟩

theorem clash?_catalogue : clash? (Catalogue.components.map (·.name)) = none := by
  decide +kernel

theorem inShape_catalogue : ∀ k ∈ Catalogue.components, k.inShape = true := by
  decide +kernel

/-- whatever the fixture data, the standard components are accepted and can be handed to the page -/
theorem build_catalogue (icons : List String) (mockData : Fixture) :
    ∃ caps p, build Catalogue.components icons mockData = .ok caps ∧ caps.payload = .ok p := by
  obtain ⟨ps, written⟩ := mapM_payload inShape_catalogue
  exact ⟨_, _, build_eq_ok_iff.mpr ⟨clash?_catalogue, rfl⟩, payload_eq_ok_iff.mpr ⟨ps, written, rfl⟩⟩

/-- **Fixture data goes to the page as it came.**  Sealed for the snippets it has no open container at any
depth, and opened again it is what it was, with its fields in their order.  So the document for the page
holds the data that a set is built with, whatever its components, and with the standard components there
always is one. -/
theorem fixture_kept (v : Json) :
    (Fixture.ofJson v).freeze.isFrozen = true ∧
    (Fixture.ofJson v).freeze.thaw = Fixture.ofJson v ∧
    (Fixture.ofJson v).freeze.thaw.toJson = v ∧
    (∀ components icons caps p, build components icons (.ofJson v) = .ok caps → caps.payload = .ok p →
      p.field? "mockData" = some v) ∧
    ∃ caps p, build Catalogue.components Catalogue.icons (.ofJson v) = .ok caps ∧ caps.payload = .ok p ∧
      p.field? "mockData" = some v := by
  have opened := Fixture.thaw_freeze v
  have shown : (Fixture.ofJson v).freeze.thaw.toJson = v := by rw [opened, Fixture.toJson_ofJson]
  have held (components icons caps p) (built : build components icons (.ofJson v) = .ok caps)
      (written : caps.payload = .ok p) : p.field? "mockData" = some v := by
    obtain ⟨-, rfl⟩ := build_eq_ok_iff.mp built
    obtain ⟨_, -, rfl⟩ := payload_eq_ok_iff.mp written
    exact congrArg some shown
  obtain ⟨caps, p, built, written⟩ := build_catalogue Catalogue.icons (.ofJson v)
  exact ⟨Fixture.isFrozen_freeze v, opened, shown, held, caps, p, built, written, held _ _ _ _ built written⟩

end Capabilities

end SnippetStudio
