import SnippetStudio.Diagnostic.Record
import SnippetStudio.Preview.Compile
import SnippetStudio.Proofs.Diagnostic.Reading

/-!
# Lines of the wrapped snippet

The wrapped text is the opening lines, the snippet's own lines and the closing lines, one after the
other (`lineTexts_wrap`), so a line number of the wrapped text is one of three kinds, and `landing`
tells them apart (`landing_before`, `landing_within`, `landing_behind`).

* `line_coordinates`  **a position of the wrapped text is moved to the same line of the snippet**,
                      or to none in front of it, or to its last one behind it; and so every error
                      of the compiler is at a line of the snippet or at none.
-/

namespace SnippetStudio

open Text

/-! ## the lines of the text -/

/-- no text of a list has a line feed -/
def OneLiners (names : List String) : Prop := ∀ name ∈ names, '\n' ∉ name.toList

theorem lineTexts_intercalate {ls : List String} (h : ls ≠ []) :
    lineTexts ("\n".intercalate ls) = ls.flatMap lineTexts := by
  have newline : "\n".toList = ['\n'] := rfl
  have some : ls.map String.toList ≠ [] := by simpa using h
  rw [lineTexts, String.toList_intercalate, newline, ← glue_eq_intercalate, lines, cut_glue some,
    List.flatMap_map, List.map_flatMap]
  rfl

theorem flatMap_lineTexts {ls : List String} (h : OneLiners ls) : ls.flatMap lineTexts = ls := by
  induction ls with
  | nil => rfl
  | cons l ls ih =>
    have own : lineTexts l = [l] := by
      rw [lineTexts, lines, cut_of_not_mem (h l (List.mem_cons_self ..)), List.map_singleton,
        String.ofList_toList]
    rw [List.flatMap_cons, own, ih fun k hk => h k (List.mem_cons_of_mem _ hk),
      List.singleton_append]

theorem length_lineTexts (s : String) : (lineTexts s).length = (lines s.toList).length :=
  List.length_map ..

theorem not_mem_intercalate {names : List String} (h : OneLiners names) :
    '\n' ∉ (", ".intercalate names).toList := by
  intro feed
  rw [String.toList_intercalate, ← glue_eq_intercalate] at feed
  rcases mem_glue feed with comma | ⟨_, mem, inside⟩
  · revert comma
    decide
  · obtain ⟨name, name_mem, rfl⟩ := List.mem_map.mp mem
    exact h name name_mem inside

namespace Wrapped

theorem not_mem_destructuring {names : List String} (h : OneLiners names) {object : String}
    (ho : '\n' ∉ object.toList) : '\n' ∉ (destructuring names object).toList := by
  have open_ : '\n' ∉ "  const \x7b ".toList := by decide
  have close : '\n' ∉ " \x7d = ".toList := by decide
  have stop : '\n' ∉ ";".toList := by decide
  simp only [destructuring, String.toList_append, List.mem_append]
  rintro ((((hl | hl) | hl) | hl) | hl)
  · exact open_ hl
  · exact not_mem_intercalate h hl
  · exact close hl
  · exact ho hl
  · exact stop hl

theorem oneLiners_opening {components hooks : List String} (hc : OneLiners components)
    (hh : OneLiners hooks) : OneLiners (opening components hooks) := by
  have own : OneLiners Scope.extras := by
    show ∀ name ∈ Scope.extras, '\n' ∉ name.toList
    decide
  have extras : OneLiners (Scope.extras ++ hooks) := List.forall_mem_append.mpr ⟨own, hh⟩
  intro l hl
  simp only [opening, List.mem_cons, List.not_mem_nil, or_false] at hl
  rcases hl with rfl | rfl | rfl | rfl
  · decide
  · exact not_mem_destructuring hc (by decide)
  · exact not_mem_destructuring extras (by decide)
  · decide

theorem oneLiners_closing : OneLiners closing := by
  show ∀ l ∈ closing, '\n' ∉ l.toList
  decide

end Wrapped

/-- **The wrapped text is the opening, the snippet's own lines, and the closing.** -/
theorem lineTexts_wrap {components hooks : List String} (source : String)
    (hc : OneLiners components) (hh : OneLiners hooks) :
    lineTexts (wrap source components hooks).text =
      Wrapped.opening components hooks ++ lineTexts source ++ Wrapped.closing := by
  rw [wrap, lineTexts_intercalate (by simp [Wrapped.opening]), List.flatMap_append,
    List.flatMap_append, flatMap_lineTexts (Wrapped.oneLiners_opening hc hh),
    flatMap_lineTexts Wrapped.oneLiners_closing, List.flatMap_singleton]

namespace Diagnostic

/-! ## where a line lands -/

variable {L l n lineOffset : Int}

theorem landing_before (h : L ≤ lineOffset) (userLines : Option Int) :
    landing L lineOffset userLines = .outside :=
  if_pos (by omega)

theorem landing_within (first : 1 ≤ l) (last : l ≤ n) :
    landing (lineOffset + l) lineOffset (some n) = .inside l := by
  have own : lineOffset + l - lineOffset = l := by omega
  rw [landing, own]
  exact (if_neg (by omega)).trans (if_neg (by omega))

theorem landing_behind (some_ : 1 ≤ n) (h : lineOffset + n < L) :
    landing L lineOffset (some n) = .behind n := by
  rw [landing]
  exact (if_neg (by omega)).trans (if_pos (by omega))

theorem relocate_of_int {p : Parsed} (h : p.line = .int L) (userLines : Option Int) :
    relocate p lineOffset userLines = match landing L lineOffset userLines with
      | .outside => { p with line := .null, column := .null }
      | .inside own => { p with line := .int own }
      | .behind last => { p with line := .int last, column := .null } := by
  rw [relocate, h]
  rfl

/-- a record moves as the position in it does -/
theorem relocateFields_of_int {fields : List (String × Json)} {p : Parsed} (h : p.line = .int L)
    (hl : Json.get? "line" fields = some p.line) (hc : valueOf "column" fields = p.column)
    (userLines : Option Int) :
    ∃ moved, relocateFields fields lineOffset userLines = .ok moved ∧
      valueOf "line" moved = (relocate p lineOffset userLines).line ∧
      valueOf "column" moved = (relocate p lineOffset userLines).column ∧
      ∀ key, key ≠ "line" → key ≠ "column" → Json.get? key moved = Json.get? key fields := by
  have line : valueOf "line" fields = .int L := by rw [valueOf, hl, h, Option.getD_some]
  have apart : "column" ≠ "line" := by decide
  have self : ∀ (key : String) (v : Json) (fs : List (String × Json)),
      valueOf key (Json.put key v fs) = v := fun key v fs => by
    rw [valueOf, Json.get?_put_self, Option.getD_some]
  have kept : ∀ v : Json, valueOf "column" (Json.put "line" v fields) = p.column := fun v => by
    rw [valueOf, Json.get?_put_of_ne apart, ← hc, valueOf]
  have written : ∀ v : Json, valueOf "line" (Json.put "column" .null (Json.put "line" v fields)) = v
      ∧ ∀ key, key ≠ "line" → key ≠ "column" →
        Json.get? key (Json.put "column" .null (Json.put "line" v fields)) = Json.get? key fields :=
    fun v => by
      refine ⟨?_, fun key hl hc => ?_⟩
      · rw [valueOf, Json.get?_put_of_ne apart.symm]
        exact self "line" v fields
      · rw [Json.get?_put_of_ne hc, Json.get?_put_of_ne hl]
  simp only [relocateFields, line, landedLine, Json.Tree.integer?, relocate_of_int h]
  cases landing L lineOffset userLines with
  | outside => exact ⟨_, rfl, (written _).1, self .., (written _).2⟩
  | inside own =>
    exact ⟨_, rfl, self .., kept _, fun key hl _ => Json.get?_put_of_ne hl ..⟩
  | behind last => exact ⟨_, rfl, (written _).1, self .., (written _).2⟩

/-! ## the lines that errors have -/

/-- no line, or a whole number -/
def IsLine (line : Json) : Prop := line = .null ∨ ∃ k, line.integer? = some k

/-- no line, or one of the snippet's -/
def LineOf (line : Json) (lines : Nat) : Prop :=
  line = .null ∨ ∃ l : Nat, line = .int l ∧ 1 ≤ l ∧ l ≤ lines

theorem isLine_location {v : Json} {own : Location} (h : Location.ofJson? v = some own) :
    IsLine own.line := by
  obtain ⟨line, hl, rfl⟩ := Option.map_eq_some_iff.mp h
  obtain ⟨-, whole⟩ := Option.filter_eq_some_iff.mp hl
  exact .inr (Option.isSome_iff_exists.mp whole)

theorem isLine_parse {error : Json} {d : Description} {p : Parsed}
    (hd : Description.ofJson error = .ok d) (hp : parse d = .ok p) : IsLine p.line := by
  have own : ∀ own, d.location = some own → IsLine own.line := by
    intro own hl
    unfold Description.ofJson at hd
    split at hd
    · cases hd
      obtain ⟨v, -, hv⟩ := Option.bind_eq_some_iff.mp hl
      exact isLine_location hv
    · split at hd
      · cases hd
      · cases hd
        cases hl
  obtain ⟨line, column, placing, rfl⟩ := parse_eq_ok_iff.mp hp
  cases placing with
  | own hl => exact own _ hl
  | nowhere => exact .inl rfl
  | found => exact .inr ⟨_, rfl⟩

theorem lineOf_relocate {p : Parsed} (h : IsLine p.line) {lines : Nat} (some_ : 1 ≤ lines) :
    LineOf (relocate p lineOffset (some lines)).line lines := by
  rcases h with h | ⟨k, hk⟩
  · rw [relocate, h]
    exact .inl h
  · simp only [relocate, hk]
    by_cases before : k ≤ lineOffset
    · rw [landing_before before]
      exact .inl rfl
    · by_cases within : k ≤ lineOffset + lines
      · obtain ⟨l, rfl⟩ : ∃ l : Nat, k = lineOffset + l := ⟨(k - lineOffset).toNat, by omega⟩
        rw [landing_within (by omega) (by omega)]
        exact .inr ⟨l, rfl, by omega, by omega⟩
      · rw [landing_behind (by omega) (by omega)]
        exact .inr ⟨lines, rfl, some_, Nat.le_refl _⟩

theorem lineOf_compileFailure {error : Json} {lines : Nat} {f : Failure} (some_ : 1 ≤ lines)
    (h : compileFailure error lineOffset (some lines) = .ok f) : LineOf f.line lines := by
  obtain ⟨d, p, text, hd, hp, -, rfl⟩ := compileFailure_eq_ok_iff.mp h
  exact lineOf_relocate (isLine_parse hd hp) some_

end Diagnostic

theorem one_le_userLines (source : String) (components hooks : List String) :
    1 ≤ (wrap source components hooks).userLines :=
  Nat.le_add_left ..

namespace Preview

open Diagnostic

/-- an error of the compiler is at a line of the snippet, or at none -/
theorem lineOf_compiled {s : Setup} {source : String} {o : Outcome} {f : Failure}
    (h : compiled (s.wrap source) source o = .error (.failure f)) :
    LineOf f.line (lineTexts source).length := by
  cases o with
  | error e =>
    have hf : Trouble.ofFault e = .failure f := Except.error.inj h
    simp only [Trouble.ofFault] at hf
    split at hf
    · cases hf
    · cases hf
      exact .inl rfl
    · cases hf
  | ok reply =>
    simp only [compiled] at h
    split at h
    · split at h <;> cases h
    · split at h
      · next g hg =>
        cases h
        rw [length_lineTexts, ← wrap_userLines source s.capabilities.names s.capabilities.hooks]
        exact lineOf_compileFailure (one_le_userLines ..) hg
      · cases h

end Preview

open Diagnostic Preview

/-- **A position of the wrapped text is moved to its own line of the snippet.**  A line of the
opening has none there, and a line of the closing becomes the snippet's last one, without a column;
a record moves as the position in it does.  So whatever the compiler fails with is at a line of the
snippet, or at none. -/
theorem line_coordinates {components hooks : List String} (source : String)
    (hc : OneLiners components) (hh : OneLiners hooks) :
    let w := wrap source components hooks
    (lineTexts w.text).length = w.lineOffset + w.userLines + 3 ∧
    (∀ (L : Nat) (p : Parsed), p.line = .int L →
      (L ≤ w.lineOffset →
        relocate p w.lineOffset (some w.userLines) = { p with line := .null, column := .null }) ∧
      (∀ l, L = w.lineOffset + l → 1 ≤ l → l ≤ w.userLines →
        relocate p w.lineOffset (some w.userLines) = { p with line := .int l } ∧
          ∃ text, (lineTexts source)[l - 1]? = some text ∧
            (lineTexts w.text)[L - 1]? = some text) ∧
      (w.lineOffset + w.userLines < L →
        relocate p w.lineOffset (some w.userLines) =
          { p with line := .int (lineTexts source).length, column := .null }) ∧
      ∀ fields, Json.get? "line" fields = some p.line → valueOf "column" fields = p.column →
        ∃ moved, relocateFields fields w.lineOffset (some w.userLines) = .ok moved ∧
          valueOf "line" moved = (relocate p w.lineOffset (some w.userLines)).line ∧
          valueOf "column" moved = (relocate p w.lineOffset (some w.userLines)).column ∧
          ∀ key, key ≠ "line" → key ≠ "column" →
            Json.get? key moved = Json.get? key fields) ∧
    ∀ (s : Setup) (o : Outcome) (f : Failure),
      compiled (s.wrap source) source o = .error (.failure f) →
        LineOf f.line (lineTexts source).length := by
  intro w
  have user : w.userLines = (lineTexts source).length := by
    rw [length_lineTexts]
    exact wrap_userLines source components hooks
  have some_ : 1 ≤ w.userLines := one_le_userLines source components hooks
  have whole := lineTexts_wrap source hc hh
  refine ⟨?_, fun L p hL => ⟨fun before => ?_, fun l hl first last => ⟨?_, ?_⟩, fun behind => ?_,
    fun fields hf column => relocateFields_of_int hL hf column _⟩, fun s o f => lineOf_compiled⟩
  · rw [whole, List.length_append, List.length_append, user]
    rfl
  · rw [relocate_of_int hL, landing_before (by omega)]
  · rw [relocate_of_int hL, hl, Int.natCast_add, landing_within (by omega) (by omega)]
  · have place : L - 1 = (Wrapped.opening components hooks).length + (l - 1) := by
      show L - 1 = w.lineOffset + (l - 1)
      omega
    have inside : l - 1 < (lineTexts source).length := by omega
    refine ⟨(lineTexts source)[l - 1], List.getElem?_eq_getElem inside, ?_⟩
    rw [whole, List.append_assoc, place, List.getElem?_append_right (Nat.le_add_right ..),
      Nat.add_sub_cancel_left, List.getElem?_append_left inside, List.getElem?_eq_getElem inside]
  · rw [relocate_of_int hL, landing_behind (by omega) (by omega), user]

/-- the blank line of a snippet of three lines, and a line behind the snippet -/
theorem line_coordinates_blank :
    OneLiners ["Card"] ∧ OneLiners ["useState"] ∧
    (lineTexts (wrap "a\n\nb" ["Card"] ["useState"]).text).length = 10 ∧
    relocate { name := .null, message := "", line := .int 6, column := .int 9 } 4 (some 3) =
      { name := .null, message := "", line := .int 2, column := .int 9 } ∧
    (∃ text, (lineTexts "a\n\nb")[1]? = some text ∧
      (lineTexts (wrap "a\n\nb" ["Card"] ["useState"]).text)[5]? = some text) ∧
    relocate { name := .null, message := "", line := .int 8, column := .int 2 } 4 (some 3) =
      { name := .null, message := "", line := .int 3, column := .null } := by
  have hc : OneLiners ["Card"] := by
    show ∀ name ∈ ["Card"], '\n' ∉ name.toList
    decide
  have hh : OneLiners ["useState"] := by
    show ∀ name ∈ ["useState"], '\n' ∉ name.toList
    decide
  obtain ⟨count, lines, -⟩ := line_coordinates "a\n\nb" hc hh
  obtain ⟨-, within, -⟩ :=
    lines 6 { name := .null, message := "", line := .int 6, column := .int 9 } rfl
  obtain ⟨-, -, behind, -⟩ :=
    lines 8 { name := .null, message := "", line := .int 8, column := .int 2 } rfl
  obtain ⟨moved, same⟩ := within 2 rfl (by decide) (by decide)
  exact ⟨hc, hh, count, moved, same, behind (by decide)⟩

end SnippetStudio
