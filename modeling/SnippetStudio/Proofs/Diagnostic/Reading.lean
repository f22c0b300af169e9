import SnippetStudio.Proofs.Diagnostic.Position
import SnippetStudio.Text.Run

/-!
# What is read from a description

`parse_eq_ok_iff`: a description is read as its name, its text without a position at the end
(`Description.kept`), and a position (`Placing`), which is its own, or else the one at the end of the text.
`compileFailure_eq_ok_iff`: the failure that the compiler's description stands for.

The text of a message of one line is what is left without blanks around it and without the name of the
file in front (`dropOrigin_eq_or`); neither leaves blanks behind (`trim_unplaced`).
-/

namespace SnippetStudio.Diagnostic

open Text

variable {d : Description} {s t : List Char}

/-- a text without the position at its end -/
def unplaced (s : List Char) : List Char := ((suffix? s).map Suffix.before).getD s

/-- what is shown of a message -/
def Description.kept (d : Description) : List Char := unplaced d.text

/-- the position that a description is read with -/
inductive Placing (d : Description) : Json → Json → Prop
  | own {l : Location} (h : d.location = some l) : Placing d l.line l.column
  | nowhere (h : d.location = none) (no : suffix? d.text = none) : Placing d .null .null
  | found {x : Suffix} (h : d.location = none) (at_ : suffix? d.text = some x)
      (line : x.line.length ≤ integerLimit) (column : x.column.length ≤ integerLimit) :
      Placing d (.int (numeral x.line)) (.int (numeral x.column))

theorem parse_of_placing {line column : Json} (h : Placing d line column) :
    parse d = .ok ⟨d.name.getD (.str "Error"), String.ofList d.kept, line, column⟩ := by
  unfold parse Description.kept unplaced Description.text
  cases h with
  | @own l h =>
    cases at_ : suffix? (dropOrigin (headline (d.message.getD unknownError).toList)) with
    | none => simp only [h, at_, Option.map_some, Option.map_none, Option.getD_some, Option.getD_none]
    | some x => simp only [h, at_, Option.map_some, Option.getD_some]
  | nowhere h no =>
    rw [Description.text] at no
    simp only [h, no, Option.map_none, Option.getD_none]
  | found h at_ line column =>
    rw [Description.text] at at_
    simp only [h, at_, number_of_le line, number_of_le column, Option.map_none, Option.map_some,
      Option.getD_some, bind, Except.bind]

theorem placing_of_not_overlong (h : ¬d.Overlong) : ∃ line column, Placing d line column := by
  cases own : d.location with
  | some l => exact ⟨_, _, .own own⟩
  | none =>
    cases at_ : suffix? d.text with
    | none => exact ⟨_, _, .nowhere own at_⟩
    | some x =>
      obtain ⟨pre, ends, -⟩ := suffix?_eq_some_iff.mp at_
      refine ⟨_, _, .found own at_ ?_ ?_⟩
      · exact Nat.not_lt.mp fun long => h ⟨own, pre, _, _, ends, .inl long⟩
      · exact Nat.not_lt.mp fun long => h ⟨own, pre, _, _, ends, .inr long⟩

/-- **What a description is read as.** -/
theorem parse_eq_ok_iff {p : Parsed} : parse d = .ok p ↔ ∃ line column, Placing d line column ∧
    p = ⟨d.name.getD (.str "Error"), String.ofList d.kept, line, column⟩ := by
  constructor
  · intro h
    have short : ¬d.Overlong := fun long => by
      obtain ⟨f, unread, -⟩ := parse_of_overlong long
      rw [unread] at h
      cases h
    obtain ⟨line, column, placing⟩ := placing_of_not_overlong short
    rw [parse_of_placing placing] at h
    exact ⟨line, column, placing, (Except.ok.inj h).symm⟩
  · rintro ⟨line, column, placing, rfl⟩
    exact parse_of_placing placing

/-- **What the compiler's failure is**: what is read of the description, moved and shown. -/
theorem compileFailure_eq_ok_iff {error : Json} {lineOffset : Int} {userLines : Option Int} {f : Failure} :
    compileFailure error lineOffset userLines = .ok f ↔
      ∃ d p text, Description.ofJson error = .ok d ∧ parse d = .ok p ∧
        positioned (relocate p lineOffset userLines) = .ok text ∧
        f = { stage := .compile, message := text, line := (relocate p lineOffset userLines).line,
              column := (relocate p lineOffset userLines).column } := by
  simp only [compileFailure, bind, Except.bind]
  cases Description.ofJson error with
  | error e => simp
  | ok d =>
    cases hp : parse d with
    | error e => simp [hp]
    | ok p =>
      cases shown : positioned (relocate p lineOffset userLines) with
      | error e => simp [hp, shown]
      | ok text => simp [hp, shown, pure, Except.pure, eq_comm]

/-! ## One line -/

theorem not_mem_headline (s : List Char) : '\n' ∉ headline s :=
  fun h => not_mem_upTo '\n' _ (mem_of_mem_trim h)

theorem headline_of_line (line : '\n' ∉ s) : headline s = trim s := by
  have whole : upTo '\n' (trim s) = trim s := by
    rw [upTo, List.takeWhile_eq_self_iff]
    intro c hc
    simpa using fun e : c = '\n' => line (e ▸ mem_of_mem_trim hc)
  rw [headline, whole, trim_trim]

/-! ## The name of the file -/

/-- the name of the file is taken off, with the blanks behind it, or there is none -/
theorem dropOrigin_eq_or (s : List Char) :
    dropOrigin s = s ∧ (∀ o ∈ origins, ¬o <+: s) ∨
      ∃ o ∈ origins, ∃ r, s = o ++ r ∧ dropOrigin s = blanks r := by
  unfold dropOrigin
  split
  · next r hr =>
    obtain ⟨o, ho, after⟩ := List.exists_of_findSome?_eq_some hr
    exact .inr ⟨o, ho, r, after?_eq_some.mp after, rfl⟩
  · next none =>
    refine .inl ⟨rfl, fun o ho ⟨r, hr⟩ => ?_⟩
    have after := List.findSome?_eq_none_iff.mp none o ho
    rw [after?_eq_some.mpr hr.symm] at after
    cases after

theorem dropOrigin_suffix (s : List Char) : dropOrigin s <:+ s := by
  rcases dropOrigin_eq_or s with ⟨same, -⟩ | ⟨o, -, r, rfl, left⟩
  · exact ⟨[], by rw [same, List.nil_append]⟩
  · rw [left]
    exact (List.dropWhile_suffix _).trans (List.suffix_append o r)

theorem dropOrigin_eq_self_iff : dropOrigin s = s ↔ ∀ o ∈ origins, ¬o <+: s := by
  have named : ∀ o ∈ origins, 0 < o.length := by decide
  rcases dropOrigin_eq_or s with ⟨same, none⟩ | ⟨o, ho, r, rfl, left⟩
  · exact ⟨fun _ => none, fun _ => same⟩
  · have shorter : (dropOrigin (o ++ r)).length < (o ++ r).length := by
      have rest := (List.dropWhile_suffix isBlank (l := r)).length_le
      have some := named o ho
      rw [left, blanks, List.length_append]
      omega
    constructor
    · intro same
      rw [same] at shorter
      exact absurd shorter (Nat.lt_irrefl _)
    · intro none
      exact absurd (List.prefix_append o r) (none o ho)

/-! ## The position at the end -/

/-- what is left of a text stands at its beginning -/
theorem unplaced_front (s : List Char) : unplaced s <+: s := by
  unfold unplaced
  cases at_ : suffix? s with
  | none => exact List.prefix_rfl
  | some x =>
    obtain ⟨pre, ⟨-, -, tail, -, rfl⟩, before⟩ := suffix?_eq_some_iff.mp at_
    rw [Option.map_some, Option.getD_some, before]
    exact (List.reverse_suffix.mp (by
      rw [trimEnd, List.reverse_reverse]
      exact List.dropWhile_suffix _)).trans (List.prefix_append ..)

theorem unplaced_eq_self_iff : unplaced s = s ↔ ¬∃ pre line column, EndsWith s pre line column := by
  unfold unplaced
  cases at_ : suffix? s with
  | none =>
    refine ⟨fun _ ⟨pre, line, column, ends⟩ => ?_, fun _ => rfl⟩
    rw [suffix?_eq_some_iff (x := ⟨trimEnd pre, line, column⟩) |>.mpr ⟨pre, ends, rfl⟩] at at_
    cases at_
  | some x =>
    obtain ⟨pre, ends, before⟩ := suffix?_eq_some_iff.mp at_
    refine ⟨fun same => ?_, fun none => absurd ⟨pre, _, _, ends⟩ none⟩
    obtain ⟨-, -, tail, -, rfl⟩ := ends
    have shorter : (trimEnd pre).length ≤ pre.length := by
      simpa [trimEnd] using (List.dropWhile_suffix isBlank (l := pre.reverse)).length_le
    have length := congrArg List.length same
    rw [Option.map_some, Option.getD_some, before, List.length_append] at length
    simp only [List.length_cons] at length
    omega

/-! ## No blanks are left -/

theorem trimStart_eq_self_iff : trimStart s = s ↔ Stops isBlank s :=
  ⟨fun h => h ▸ stops_dropWhile, dropWhile_of_stops⟩

theorem trimEnd_eq_self_iff : trimEnd s = s ↔ Stops isBlank s.reverse := by
  rw [← trimStart_eq_self_iff, trimStart, trimEnd, List.reverse_eq_iff]

theorem trim_eq_self_iff : trim s = s ↔ Stops isBlank s ∧ Stops isBlank s.reverse := by
  rw [← trimStart_eq_self_iff, ← trimEnd_eq_self_iff, trim]
  constructor
  · intro h
    have start : trimStart s <:+ s := List.dropWhile_suffix isBlank
    have shorter : (trimEnd (trimStart s)).length ≤ (trimStart s).length := by
      simpa [trimEnd] using (List.dropWhile_suffix isBlank (l := (trimStart s).reverse)).length_le
    have same : trimStart s = s := start.eq_of_length (Nat.le_antisymm start.length_le (by rwa [h] at shorter))
    exact ⟨same, by rwa [same] at h⟩
  · rintro ⟨start, stop⟩
    rw [start, stop]

theorem stops_of_front {p : Char → Bool} (h : Stops p s) (front : t <+: s) : Stops p t := by
  cases t with
  | nil => exact stops_nil
  | cons c t =>
    obtain ⟨r, rfl⟩ := front
    exact stops_cons.mpr (stops_cons.mp h)

/-- what is left of a text without blanks around it has none either -/
theorem trim_unplaced (h : trim s = s) :
    trim (unplaced (dropOrigin s)) = unplaced (dropOrigin s) := by
  obtain ⟨start, stop⟩ := trim_eq_self_iff.mp h
  have front : Stops isBlank (dropOrigin s) := by
    rcases dropOrigin_eq_or s with ⟨same, -⟩ | ⟨o, -, r, -, left⟩
    · rwa [same]
    · rw [left]
      exact stops_dropWhile
  have back : Stops isBlank (dropOrigin s).reverse :=
    stops_of_front stop (List.reverse_prefix.mpr (dropOrigin_suffix s))
  refine trim_eq_self_iff.mpr ⟨stops_of_front front (unplaced_front _), ?_⟩
  unfold unplaced
  cases at_ : suffix? (dropOrigin s) with
  | none => exact back
  | some x =>
    obtain ⟨pre, -, before⟩ := suffix?_eq_some_iff.mp at_
    rw [Option.map_some, Option.getD_some, before, trimEnd, List.reverse_reverse]
    exact stops_dropWhile

end SnippetStudio.Diagnostic
