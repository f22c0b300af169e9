import Mathlib.Data.List.TakeWhile
import SnippetStudio.Diagnostic.Parsed

/-!
# Positions that cannot be read

A message may end with a position, line and column in parentheses.  `suffix?_eq_some_iff` says where
`suffix?` finds one.  It cannot be read when one of the two numbers has too many digits, and it is
read only when the description gives no position of its own that would win over it
(`parse_of_overlong`, `parse_of_not_overlong`).

* `Shaped error`    what the page gives as a description of an error: nothing, or name, message and
                    position;
* `Overlong error`  a description whose position cannot be read;
* `runtimeMessage_of_overlong`, `overlong_of_runtimeMessage`  of the shaped descriptions just the
                    overlong ones have no text.
-/

namespace SnippetStudio.Diagnostic

open Text

/-- where the run of characters at the beginning of a text stops -/
theorem run_iff {p : Char → Bool} {s w r : List Char} {c : Char} :
    s.takeWhile p = w ∧ s.dropWhile p = c :: r ↔
      s = w ++ c :: r ∧ (∀ a ∈ w, p a = true) ∧ p c = false := by
  constructor
  · rintro ⟨rfl, hd⟩
    refine ⟨?_, fun a ha => List.mem_takeWhile_imp ha, ?_⟩
    · rw [← hd, List.takeWhile_append_dropWhile]
    · have hc := List.head_dropWhile_not (p := p) (l := s) (by rw [hd]; exact List.cons_ne_nil c r)
      simpa only [hd, List.head_cons] using hc
  · rintro ⟨rfl, hw, hc⟩
    rw [List.takeWhile_append_of_pos hw, List.dropWhile_append_of_pos hw, List.takeWhile_cons,
      List.dropWhile_cons, hc]
    simp

/-- the digits of a number, at least one -/
def IsNumeral (ds : List Char) : Prop := ds ≠ [] ∧ ∀ c ∈ ds, isDecimal c = true

/-- the text ends with a position, but for blanks -/
def EndsWith (s pre line column : List Char) : Prop :=
  IsNumeral line ∧ IsNumeral column ∧ ∃ tail : List Char, (∀ c ∈ tail, isBlank c = true) ∧
    s = pre ++ '(' :: (line ++ ':' :: (column ++ ')' :: tail))

/-- **A position is found where the text ends with one.** -/
theorem suffix?_eq_some_iff {s : List Char} {x : Suffix} :
    suffix? s = some x ↔ ∃ pre, EndsWith s pre x.line x.column ∧ x.before = trimEnd pre := by
  constructor
  · intro h
    unfold suffix? at h
    split at h
    · next r hr =>
      split at h
      · next c cs r' hc hr' =>
        split at h
        · next l ls r'' hl hr'' =>
          cases h
          obtain ⟨tail, htail⟩ : ∃ tail, s.reverse.takeWhile isBlank = tail := ⟨_, rfl⟩
          obtain ⟨hs, blank, -⟩ := run_iff.mp ⟨htail, hr⟩
          obtain ⟨hr, column, -⟩ := run_iff.mp ⟨hc, hr'⟩
          obtain ⟨hr', line, -⟩ := run_iff.mp ⟨hl, hr''⟩
          refine ⟨r''.reverse, ⟨⟨by simp, ?_⟩, ⟨by simp, ?_⟩, tail.reverse, ?_, ?_⟩, ?_⟩
          · intro a ha
            exact line a (List.mem_reverse.mp ha)
          · intro a ha
            exact column a (List.mem_reverse.mp ha)
          · intro a ha
            exact blank a (List.mem_reverse.mp ha)
          · rw [← List.reverse_reverse s, hs, hr, hr']
            simp
          · simp [trimEnd, blanks]
        · cases h
      · cases h
    · cases h
  · rintro ⟨pre, ⟨⟨hl, line⟩, ⟨hc, column⟩, tail, blank, rfl⟩, before⟩
    obtain ⟨text, l, c⟩ := x
    obtain ⟨x, xs, hx⟩ := List.exists_cons_of_ne_nil (mt List.reverse_eq_nil_iff.mp hc)
    obtain ⟨y, ys, hy⟩ := List.exists_cons_of_ne_nil (mt List.reverse_eq_nil_iff.mp hl)
    have hc' : c = (x :: xs).reverse := by rw [← hx, List.reverse_reverse]
    have hl' : l = (y :: ys).reverse := by rw [← hy, List.reverse_reverse]
    have ht : text = (blanks pre.reverse).reverse := before
    subst hc' hl' ht
    obtain ⟨-, r1⟩ := (run_iff (p := isBlank) (w := tail.reverse) (c := ')')
      (s := (pre ++ '(' ::
        ((y :: ys).reverse ++ ':' :: ((x :: xs).reverse ++ ')' :: tail))).reverse)
      (r := x :: xs ++ ':' :: (y :: ys ++ '(' :: pre.reverse))).mpr
        ⟨by simp, fun a ha => blank a (List.mem_reverse.mp ha), by decide⟩
    obtain ⟨w2, r2⟩ := (run_iff (p := isDecimal) (w := x :: xs) (c := ':')
      (r := y :: ys ++ '(' :: pre.reverse)).mpr
        ⟨rfl, fun a ha => column a (List.mem_reverse.mpr ha), by decide⟩
    obtain ⟨w3, r3⟩ := (run_iff (p := isDecimal) (w := y :: ys) (c := '(') (r := pre.reverse)).mpr
      ⟨rfl, fun a ha => line a (List.mem_reverse.mpr ha), by decide⟩
    unfold suffix?
    rw [blanks, r1]
    simp only [w2, r2, w3, r3]

/-! ## numbers with too many digits -/

theorem number_of_le {ds : List Char} (h : ds.length ≤ integerLimit) : number ds = .ok (numeral ds) :=
  if_neg (Nat.not_lt.mpr h)

theorem number_of_lt {ds : List Char} (h : integerLimit < ds.length) :
    ∃ f, number ds = .error f ∧ f.kind = .value :=
  ⟨_, if_pos h, rfl⟩

/-- what is left of a message: its first line, without the name of the file -/
def Description.text (d : Description) : List Char :=
  dropOrigin (headline (d.message.getD unknownError).toList)

/-- no position of its own, and one at the end of the message that has too many digits -/
def Description.Overlong (d : Description) : Prop :=
  d.location = none ∧ ∃ pre line column, EndsWith d.text pre line column ∧
    (integerLimit < line.length ∨ integerLimit < column.length)

theorem parse_of_overlong {d : Description} (h : d.Overlong) :
    ∃ f, parse d = .error f ∧ f.kind = .value := by
  obtain ⟨own, pre, line, column, ends, long⟩ := h
  have hs : suffix? (dropOrigin (headline (d.message.getD unknownError).toList))
      = some ⟨trimEnd pre, line, column⟩ :=
    suffix?_eq_some_iff.mpr ⟨pre, ends, rfl⟩
  simp only [parse, own, hs, Option.map_none]
  by_cases hl : integerLimit < line.length
  · obtain ⟨f, hf, kind⟩ := number_of_lt hl
    rw [hf]
    exact ⟨f, rfl, kind⟩
  · obtain ⟨f, hf, kind⟩ := number_of_lt (long.resolve_left hl)
    rw [number_of_le (Nat.not_lt.mp hl), hf]
    exact ⟨f, rfl, kind⟩

theorem parse_of_not_overlong {d : Description} (h : ¬d.Overlong) : ∃ p, parse d = .ok p := by
  cases own : d.location with
  | some l =>
    simp only [parse, own, Option.map_some]
    split <;> exact ⟨_, rfl⟩
  | none =>
    simp only [parse, own, Option.map_none]
    split
    · exact ⟨_, rfl⟩
    · next x hs =>
      obtain ⟨pre, ends, -⟩ := suffix?_eq_some_iff.mp hs
      have short : x.line.length ≤ integerLimit ∧ x.column.length ≤ integerLimit := by
        constructor
        · exact Nat.not_lt.mp fun long => h ⟨own, pre, _, _, ends, .inl long⟩
        · exact Nat.not_lt.mp fun long => h ⟨own, pre, _, _, ends, .inr long⟩
      rw [number_of_le short.1, number_of_le short.2]
      exact ⟨_, rfl⟩

/-! ## what the page describes -/

/-- a number, whole or not -/
def isNumber : Json → Bool
  | .int _ | .real _ => true
  | _ => false

/-- the page gives no position, or line and column -/
inductive Placed : Json → Prop
  | nowhere : Placed .null
  | at_ {fields : List (String × Json)} {line column : Json}
      (hl : Json.get? "line" fields = some line)
      (hc : Json.get? "column" fields = some column) (line : isNumber line = true)
      (column : isNumber column = true) : Placed (.obj fields)

/-- what the page gives as a description of an error -/
inductive Shaped : Json → Prop
  | nothing : Shaped .null
  | record {fields : List (String × Json)} {name message : String} {loc : Json}
      (hn : Json.get? "name" fields = some (.str name))
      (hm : Json.get? "message" fields = some (.str message))
      (hl : Json.get? "loc" fields = some loc) (placed : Placed loc) : Shaped (.obj fields)

/-- a description with a message that ends with too many digits, and no position that would win over
them -/
def Overlong (error : Json) : Prop :=
  ∃ d : Description, Description.ofJson error = .ok d ∧ d.Overlong

theorem Shaped.description {error : Json} (h : Shaped error) :
    ∃ d, Description.ofJson error = .ok d := by
  cases h with
  | nothing => exact ⟨_, rfl⟩
  | record => exact ⟨_, rfl⟩

theorem runtimeMessage_of_overlong {error : Json} (h : Overlong error) :
    ∃ f, runtimeMessage error = .error f ∧ f.kind = .value := by
  obtain ⟨d, hd, long⟩ := h
  obtain ⟨f, hf, kind⟩ := parse_of_overlong long
  refine ⟨f, ?_, kind⟩
  simp only [runtimeMessage, hd, hf, bind, Except.bind]

/-- **Of the descriptions that the page gives, only the overlong ones have no text.** -/
theorem overlong_of_runtimeMessage {error : Json} {f : Fault} (shaped : Shaped error)
    (h : runtimeMessage error = .error f) : Overlong error := by
  obtain ⟨d, hd⟩ := shaped.description
  by_cases long : d.Overlong
  · exact ⟨d, hd, long⟩
  · obtain ⟨p, hp⟩ := parse_of_not_overlong long
    simp only [runtimeMessage, hd, hp, bind, Except.bind] at h
    cases h

/-! ## such a description -/

theorem headline_of_ends {c e : Char} {s : List Char} (hc : isBlank c = false)
    (he : isBlank e = false)
    (line : '\n' ∉ c :: (s ++ [e])) : headline (c :: (s ++ [e])) = c :: (s ++ [e]) := by
  have up : upTo '\n' (c :: (s ++ [e])) = c :: (s ++ [e]) := by
    rw [upTo, List.takeWhile_eq_self_iff]
    intro a ha
    simpa using fun h : a = '\n' => line (h ▸ ha)
  rw [headline, trim_of_ends hc he, up, trim_of_ends hc he]

theorem dropOrigin_boom (s : List Char) : dropOrigin ('b' :: s) = 'b' :: s := by
  simp [dropOrigin, origins, after?]

/-- an error of user code: `boom`, and a position whose line has `n` digits -/
def boom (n : Nat) : Json :=
  .obj [("name", .str "Error"),
    ("message", .str (String.ofList ("boom (".toList ++ List.replicate n '1' ++ ":1)".toList))),
    ("loc", .null)]

theorem shaped_boom (n : Nat) : Shaped (boom n) := .record rfl rfl rfl .nowhere

theorem overlong_boom {n : Nat} (h : integerLimit < n) : Overlong (boom n) := by
  let mid := "oom (".toList ++ List.replicate n '1' ++ ":1".toList
  have text : Description.text ⟨some (.str "Error"),
      some (String.ofList ("boom (".toList ++ List.replicate n '1' ++ ":1)".toList)), none⟩
      = 'b' :: (mid ++ [')']) := by
    have line : '\n' ∉ 'b' :: (mid ++ [')']) := by
      simp [mid]
    have same :
        "boom (".toList ++ List.replicate n '1' ++ ":1)".toList = 'b' :: (mid ++ [')']) := by
      simp [mid]
    rw [Description.text, Option.getD_some, String.toList_ofList, same,
      headline_of_ends rfl rfl line, dropOrigin_boom]
  have ends : EndsWith ('b' :: (mid ++ [')'])) "boom ".toList (List.replicate n '1') ['1'] := by
    refine ⟨⟨?_, fun c hc => ?_⟩, ⟨List.cons_ne_nil _ _, fun c hc => ?_⟩, [], fun c hc => ?_, ?_⟩
    · simpa using Nat.ne_of_gt (Nat.zero_lt_of_lt h)
    · rw [List.eq_of_mem_replicate hc]
      rfl
    · rw [List.mem_singleton.mp hc]
      rfl
    · cases hc
    · simp [mid]
  refine ⟨_, rfl, rfl, _, _, _, text ▸ ends, .inl ?_⟩
  rw [List.length_replicate]
  exact h

end SnippetStudio.Diagnostic
