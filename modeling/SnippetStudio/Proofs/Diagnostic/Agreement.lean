import Mathlib.Data.Nat.Digits.Defs
import SnippetStudio.Proofs.Diagnostic.Reading
import SnippetStudio.Proofs.Json.Numbers
import SnippetStudio.Proofs.Snippet.Coordinates

/-!
# Text and position of a failure

The position of a compiler's failure is shown twice, as fields and at the end of the text.  It comes from one
of two places, is moved to the snippet's lines, and is then written behind a text of any content.

* `written_iff`           a number is written when it has few enough digits;
* `endsWith_text`         the first line of a message that ends with a position does so still;
* `Parsed.Sound`          what holds of all that is read, and is kept by `relocate`;
* `compileFailure_agrees` **text and fields of a failure agree**.
-/

namespace SnippetStudio.Diagnostic

open Text

/-! ## Numbers, written and read -/

/-- the number has few enough digits -/
def Writable (n : Int) : Prop := (toString n.natAbs).length ≤ integerLimit

theorem writable_natCast {n : Nat} : Writable n ↔ (Nat.toDigits 10 n).length ≤ integerLimit := by
  rw [Writable, Int.natAbs_natCast, ← String.length_toList]
  show (Nat.repr n).toList.length ≤ integerLimit ↔ _
  rw [Nat.toList_repr]

theorem isDecimal_of_isDigit {c : Char} (h : c.isDigit = true) : isDecimal c = true := by
  have ascii : c.toNat < 0x80 := by
    simp only [Char.isDigit, Bool.and_eq_true, decide_eq_true_eq] at h
    have := UInt32.le_iff_toNat_le.mp h.2
    exact Nat.lt_of_le_of_lt this (by decide)
  rw [isDecimal, digit?, if_pos ascii, if_pos h]
  rfl

theorem isNumeral_toDigits (n : Nat) : IsNumeral (Nat.toDigits 10 n) :=
  ⟨(Json.isDigits_toDigits n).1, fun c hc => isDecimal_of_isDigit ((Json.isDigits_toDigits n).2 c hc)⟩

theorem length_toDigits_le_iff {n k : Nat} (pos : 0 < k) :
    (Nat.toDigits 10 n).length ≤ k ↔ n < leastBeyond k := by
  constructor
  · intro short
    calc n = numeral (Nat.toDigits 10 n) := (Json.numeral_toDigits n).symm
      _ < leastBeyond k := numeral_lt_of_le short
  · exact Nat.toDigits_length 10 n k pos

theorem writable_iff_lt {n : Nat} : Writable n ↔ n < leastBeyond integerLimit := by
  rw [writable_natCast, length_toDigits_le_iff (by decide)]

theorem written_iff {n : Int} {t : String} : written n = .ok t ↔ Writable n ∧ t = toString n := by
  rw [written_eq_ok_iff, isShort_iff, ← writable_iff_lt, Writable, Writable, Int.natAbs_natCast]

theorem Writable.of_le {m n : Nat} (h : m ≤ n) (hn : Writable n) : Writable m :=
  writable_iff_lt.mpr (h.trans_lt (writable_iff_lt.mp hn))

theorem writable_numeral {ds : List Char} (short : ds.length ≤ integerLimit) : Writable (numeral ds) :=
  writable_iff_lt.mpr (numeral_lt_of_le short)

/-! ## A text that ends with a position -/

variable {s pre line column : List Char}

theorem dropWhile_append_stops {p : Char → Bool} (front : List Char) {back : List Char} (stops : Stops p back) :
    ∃ front', (front ++ back).dropWhile p = front' ++ back := by
  rw [List.dropWhile_append]
  split
  · exact ⟨[], dropWhile_of_stops stops⟩
  · exact ⟨_, rfl⟩

theorem endsWith_trimStart (h : EndsWith s pre line column) :
    ∃ pre', EndsWith (trimStart s) pre' line column := by
  obtain ⟨hl, hc, tail, blank, rfl⟩ := h
  have stops : Stops isBlank ('(' :: (line ++ ':' :: (column ++ ')' :: tail))) := stops_cons.mpr (by decide)
  obtain ⟨pre', kept⟩ := dropWhile_append_stops pre stops
  exact ⟨pre', hl, hc, tail, blank, kept⟩

theorem endsWith_trimEnd (h : EndsWith s pre line column) : EndsWith (trimEnd s) pre line column := by
  obtain ⟨hl, hc, tail, blank, rfl⟩ := h
  refine ⟨hl, hc, [], nofun, ?_⟩
  have kept : (tail.reverse ++ (pre ++ '(' :: (line ++ ':' :: (column ++ [')']))).reverse).dropWhile isBlank =
      (pre ++ '(' :: (line ++ ':' :: (column ++ [')']))).reverse := by
    refine dropWhile_run (fun c hc => blank c (List.mem_reverse.mp hc)) ?_
    simp only [List.reverse_append, List.reverse_cons, List.append_assoc, List.nil_append,
       List.cons_append, List.reverse_nil]
    exact stops_cons.mpr (by decide)
  rw [trimEnd, ← List.reverse_inj, List.reverse_reverse, ← kept]
  simp

theorem endsWith_dropOrigin (h : EndsWith s pre line column) :
    ∃ pre', EndsWith (dropOrigin s) pre' line column := by
  have closed : ∀ o ∈ origins, '(' ∉ o := by decide
  rcases dropOrigin_eq_or s with ⟨same, -⟩ | ⟨o, ho, r, whole, left⟩
  · rw [same]
    exact ⟨pre, h⟩
  · obtain ⟨hl, hc, tail, blank, placed⟩ := h
    obtain ⟨mid, rest⟩ : ∃ mid, r = mid ++ '(' :: (line ++ ':' :: (column ++ ')' :: tail)) := by
      rcases List.append_eq_append_iff.mp (whole.symm.trans placed) with ⟨mid, -, rest⟩ | ⟨cut, front, rest⟩
      · exact ⟨mid, rest⟩
      · cases cut with
        | nil => exact ⟨[], rest.symm⟩
        | cons c cut =>
          obtain ⟨rfl, -⟩ := List.cons.inj rest
          exact absurd (front ▸ List.mem_append_right _ List.mem_cons_self) (closed o ho)
    have stops : Stops isBlank ('(' :: (line ++ ':' :: (column ++ ')' :: tail))) := stops_cons.mpr (by decide)
    obtain ⟨pre', kept⟩ := dropWhile_append_stops mid stops
    rw [left, rest]
    exact ⟨pre', hl, hc, tail, blank, kept⟩

variable {d : Description}

/-- **What is left of a text of one line ends with its position still.** -/
theorem endsWith_text {message : String} (hm : d.message = some message) (oneLine : '\n' ∉ message.toList)
    (h : EndsWith message.toList pre line column) : ∃ pre', EndsWith d.text pre' line column := by
  rw [Description.text, hm, Option.getD_some, headline_of_line oneLine]
  obtain ⟨pre, h⟩ := endsWith_trimStart h
  exact endsWith_dropOrigin (endsWith_trimEnd h)

/-! ## What is read -/

/-- what is shown of a column: 0 when there is none -/
inductive ShownAs : Json → Nat → Prop
  | none : ShownAs .null 0
  | at_ (c : Nat) : ShownAs (.int c) c

/-- one line of text, and no position, or a line and a column that may be missing -/
structure Parsed.Sound (p : Parsed) : Prop where
  oneLine : '\n' ∉ p.message.toList
  position : p.line = .null ∧ p.column = .null ∨ ∃ (l : Int) (c : Nat), p.line = .int l ∧ ShownAs p.column c

/-- what the compiler says of the place of an error -/
inductive Pointed : Option Json → Prop
  | absent : Pointed none
  | nowhere : Pointed (some .null)
  | at_ {fields : List (String × Json)} {line : Int} {c : Nat} (hl : Json.get? "line" fields = some (.int line))
      (column : ShownAs (valueOf "column" fields) c) : Pointed (some (.obj fields))

theorem Pointed.location {fields : List (String × Json)} (pointed : Pointed (Json.get? "loc" fields)) {l : Location}
    (h : (Description.ofFields fields).location = some l) :
    ∃ (line : Int) (c : Nat), l.line = .int line ∧ ShownAs l.column c := by
  simp only [Description.ofFields] at h
  generalize Json.get? "loc" fields = loc at pointed h
  cases pointed with
  | absent => cases h
  | nowhere => cases h
  | at_ hl column =>
    simp only [Option.bind_some, Location.ofJson?, Json.Tree.field?, hl, Json.Tree.integer?] at h
    cases h
    exact ⟨_, _, rfl, column⟩

theorem not_mem_text (d : Description) : '\n' ∉ d.text :=
  fun h => not_mem_headline _ ((dropOrigin_suffix _).mem h)

theorem sound_parse {p : Parsed}
    (own : ∀ l ∈ d.location, ∃ (line : Int) (c : Nat), l.line = .int line ∧ ShownAs l.column c) (h : parse d = .ok p) : p.Sound := by
  obtain ⟨line, column, placing, rfl⟩ := parse_eq_ok_iff.mp h
  constructor
  · rw [String.toList_ofList]
    exact fun mem => not_mem_text d ((unplaced_front _).mem mem)
  · cases placing with
    | own hl => exact .inr (own _ hl)
    | nowhere => exact .inl ⟨rfl, rfl⟩
    | found => exact .inr ⟨_, _, rfl, .at_ _⟩

theorem Parsed.Sound.relocate {p : Parsed} (h : p.Sound) (lineOffset : Int) (userLines : Option Int) :
    (relocate p lineOffset userLines).Sound := by
  rcases h.position with ⟨line, column⟩ | ⟨l, c, line, column⟩
  · rw [Diagnostic.relocate, line]
    exact h
  · rw [relocate_of_int line]
    split
    · exact ⟨h.oneLine, .inl ⟨rfl, rfl⟩⟩
    · exact ⟨h.oneLine, .inr ⟨_, _, rfl, column⟩⟩
    · exact ⟨h.oneLine, .inr ⟨_, _, rfl, .none⟩⟩

/-! ## What is shown -/

/-- the text of a position -/
def placeText (l : Int) (c : Nat) : String := "(" ++ toString l ++ ":" ++ toString c ++ ")"

theorem ShownAs.writable {column : Json} {c : Nat} (h : ShownAs column c)
    (short : ∀ n : Int, column = .int n → Writable n) : Writable c := by
  cases h with
  | none => exact writable_natCast.mpr (by decide)
  | at_ c => exact short c rfl

theorem positionText_shown {l : Int} {column : Json} {c : Nat} (h : ShownAs column c) :
    positionText (.int l) column = do
      let l ← written l
      let c ← written c
      return " (" ++ l ++ ":" ++ c ++ ")" := by
  cases h with
  | none =>
    have zero : written (0 : Nat) = .ok "0" := written_iff.mpr ⟨writable_natCast.mpr (by decide), rfl⟩
    rw [zero]
    rfl
  | at_ c => rfl

theorem append_place (message : String) (l : Int) (c : Nat) :
    message ++ (" (" ++ toString l ++ ":" ++ toString (c : Int) ++ ")") = message ++ " " ++ placeText l c := by
  have space : " (" = " " ++ "(" := rfl
  simp only [placeText, space, String.append_assoc]
  rfl

theorem positioned_eq_ok_iff {p : Parsed} {l : Int} {c : Nat} (line : p.line = .int l) (column : ShownAs p.column c)
    {text : String} : positioned p = .ok text ↔
      Writable l ∧ Writable c ∧ text = p.message ++ " " ++ placeText l c := by
  have shown : positioned p = do
      let place ← positionText (.int l) p.column
      return p.message ++ place := by
    rw [positioned, line]
    rfl
  rw [shown, positionText_shown column]
  constructor
  · intro h
    cases hl : written l with
    | error f => rw [hl] at h; cases h
    | ok lt =>
      cases hc : written c with
      | error f => rw [hl, hc] at h; cases h
      | ok ct =>
        obtain ⟨wl, rfl⟩ := written_iff.mp hl
        obtain ⟨wc, rfl⟩ := written_iff.mp hc
        rw [hl, hc] at h
        exact ⟨wl, wc, (Except.ok.inj h).symm.trans (append_place ..)⟩
  · rintro ⟨wl, wc, rfl⟩
    rw [written_iff.mpr ⟨wl, rfl⟩, written_iff.mpr ⟨wc, rfl⟩, ← append_place]
    rfl

theorem toList_placeText (l c : Nat) : (placeText l c).toList =
    '(' :: (Nat.toDigits 10 l ++ ':' :: (Nat.toDigits 10 c ++ [')'])) := by
  have written (n : Nat) : (toString n).toList = Nat.toDigits 10 n := Nat.toList_repr
  have line : toString (l : Int) = toString l := rfl
  simp only [placeText, line, String.toList_append, written]
  simp

theorem not_mem_placeText (l c : Nat) : '\n' ∉ (placeText l c).toList := by
  have digits (n : Nat) : '\n' ∉ Nat.toDigits 10 n :=
    fun mem => absurd ((Json.isDigits_toDigits n).2 _ mem) (by decide)
  simp [toList_placeText, digits]

/-- **A position at the end of a text of one line is read back**, whatever stands in front of it. -/
theorem parse_placed {text message : String} {l c : Nat} (hm : d.message = some message) (own : d.location = none)
    (oneLine : '\n' ∉ message.toList) (ends : message = text ++ placeText l c) (hl : Writable l) (hc : Writable c) :
    ∃ p, parse d = .ok p ∧ p.line = .int l ∧ p.column = .int c := by
  have placed : EndsWith message.toList text.toList (Nat.toDigits 10 l) (Nat.toDigits 10 c) := by
    refine ⟨isNumeral_toDigits l, isNumeral_toDigits c, [], nofun, ?_⟩
    rw [ends, String.toList_append, toList_placeText]
  obtain ⟨pre, left⟩ := endsWith_text hm oneLine placed
  have found : suffix? d.text = some ⟨trimEnd pre, Nat.toDigits 10 l, Nat.toDigits 10 c⟩ :=
    suffix?_eq_some_iff.mpr ⟨pre, left, rfl⟩
  have placing : Placing d (.int l) (.int c) := by
    simpa only [Json.numeral_toDigits] using
      Placing.found own found (writable_natCast.mp hl) (writable_natCast.mp hc)
  exact ⟨_, parse_of_placing placing, rfl, rfl⟩

/-! ## Failures of the compiler -/

/-- text and position of a failure in a snippet of so many lines -/
structure Agrees (f : Failure) (lines : Nat) : Prop where
  line : LineOf f.line lines
  column : f.line = .null → f.column = .null
  oneLine : '\n' ∉ f.message.toList
  shown : ∀ l : Nat, f.line = .int l → ∃ (c : Nat) (text : String), ShownAs f.column c ∧
    f.message = text ++ placeText l c ∧
    ∀ fields, Json.get? "message" fields = some (.str f.message) → Json.get? "loc" fields = none →
      ∃ p, parse (Description.ofFields fields) = .ok p ∧ p.line = .int l ∧ p.column = .int c

/-- the numbers of a position have few enough digits -/
def Short (line column : Json) : Prop := ∀ n : Int, line = .int n ∨ column = .int n → Writable n

/-- the numbers of all positions in a record have few enough digits -/
structure Legible (fields : List (String × Json)) : Prop where
  message : ¬Overlong (.obj fields)
  own : ∀ l ∈ (Description.ofFields fields).location, Short l.line l.column

variable {fields : List (String × Json)} {lineOffset : Int}

theorem agrees_of_sound {p : Parsed} (sound : p.Sound) {text : String} {lines : Nat} (line : LineOf p.line lines)
    (shown : positioned p = .ok text) :
    Agrees { stage := .compile, message := text, line := p.line, column := p.column } lines := by
  obtain ⟨oneLine, ⟨noLine, noColumn⟩ | ⟨L, c, hl, hc⟩⟩ := sound
  · have same : text = p.message := by
      rw [positioned, noLine] at shown
      exact (Except.ok.inj shown).symm
    exact ⟨line, fun _ => noColumn, same ▸ oneLine, fun l hl => nomatch noLine.symm.trans hl⟩
  · obtain ⟨wl, wc, rfl⟩ := (positioned_eq_ok_iff hl hc).mp shown
    obtain ⟨l, rfl⟩ : ∃ l : Nat, L = l := by
      obtain none | ⟨l, same, -⟩ := line
      · exact nomatch none.symm.trans hl
      · exact ⟨l, Json.Tree.int.inj (hl.symm.trans same)⟩
    have oneLine' : '\n' ∉ (p.message ++ " " ++ placeText l c).toList := by
      have space : '\n' ∉ " ".toList := by decide
      simp only [String.toList_append, List.mem_append, not_or]
      exact ⟨⟨oneLine, space⟩, not_mem_placeText l c⟩
    refine ⟨line, fun none => (nomatch none.symm.trans hl), oneLine', fun k hk => ⟨c, p.message ++ " ", hc, ?_, ?_⟩⟩
    · rw [Json.Tree.int.inj (hk.symm.trans hl)]
    · obtain rfl : k = l := Int.ofNat.inj (Json.Tree.int.inj (hk.symm.trans hl))
      intro fields hm none
      refine parse_placed ?_ ?_ oneLine' rfl wl wc
      · rw [Description.ofFields, hm]
        rfl
      · rw [Description.ofFields, none]
        rfl

/-- a line that is moved is one of the snippet's, and no number gets greater than it was -/
theorem line_of_relocate {p : Parsed} {L l : Int} {lines : Nat} (some_ : 1 ≤ lines) (h : p.line = .int L)
    (moved : (relocate p lineOffset (some lines)).line = .int l) : 1 ≤ l ∧ l ≤ lines ∧ l ≤ L - lineOffset := by
  have first : (1 : Int) ≤ lines := by omega
  rw [relocate_of_int h, landing] at moved
  split_ifs at moved with before behind
  · cases moved
    exact ⟨first, Int.le_refl _, Int.le_of_lt behind⟩
  · cases moved
    exact ⟨Int.not_lt.mp before, Int.not_lt.mp behind, Int.le_refl _⟩

theorem column_of_relocate (p : Parsed) (lineOffset : Int) (userLines : Option Int) :
    (relocate p lineOffset userLines).column = .null ∨ (relocate p lineOffset userLines).column = p.column := by
  rw [relocate]
  split
  · exact .inr rfl
  · split
    · exact .inl rfl
    · exact .inr rfl
    · exact .inl rfl

/-- a number that is moved can be written, when the numbers of the wrapped text or those of the snippet can -/
theorem short_relocate {p : Parsed} (sound : p.Sound) (short : Short p.line p.column) {lines : Nat} (some_ : 1 ≤ lines)
    (within : 0 ≤ lineOffset ∨ Writable lines) :
    Short (relocate p lineOffset (some lines)).line (relocate p lineOffset (some lines)).column := by
  rintro n (hn | hn)
  · rcases sound.position with ⟨noLine, -⟩ | ⟨L, c, hl, -⟩
    · rw [relocate, noLine] at hn
      cases noLine.symm.trans hn
    · obtain ⟨first, last, before⟩ := line_of_relocate some_ hl hn
      obtain ⟨k, rfl⟩ := Int.eq_ofNat_of_zero_le (by omega : 0 ≤ n)
      rcases within with shifts | writable
      · obtain ⟨m, rfl⟩ := Int.eq_ofNat_of_zero_le (by omega : 0 ≤ L)
        exact (short m (.inl hl)).of_le (by omega)
      · exact writable.of_le (by omega)
  · rcases column_of_relocate p lineOffset (some lines) with none | same
    · cases none.symm.trans hn
    · exact short n (.inr (same.symm.trans hn))

theorem exists_positioned {p : Parsed} (sound : p.Sound) (short : Short p.line p.column) :
    ∃ text, positioned p = .ok text := by
  rcases sound.position with ⟨noLine, -⟩ | ⟨l, c, hl, hc⟩
  · rw [positioned, noLine]
    exact ⟨_, rfl⟩
  · have column : Writable c := hc.writable fun n hn => short n (.inr hn)
    exact ⟨_, (positioned_eq_ok_iff hl hc).mpr ⟨short l (.inl hl), column, rfl⟩⟩

theorem exists_parse (legible : Legible fields) :
    ∃ p, parse (Description.ofFields fields) = .ok p ∧ Short p.line p.column := by
  obtain ⟨line, column, placing⟩ := placing_of_not_overlong fun long => legible.message ⟨_, rfl, long⟩
  refine ⟨_, parse_of_placing placing, ?_⟩
  cases placing with
  | own hl => exact legible.own _ hl
  | nowhere =>
    rintro n (h | h) <;> cases h
  | found h at_ line column =>
    rintro n (h | h)
    · cases h
      exact writable_numeral line
    · cases h
      exact writable_numeral column

/-- an error whose message ends with the position that it has, with an excerpt of the wrapped text -/
def unexpected : List (String × Json) :=
  [("name", .str "SyntaxError"),
   ("message", .str "/preview.tsx: Unexpected token (9:4)\n\n>  9 |   <div"),
   ("loc", .obj [("line", .int 9), ("column", .int 4)])]

end SnippetStudio.Diagnostic
