import SnippetStudio.Proofs.Snippet.Scope
import SnippetStudio.Proofs.Text.Reading

/-!
# What a line shows

For each construct that the linter looks for in a line: how a text looks that ends with it, told without the
recogniser (`Construct.importOpening`, `Construct.classAttribute`, …).  A line shows the construct when a part
of it, from its start on, is such a text (`Shows`), and the recogniser accepts just these lines
(`isImport_iff`, `showsClass_iff`, …).

The word `etc` alone is judged by what follows: it counts as a placeholder where the line ends with it
(`EndsInEtc`).
-/

namespace SnippetStudio.Snippet

open Text

variable {line left front : List Char}

/-! ## the constructs -/

/-- a part of the line, from its start on, is a text that ends with what is looked for -/
def Shows (construct : List Char → Prop) (line : Line) : Prop := ∃ front, front <+: line ∧ construct front

/-- the name of an attribute, up to its equals sign -/
def Equated (name s : List Char) : Prop := ∃ gap, Blanks gap ∧ s = name ++ gap ++ ['=']

/-- the text ends with `className`, blanks behind it left out of account -/
def EndsClassName (left : List Char) : Prop :=
  ∃ before gap, Blanks gap ∧ left = before ++ "className".toList ++ gap

namespace Construct

def importOpening (front : List Char) : Prop :=
  ∃ lead gap c, Blanks lead ∧ Blanks gap ∧ gap ≠ [] ∧ startsImport c = true ∧
    front = lead ++ "import".toList ++ gap ++ [c]

def exportOpening (front : List Char) : Prop :=
  ∃ lead c, Blanks lead ∧ isBlank c = true ∧ front = lead ++ "export".toList ++ [c]

/-- the attribute `class` with a quoted value or an expression -/
def classAttribute (front : List Char) : Prop :=
  ∃ left sign gap q, Fresh left ∧ ¬EndsClassName left ∧ Equated "class".toList sign ∧ Blanks gap ∧
    (q = '"' ∨ q = '\x7b') ∧ front = left ++ sign ++ gap ++ [q]

/-- the attribute `style` with a string between double quotes -/
def styleString (front : List Char) : Prop :=
  ∃ left sign gap text, Fresh left ∧ Equated "style".toList sign ∧ Blanks gap ∧ '"' ∉ text ∧
    front = left ++ sign ++ gap ++ '"' :: (text ++ ['"'])

/-- the attribute `for` inside the tag of a label -/
def labelFor (front : List Char) : Prop :=
  ∃ left inside sign, '>' ∉ inside ∧ Fresh ("<label".toList ++ inside) ∧ Equated "for".toList sign ∧
    front = left ++ "<label".toList ++ inside ++ sign

def htmlComment (front : List Char) : Prop := "<!--".toList <:+ front

def mapCall (front : List Char) : Prop := ".map(".toList <:+ front ∨ ".map (".toList <:+ front

def keyGiven (front : List Char) : Prop := "key=".toList <:+ front ∨ "key =".toList <:+ front

def commentOpening (front : List Char) : Prop :=
  ∃ lead, Blanks lead ∧ (front = lead ++ "//".toList ∨ front = lead ++ "*".toList ∨ front = lead ++ "/*".toList)

/-- behind a comment sign, a word that stands for left-out code -/
def elision (front : List Char) : Prop :=
  ∃ left gap word written, word ∈ elisions ∧ Blanks gap ∧ Folded word written ∧
    front = left ++ "//".toList ++ gap ++ written

/-- between braces, a comment of three dots -/
def elisionBlock (front : List Char) : Prop :=
  ∃ left gap gap', Blanks gap ∧ Blanks gap' ∧
    front = left ++ "\x7b/*".toList ++ gap ++ "...".toList ++ gap' ++ "*/\x7d".toList

def placeholder (front : List Char) : Prop := elision front ∨ elisionBlock front

def directive (front : List Char) : Prop :=
  ∃ lead q q', Blanks lead ∧ isQuote q = true ∧ isQuote q' = true ∧
    front = lead ++ q :: ("use client".toList ++ [q'])

end Construct

/-- the line ends with a comment sign and `etc`, with or without a dot -/
def EndsInEtc (line : Line) : Prop :=
  ∃ left gap written dot, Blanks gap ∧ Folded "etc".toList written ∧ (dot = [] ∨ dot = ['.']) ∧
    line = left ++ "//".toList ++ gap ++ written ++ dot

open Construct

/-! ## statements of modules -/

theorem isBlank_of_startsImport {c : Char} (starts : startsImport c = true) : isBlank c = false := by
  have signs : isBlank '\x7b' = false ∧ isBlank '*' = false ∧ isBlank '\'' = false ∧ isBlank '"' = false := by
    decide
  simp only [startsImport, Bool.or_eq_true, beq_iff_eq] at starts
  rcases starts with (((word | rfl) | rfl) | rfl) | rfl
  · exact isBlank_of_isWord word
  · exact signs.1
  · exact signs.2.1
  · exact signs.2.2.1
  · exact signs.2.2.2

theorem isImport_iff : isImport line = true ↔ Shows importOpening line := by
  constructor
  · intro h
    unfold isImport at h
    split at h
    · next c rest found =>
      obtain ⟨s, behind, gapped⟩ := Option.bind_eq_some_iff.mp found
      obtain ⟨lead, lead_, whole, -⟩ := blanks_eq_iff.mp (after?_eq_some.mp behind)
      obtain ⟨gap, some_, gap_, rfl, -⟩ := blanks1?_eq_some.mp gapped
      refine ⟨_, ?_, lead, gap, c, lead_, gap_, some_, h, rfl⟩
      exact ⟨rest, by rw [whole]; simp⟩
    · cases h
  · rintro ⟨_, ⟨rest, rfl⟩, lead, gap, c, lead_, gap_, some_, starts, rfl⟩
    have word : blanks (lead ++ "import".toList ++ gap ++ [c] ++ rest) =
        "import".toList ++ (gap ++ c :: rest) := by
      simp only [List.append_assoc, List.singleton_append]
      exact blanks_run lead_ (stops_cons.mpr (by decide))
    have gapped : blanks1? (gap ++ c :: rest) = some (c :: rest) :=
      blanks1?_eq_some.mpr ⟨gap, some_, gap_, rfl, stops_cons.mpr (isBlank_of_startsImport starts)⟩
    rw [isImport, word, after?_append, Option.bind_some, gapped]
    exact starts

theorem isExport_iff : isExport line = true ↔ Shows exportOpening line := by
  rw [isExport, Option.isSome_iff_exists]
  simp only [Option.bind_eq_some_iff, after?_eq_some]
  constructor
  · rintro ⟨rest, s, word, gapped⟩
    obtain ⟨lead, lead_, rfl, -⟩ := blanks_eq_iff.mp word
    obtain ⟨gap, some_, gap_, rfl, -⟩ := blanks1?_eq_some.mp gapped
    obtain ⟨c, gap, rfl⟩ := List.exists_cons_of_ne_nil some_
    refine ⟨_, ?_, lead, c, lead_, gap_ c List.mem_cons_self, rfl⟩
    exact ⟨gap ++ rest, by simp⟩
  · rintro ⟨_, ⟨rest, rfl⟩, lead, c, lead_, blank, rfl⟩
    refine ⟨blanks rest, c :: rest, ?_, ?_⟩
    · simp only [List.append_assoc, List.singleton_append]
      exact blanks_run lead_ (stops_cons.mpr (by decide))
    · rw [blanks1?, if_pos blank]

/-! ## attributes -/

theorem assigned?_eq_some {name right rest : List Char} :
    assigned? name ⟨left.reverse, right⟩ = some rest ↔ Fresh left ∧ Stops isBlank rest ∧
      ∃ sign gap, Equated name sign ∧ Blanks gap ∧ right = sign ++ gap ++ rest := by
  unfold assigned?
  split
  · next fresh =>
    simp only [Option.bind_eq_some_iff, Option.map_eq_some_iff, after?_eq_some, isFresh_iff.mp fresh, true_and]
    constructor
    · rintro ⟨s, rfl, t, sign, rfl⟩
      obtain ⟨before, before_, rfl, -⟩ := blanks_eq_iff.mp sign
      obtain ⟨gap, gap_, whole, stops⟩ := exists_blanks t
      refine ⟨stops, _, gap, ⟨before, before_, rfl⟩, gap_, ?_⟩
      rw [List.append_assoc _ gap, ← whole]
      simp only [List.append_assoc]
    · rintro ⟨stops, _, gap, ⟨before, before_, rfl⟩, gap_, rfl⟩
      refine ⟨before ++ '=' :: (gap ++ rest), by simp, gap ++ rest, ?_, blanks_run gap_ stops⟩
      exact blanks_run before_ (stops_cons.mpr (by decide))
  · next word =>
    simp only [reduceCtorEq, false_iff, not_and]
    exact fun fresh => absurd (isFresh_iff.mpr fresh) word

theorem endsClassName_iff : endsClassName left.reverse = true ↔ EndsClassName left := by
  rw [endsClassName, begins_iff]
  constructor
  · rintro ⟨before, word⟩
    obtain ⟨gap, gap_, whole, -⟩ := blanks_eq_iff.mp word
    refine ⟨before.reverse, gap.reverse, Blanks.reverse gap_, ?_⟩
    rw [← List.reverse_reverse left, whole]
    simp
  · rintro ⟨before, gap, gap_, rfl⟩
    refine ⟨before.reverse, blanks_eq_iff.mpr ⟨gap.reverse, Blanks.reverse gap_, by simp, ?_⟩⟩
    exact stops_cons.mpr (by decide)

theorem isClassAttribute_iff {x : Place} : isClassAttribute x = true ↔
    endsClassName x.left = false ∧
      ∃ q rest, (q = '"' ∨ q = '\x7b') ∧ assigned? "class".toList x = some (q :: rest) := by
  unfold isClassAttribute
  constructor
  · intro h
    split at h
    · next rest found => exact ⟨by simpa using h, '"', rest, .inl rfl, found⟩
    · next rest found => exact ⟨by simpa using h, '\x7b', rest, .inr rfl, found⟩
    · cases h
  · rintro ⟨free, q, rest, rfl | rfl, found⟩ <;> simp only [found, free, Bool.not_false]

theorem showsClass_iff : showsClass line = true ↔ Shows classAttribute line := by
  rw [showsClass, occurs_iff_append]
  simp only [isClassAttribute_iff, assigned?_eq_some, ← Bool.not_eq_true, endsClassName_iff]
  constructor
  · rintro ⟨left, right, rfl, free, q, rest, quote, fresh, -, sign, gap, sign_, gap_, rfl⟩
    refine ⟨_, ⟨rest, ?_⟩, left, sign, gap, q, fresh, free, sign_, gap_, quote, rfl⟩
    simp
  · rintro ⟨_, ⟨rest, rfl⟩, left, sign, gap, q, fresh, free, sign_, gap_, quote, rfl⟩
    have visible : isBlank q = false := by rcases quote with rfl | rfl <;> decide
    refine ⟨left, sign ++ gap ++ q :: rest, by simp, free, q, rest, quote, fresh, stops_cons.mpr visible, ?_⟩
    exact ⟨sign, gap, sign_, gap_, rfl⟩

theorem showsStyle_iff : showsStyle line = true ↔ Shows styleString line := by
  rw [showsStyle, occurs_iff_append]
  constructor
  · rintro ⟨left, right, rfl, here⟩
    unfold isStyleString at here
    split at here
    · next s found =>
      obtain ⟨fresh, -, sign, gap, sign_, gap_, rfl⟩ := assigned?_eq_some.mp found
      obtain ⟨text, rest, rfl, inside⟩ := List.eq_append_cons_of_mem (List.contains_iff_mem.mp here)
      refine ⟨_, ⟨rest, ?_⟩, left, sign, gap, text, fresh, sign_, gap_, inside, rfl⟩
      simp
    · cases here
  · rintro ⟨_, ⟨rest, rfl⟩, left, sign, gap, text, fresh, sign_, gap_, -, rfl⟩
    refine ⟨left, sign ++ gap ++ '"' :: (text ++ '"' :: rest), by simp, ?_⟩
    have found : assigned? "style".toList ⟨left.reverse, sign ++ gap ++ '"' :: (text ++ '"' :: rest)⟩ =
        some ('"' :: (text ++ '"' :: rest)) :=
      assigned?_eq_some.mpr ⟨fresh, stops_cons.mpr (by decide), sign, gap, sign_, gap_, rfl⟩
    rw [isStyleString, found]
    simp

theorem showsLabelFor_iff : showsLabelFor line = true ↔ Shows labelFor line := by
  have fresh_iff (inside : List Char) : Fresh ("<label".toList ++ inside) ↔ Fresh ('l' :: inside) := by
    rw [Fresh, Fresh]
    cases inside <;> simp
  have last (inside : List Char) : inside.reverse ++ ['l'] = ('l' :: inside).reverse := by simp
  rw [showsLabelFor, occurs_iff_append]
  constructor
  · rintro ⟨left, right, rfl, here⟩
    unfold isLabelFor at here
    split at here
    · next s found =>
      obtain rfl := after?_eq_some.mp found
      obtain ⟨⟨l, r⟩, place, given⟩ := List.any_eq_true.mp here
      obtain ⟨inside, tag, rfl⟩ := mem_placesFrom.mp place
      obtain ⟨rest, equated⟩ := Option.isSome_iff_exists.mp given
      rw [last] at equated
      obtain ⟨fresh, -, sign, gap, sign_, -, rfl⟩ := assigned?_eq_some.mp equated
      have open_ : '>' ∉ inside := fun mem => not_mem_upTo '>' s (tag ▸ List.mem_append_left _ mem)
      have whole : upTo '>' s ++ s.dropWhile (· ≠ '>') = s := List.takeWhile_append_dropWhile
      refine ⟨_, ?_, left, inside, sign, open_, (fresh_iff inside).mpr fresh, sign_, rfl⟩
      refine ⟨gap ++ rest ++ s.dropWhile (· ≠ '>'), ?_⟩
      calc _ = left ++ "<label".toList ++ (inside ++ (sign ++ gap ++ rest)) ++ s.dropWhile (· ≠ '>') := by
            simp only [List.append_assoc]
        _ = left ++ ("<label".toList ++ s) := by rw [tag, List.append_assoc, List.append_assoc, whole]
    · cases here
  · rintro ⟨_, ⟨rest, rfl⟩, left, inside, sign, open_, fresh, sign_, rfl⟩
    refine ⟨left, "<label".toList ++ (inside ++ sign ++ rest), by simp, ?_⟩
    have within : ∀ c ∈ inside ++ sign, decide (c ≠ '>') = true := by
      obtain ⟨gap, gap_, rfl⟩ := sign_
      have apart : '>' ∉ gap := fun mem => absurd (gap_ '>' mem) (by decide)
      intro c mem
      rw [decide_eq_true_iff]
      rintro rfl
      simp [open_, apart] at mem
    have tag : upTo '>' (inside ++ sign ++ rest) = inside ++ (sign ++ upTo '>' rest) := by
      rw [upTo, List.takeWhile_append_of_pos within, List.append_assoc]
      rfl
    have place : ⟨('l' :: inside).reverse, sign ++ upTo '>' rest⟩ ∈
        placesFrom ['l'] (upTo '>' (inside ++ sign ++ rest)) :=
      mem_placesFrom.mpr ⟨inside, tag.symm, (last inside).symm⟩
    obtain ⟨gap, gap_, behind, stops⟩ := exists_blanks (upTo '>' rest)
    have equated := assigned?_eq_some.mpr
      ⟨(fresh_iff inside).mp fresh, stops, sign, gap, sign_, gap_, by rw [List.append_assoc, ← behind]⟩
    rw [isLabelFor, after?_append]
    exact List.any_eq_true.mpr ⟨_, place, Option.isSome_iff_exists.mpr ⟨_, equated⟩⟩

/-! ## literals -/

theorem shows_or {P Q : List Char → Prop} : Shows (fun front => P front ∨ Q front) line ↔
    Shows P line ∨ Shows Q line := by
  simp only [Shows, and_or_left, exists_or]

theorem contains_iff_shows {lit : List Char} : contains lit line = true ↔ Shows (lit <:+ ·) line := by
  rw [contains_iff]
  constructor
  · rintro ⟨left, rest, rfl⟩
    exact ⟨left ++ lit, ⟨rest, rfl⟩, ⟨left, rfl⟩⟩
  · rintro ⟨_, ⟨rest, rfl⟩, ⟨left, rfl⟩⟩
    exact ⟨left, rest, rfl⟩

theorem showsHtmlComment_iff : showsHtmlComment line = true ↔ Shows htmlComment line :=
  contains_iff_shows

theorem showsMap_iff : showsMap line = true ↔ Shows mapCall line := by
  rw [showsMap, Bool.or_eq_true, contains_iff_shows, contains_iff_shows, ← shows_or]
  rfl

theorem showsKey_iff : showsKey line = true ↔ Shows keyGiven line := by
  rw [showsKey, Bool.or_eq_true, contains_iff_shows, contains_iff_shows, ← shows_or]
  rfl

theorem isComment_iff : isComment line = true ↔ Shows commentOpening line := by
  simp only [isComment, Bool.or_eq_true, begins_iff, or_assoc]
  constructor
  · intro opens
    have front : blanks line = trimStart line := rfl
    obtain ⟨lead, lead_, whole, -⟩ := blanks_eq_iff.mp front
    rcases opens with ⟨rest, sign⟩ | ⟨rest, sign⟩ | ⟨rest, sign⟩ <;> rw [sign, ← List.append_assoc] at whole
    · exact ⟨_, ⟨rest, whole.symm⟩, lead, lead_, .inl rfl⟩
    · exact ⟨_, ⟨rest, whole.symm⟩, lead, lead_, .inr (.inl rfl)⟩
    · exact ⟨_, ⟨rest, whole.symm⟩, lead, lead_, .inr (.inr rfl)⟩
  · rintro ⟨_, ⟨rest, rfl⟩, lead, lead_, rfl | rfl | rfl⟩ <;> rw [List.append_assoc]
    · exact .inl ⟨rest, blanks_run lead_ (stops_cons.mpr (by decide))⟩
    · exact .inr (.inl ⟨rest, blanks_run lead_ (stops_cons.mpr (by decide))⟩)
    · exact .inr (.inr ⟨rest, blanks_run lead_ (stops_cons.mpr (by decide))⟩)

/-! ## placeholders -/

theorem elisions_visible :
    ∀ word ∈ elisions, word ≠ [] ∧ Stops isBlank word ∧ Stops isBlank word.reverse := by
  decide

theorem isEtc_iff {s : List Char} : isEtc s = true ↔
    ∃ written dot, Folded "etc".toList written ∧ (dot = [] ∨ dot = ['.']) ∧ s = written ++ dot := by
  have found {dot : List Char} : afterFolded? "etc".toList s = some dot ↔
      ∃ written, Folded "etc".toList written ∧ s = written ++ dot := afterFolded?_eq_some
  unfold isEtc
  constructor
  · intro h
    split at h
    · next bare =>
      obtain ⟨written, folded, rfl⟩ := found.mp bare
      exact ⟨written, [], folded, .inl rfl, rfl⟩
    · next dotted =>
      obtain ⟨written, folded, rfl⟩ := found.mp dotted
      exact ⟨written, ['.'], folded, .inr rfl, rfl⟩
    · cases h
  · rintro ⟨written, dot, folded, rfl | rfl, rfl⟩ <;>
      simp only [afterFolded?_eq_some.mpr ⟨written, folded, rfl⟩]

theorem occurs_isElision_iff : occurs isElision line = true ↔ Shows elision line ∨ EndsInEtc line := by
  have unfolded (x : Place) : isElision x = true ↔ ∃ s, x.rest = "//".toList ++ s ∧
      ((∃ word ∈ elisions, ∃ r, afterFolded? word (blanks s) = some r) ∨ isEtc (blanks s) = true) := by
    unfold isElision
    split
    · next s found =>
      simp only [after?_eq_some.mp found, List.append_cancel_left_eq, exists_eq_left', Bool.or_eq_true,
        List.any_eq_true, Option.isSome_iff_exists]
    · next none =>
      simp only [Bool.false_eq_true, false_iff, not_exists, not_and]
      intro s found
      rw [found, after?_append] at none
      cases none
  rw [occurs_iff_append]
  simp only [unfolded, isEtc_iff, afterFolded?_eq_some]
  constructor
  · rintro ⟨left, _, rfl, s, rfl, found⟩
    obtain ⟨gap, gap_, whole, -⟩ := exists_blanks s
    rcases found with ⟨word, mem, r, written, folded, behind⟩ | ⟨written, dot, folded, dotted, behind⟩
    · left
      refine ⟨_, ⟨r, ?_⟩, left, gap, word, written, mem, gap_, folded, rfl⟩
      rw [whole, behind]
      simp
    · right
      refine ⟨left, gap, written, dot, gap_, folded, dotted, ?_⟩
      rw [whole, behind]
      simp
  · rintro (⟨_, ⟨r, rfl⟩, left, gap, word, written, mem, gap_, folded, rfl⟩ |
      ⟨left, gap, written, dot, gap_, folded, dotted, rfl⟩)
    · obtain ⟨some_, visible, -⟩ := elisions_visible word mem
      refine ⟨left, "//".toList ++ (gap ++ (written ++ r)), by simp, _, rfl,
        .inl ⟨word, mem, r, written, folded, ?_⟩⟩
      exact blanks_run gap_ (folded.stops some_ visible)
    · refine ⟨left, "//".toList ++ (gap ++ (written ++ dot)), by simp, _, rfl,
        .inr ⟨written, dot, folded, dotted, ?_⟩⟩
      exact blanks_run gap_ (folded.stops (by decide) (by decide))

theorem occurs_isElisionBlock_iff : occurs isElisionBlock line = true ↔ Shows elisionBlock line := by
  rw [occurs_iff_append]
  constructor
  · rintro ⟨left, right, rfl, here⟩
    unfold isElisionBlock at here
    split at here
    · next s opened =>
      obtain rfl := after?_eq_some.mp opened
      split at here
      · next t dots =>
        obtain ⟨gap, gap_, rfl, -⟩ := blanks_eq_iff.mp (after?_eq_some.mp dots)
        obtain ⟨rest, closed⟩ := begins_iff.mp here
        obtain ⟨gap', gap'_, rfl, -⟩ := blanks_eq_iff.mp closed
        exact ⟨_, ⟨rest, by simp⟩, left, gap, gap', gap_, gap'_, rfl⟩
      · cases here
    · cases here
  · rintro ⟨_, ⟨rest, rfl⟩, left, gap, gap', gap_, gap'_, rfl⟩
    have dots := blanks_run gap_ (r := "...".toList ++ (gap' ++ ("*/\x7d".toList ++ rest)))
      (stops_cons.mpr (by decide))
    have closed := blanks_run gap'_ (r := "*/\x7d".toList ++ rest) (stops_cons.mpr (by decide))
    refine ⟨left, "\x7b/*".toList ++ (gap ++ ("...".toList ++ (gap' ++ ("*/\x7d".toList ++ rest)))),
      by simp, ?_⟩
    rw [isElisionBlock, after?_append]
    simp only [dots, after?_append, closed]
    exact begins_iff.mpr ⟨rest, rfl⟩

theorem showsTruncation_iff : showsTruncation line = true ↔ Shows placeholder line ∨ EndsInEtc line := by
  have either : Shows placeholder line ↔ Shows elision line ∨ Shows elisionBlock line := shows_or
  rw [showsTruncation, Bool.or_eq_true, occurs_isElision_iff, occurs_isElisionBlock_iff, or_right_comm, either]

/-! ## the client directive -/

theorem isBlank_of_isQuote {q : Char} (quote : isQuote q = true) : isBlank q = false := by
  rw [isQuote, Bool.or_eq_true, beq_iff_eq, beq_iff_eq] at quote
  rcases quote with rfl | rfl <;> decide

theorem isUseClient_iff {s : List Char} : isUseClient s = true ↔ Shows directive s := by
  constructor
  · intro h
    unfold isUseClient at h
    split at h
    · next q t opened =>
      obtain ⟨lead, lead_, rfl, -⟩ := blanks_eq_iff.mp opened
      rw [Bool.and_eq_true] at h
      obtain ⟨quote, h⟩ := h
      split at h
      · next q' rest named =>
        obtain rfl := after?_eq_some.mp named
        exact ⟨_, ⟨rest, by simp⟩, lead, q, q', lead_, quote, h, rfl⟩
      · cases h
    · cases h
  · rintro ⟨_, ⟨rest, rfl⟩, lead, q, q', lead_, quote, quote', rfl⟩
    have opened := blanks_run lead_ (r := q :: ("use client".toList ++ q' :: rest))
      (stops_cons.mpr (isBlank_of_isQuote quote))
    have whole : lead ++ q :: ("use client".toList ++ [q']) ++ rest =
        lead ++ q :: ("use client".toList ++ q' :: rest) := by simp
    rw [isUseClient, whole, opened]
    simp only [after?_append, quote, quote', Bool.and_self]

/-- the directive is sought in the whole text, and stands on one of its lines -/
theorem showsUseClient_iff {code : List Char} :
    showsUseClient code = true ↔ ∃ line ∈ lines code, Shows directive line := by
  have start_iff (left : List Char) : (left.reverse.head?.all (· == '\n')) = true ↔ LineStart left := by
    rw [List.head?_reverse, LineStart]
    rcases List.eq_nil_or_concat left with rfl | ⟨before, c, rfl⟩
    · simp
    · rw [List.concat_eq_append]
      simp
  rw [showsUseClient, occurs_iff_append]
  simp only [Bool.and_eq_true, start_iff, isUseClient_iff]
  constructor
  · rintro ⟨left, _, rfl, start, _, ⟨rest, rfl⟩, lead, q, q', lead_, quote, quote', rfl⟩
    obtain ⟨feeds, last, rfl, lastStart, free⟩ := exists_lineStart lead
    have inside : ∀ c ∈ last ++ q :: ("use client".toList ++ [q']), decide (c ≠ '\n') = true := by
      have visible {c : Char} (quote : isQuote c = true) : '\n' ≠ c := by
        rintro rfl
        cases quote
      have words : '\n' ∉ "use client".toList := by decide
      intro c mem
      rw [decide_eq_true_iff]
      rintro rfl
      rcases List.mem_append.mp mem with mem | mem
      · exact free mem
      · rcases List.mem_cons.mp mem with same | mem
        · exact visible quote same
        · rcases List.mem_append.mp mem with mem | mem
          · exact words mem
          · exact visible quote' (List.mem_singleton.mp mem)
    have within : upTo '\n' (last ++ q :: ("use client".toList ++ [q']) ++ rest) =
        last ++ q :: ("use client".toList ++ [q']) ++ upTo '\n' rest := List.takeWhile_append_of_pos inside
    have begins : LineStart (left ++ feeds) := by
      rcases lastStart with rfl | ⟨before, rfl⟩
      · rwa [List.append_nil]
      · exact .inr ⟨left ++ before, (List.append_assoc ..).symm⟩
    have mem := upTo_mem_lines begins (last ++ q :: ("use client".toList ++ [q']) ++ rest)
    refine ⟨_, ?_, _, ⟨_, within.symm⟩, last, q, q', fun c mem => lead_ c (List.mem_append_right _ mem), quote,
      quote', rfl⟩
    simpa only [List.append_assoc] using mem
  · rintro ⟨line, mem, front, ahead, shown⟩
    obtain ⟨left, rest, rfl, start⟩ := exists_of_mem_lines mem
    exact ⟨left, line ++ rest, rfl, start, front, ahead.trans (List.prefix_append line rest), shown⟩

end SnippetStudio.Snippet
