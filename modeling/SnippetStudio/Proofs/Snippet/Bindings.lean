import SnippetStudio.Proofs.Snippet.Patterns
import SnippetStudio.Proofs.Snippet.Scope

/-!
# What a pattern binds

A declaration may take several names out of an object at once (`Destructuring`).  Each `Binding` says what is
taken, may give it an alias behind a colon, and may have a default behind an equals sign.  The collector cuts
an entry at its first colon before it looks for the equals sign.  So where there is no alias, a colon in the
default is taken for the one in front of an alias (`Misread`), and what stands behind it is declared in place
of the name (`stray`).

* `entryName?_text`  what the collector reads in one entry;
* `mem_localNames_text`  the names that it declares for the whole;
* `collected_iff`    **it declares what is bound, just if what it misreads does no harm**.
-/

namespace SnippetStudio.Snippet

open Text

/-- no blanks, no points, and none of the marks that mean something in a pattern -/
def IsIdentifier (name : List Char) : Prop :=
  name ≠ [] ∧ ∀ c ∈ name, isBlank c = false ∧ c ∉ ['.', ',', ':', '=', '\x7d']

instance (name : List Char) : Decidable (IsIdentifier name) :=
  decidable_of_iff (name ≠ [] ∧ name.all fun c => !isBlank c && c ∉ ['.', ',', ':', '=', '\x7d'])
    (by simp [IsIdentifier])

/-- a mark is not in a name, with blanks around it or without -/
theorem IsIdentifier.free {s : List Char} (name : IsIdentifier (trim s)) {c : Char} (visible : isBlank c = false)
    (mark : c ∈ ['.', ',', ':', '=', '\x7d']) : c ∉ s := by
  obtain ⟨gap, gap', gap_, gap'_, whole⟩ := exists_trim s
  have inner : c ∉ trim s := fun mem => (name.2 c mem).2 mark
  rw [whole]
  simp [inner, not_mem_blanks gap_ visible, not_mem_blanks gap'_ visible]

/-! ## one binding -/

/-- One name of a pattern as it is written, in parts: what is taken out, its alias, and its default.  Blanks may
stand around each name. -/
structure Binding where
  name : List Char
  renamed : Option (List Char) := none
  fallback : Option (List Char) := none
  name_ : IsIdentifier (trim name)
  renamed_ : ∀ r ∈ renamed, IsIdentifier (trim r)
  fallback_ : ∀ d ∈ fallback, ',' ∉ d ∧ '\x7d' ∉ d

namespace Binding

/-- a part of an entry, behind its mark -/
def part (mark : Char) : Option (List Char) → List Char
  | none => []
  | some s => mark :: s

variable (b : Binding)

def text : List Char := b.name ++ (part ':' b.renamed ++ part '=' b.fallback)

/-- the name that is bound: the alias if there is one -/
def bound : List Char := trim (b.renamed.getD b.name)

/-- there is no alias, but a colon in the default -/
def Misread : Prop := b.renamed = none ∧ ∃ d ∈ b.fallback, ':' ∈ d

instance : Decidable b.Misread := inferInstanceAs (Decidable (_ ∧ _))

/-- what a colon in the default is followed by, up to an equals sign -/
def stray : List Char := trim (upTo '=' ((cutOnce ':' (b.fallback.getD [])).2.getD []))

/-- what is read as the name -/
def read : List Char := if b.Misread then b.stray else b.bound

variable {b}

theorem bound_ne_nil : b.bound ≠ [] := by
  unfold bound
  cases renamed : b.renamed with
  | none => exact b.name_.1
  | some r => exact (b.renamed_ r renamed).1

theorem not_mem_part {c mark : Char} {s : Option (List Char)} (other : c ≠ mark) (free : ∀ p ∈ s, c ∉ p) :
    c ∉ part mark s := by
  cases s with
  | none => exact List.not_mem_nil
  | some p => simp [part, other, free p rfl]

theorem not_mem_text {c : Char} (ends : c = ',' ∨ c = '\x7d') : c ∉ b.text := by
  have visible : isBlank c = false := by rcases ends with rfl | rfl <;> decide
  have mark : c ∈ ['.', ',', ':', '=', '\x7d'] := by rcases ends with rfl | rfl <;> decide
  have other : c ≠ ':' ∧ c ≠ '=' := by rcases ends with rfl | rfl <;> decide
  have fallback : ∀ d ∈ b.fallback, c ∉ d := by
    intro d mem
    rcases ends with rfl | rfl
    · exact (b.fallback_ d mem).1
    · exact (b.fallback_ d mem).2
  have renamed : ∀ r ∈ b.renamed, c ∉ r := fun r mem => (b.renamed_ r mem).free visible mark
  simp [text, b.name_.free visible mark, not_mem_part other.1 renamed, not_mem_part other.2 fallback]

theorem upTo_part {s : List Char} (free : '=' ∉ s) (fallback : Option (List Char)) :
    upTo '=' (s ++ part '=' fallback) = s := by
  cases fallback with
  | none => rw [part, List.append_nil, upTo_of_not_mem free]
  | some d => exact upTo_append free

theorem boundPart_text : boundPart b.text = b.read := by
  have colon : ':' ∉ b.name := b.name_.free (by decide) (by decide)
  have equals : '=' ∉ b.name := b.name_.free (by decide) (by decide)
  unfold boundPart text read bound stray
  cases renamed : b.renamed with
  | some r =>
    have alias_ : '=' ∉ r := (b.renamed_ r renamed).free (by decide) (by decide)
    have other : ¬b.Misread := fun misread => by
      rw [misread.1] at renamed
      cases renamed
    rw [if_neg other]
    show trim (upTo '=' ((cutOnce ':' (b.name ++ ':' :: (r ++ part '=' b.fallback))).2.getD _)) = trim r
    rw [cutOnce_append colon, Option.getD_some, upTo_part alias_]
  | none =>
    show trim (upTo '=' ((cutOnce ':' (b.name ++ part '=' b.fallback)).2.getD
      (cutOnce ':' (b.name ++ part '=' b.fallback)).1)) = _
    by_cases misread : b.Misread
    · obtain ⟨-, d, given, mem⟩ := misread
      obtain ⟨u, v, rfl, free⟩ := List.eq_append_cons_of_mem mem
      have front : ':' ∉ b.name ++ '=' :: u := by simp [colon, free]
      have whole : b.name ++ part '=' b.fallback = b.name ++ '=' :: u ++ ':' :: v := by
        rw [given, part, List.append_assoc, List.cons_append]
      rw [if_pos ⟨renamed, _, given, mem⟩, whole, cutOnce_append front, given, Option.getD_some,
        Option.getD_some, cutOnce_append free, Option.getD_some]
    · have fallback : ∀ d ∈ b.fallback, ':' ∉ d := fun d given mem => misread ⟨renamed, d, given, mem⟩
      have free : ':' ∉ b.name ++ part '=' b.fallback := by
        simp [colon, not_mem_part (show ':' ≠ '=' by decide) fallback]
      rw [if_neg misread, cutOnce_of_not_mem free, Option.getD_none, upTo_part equals, Option.getD_none]

theorem trim_text : ∃ c t, trim b.text = c :: t ∧ c ≠ '.' := by
  obtain ⟨gap, gap', gap_, gap'_, whole⟩ := exists_trim b.name
  obtain ⟨c, n, name⟩ := List.exists_cons_of_ne_nil b.name_.1
  obtain ⟨visible, plain⟩ := b.name_.2 c (name ▸ List.mem_cons_self)
  rw [name] at whole
  have front : b.text = gap ++ (c :: (n ++ (gap' ++ (part ':' b.renamed ++ part '=' b.fallback)))) := by
    rw [text, whole]
    simp
  obtain ⟨t, first⟩ := trim_cons_of_visible (s := n ++ (gap' ++ (part ':' b.renamed ++ part '=' b.fallback)))
    visible
  refine ⟨c, t, by rw [front, trim_behind gap_, first], ?_⟩
  rintro rfl
  exact plain (by decide)

theorem entryName?_text : entryName? b.text = if b.read = [] then none else some b.read := by
  obtain ⟨c, t, trimmed, plain⟩ := b.trim_text
  have noDots : begins "...".toList (c :: t) = false := by
    have first : after? "...".toList (c :: t) = none := if_neg plain
    rw [begins, first]
    rfl
  rw [entryName?_eq, boundPart_trim, boundPart_text, trimmed, noDots]
  simp

end Binding

/-! ## a declaration -/

/-- A declaration of several names, as it is written. -/
structure Destructuring where
  keyword : List Char
  /-- the blanks in front of the braces -/
  gap : List Char := []
  bindings : List Binding
  /-- the blanks behind a comma after the last binding, or between empty braces -/
  closing : Option (List Char) := none
  /-- the blanks in front of the equals sign -/
  gap' : List Char := []
  object : List Char
  keyword_ : keyword ∈ bindingWords
  gap_ : Blanks gap
  gap'_ : Blanks gap'
  closing_ : ∀ s ∈ closing, Blanks s

namespace Destructuring

variable (d : Destructuring)

def entries : List (List Char) := d.bindings.map Binding.text ++ d.closing.toList

def text : List Char := d.keyword ++ braced d.gap (glue [','] d.entries) d.gap' d.object

/-- the names that are bound -/
def bound : List (List Char) := d.bindings.map Binding.bound

/-- what is read as the names -/
def read : List (List Char) := d.bindings.map Binding.read

/-- the names that are declared besides: capitalised ones anywhere in the text, and those of further patterns
in the object -/
def others : List (List Char) := definitions d.text ++ (patterns d.object).flatMap entryNames

variable {d}

theorem not_mem_entries {c : Char} (ends : c = ',' ∨ c = '\x7d') : ∀ entry ∈ d.entries, c ∉ entry := by
  intro entry mem
  rcases List.mem_append.mp mem with binding | closing
  · obtain ⟨b, -, rfl⟩ := List.mem_map.mp binding
    exact b.not_mem_text ends
  · have visible : isBlank c = false := by rcases ends with rfl | rfl <;> decide
    exact not_mem_blanks (d.closing_ entry (Option.mem_toList.mp closing)) visible

theorem patterns_text : patterns d.text = glue [','] d.entries :: patterns d.object := by
  have free : '\x7d' ∉ glue [','] d.entries := by
    intro mem
    rcases mem_glue mem with comma | ⟨entry, entry_mem, inside⟩
    · revert comma
      decide
    · exact not_mem_entries (.inr rfl) entry entry_mem inside
  exact patterns_of_pattern? (pattern?_eq_some.mpr
    ⟨rfl, free, d.keyword, d.keyword_, d.gap, d.gap', d.gap_, d.gap'_, rfl⟩)

theorem mem_entryNames {name : List Char} :
    name ∈ entryNames (glue [','] d.entries) ↔ name ≠ [] ∧ name ∈ d.read := by
  have entries : entryNames (glue [','] d.entries) = d.entries.filterMap entryName? := by
    by_cases none_ : d.entries = []
    · rw [none_]
      rfl
    · rw [entryNames, cut_glue none_, flatMap_cut (not_mem_entries (.inl rfl))]
  have closing : d.closing.toList.filterMap entryName? = [] := by
    refine List.filterMap_eq_nil_iff.mpr fun s mem => ?_
    have blank : trim s = [] := trim_of_blanks (d.closing_ s (Option.mem_toList.mp mem))
    rw [entryName?_eq, blank]
    rfl
  rw [entries, Destructuring.entries, List.filterMap_append, closing, List.append_nil, List.filterMap_map,
    List.mem_filterMap, read, List.mem_map]
  constructor
  · rintro ⟨b, mem, found⟩
    rw [Function.comp_apply, b.entryName?_text] at found
    split at found
    · cases found
    · next some_ =>
      obtain rfl := Option.some.inj found
      exact ⟨some_, b, mem, rfl⟩
  · rintro ⟨some_, b, mem, rfl⟩
    exact ⟨b, mem, by rw [Function.comp_apply, b.entryName?_text, if_neg some_]⟩

theorem mem_localNames_text {name : String} : name ∈ localNames (String.ofList d.text) ↔
    (name.toList ≠ [] ∧ name.toList ∈ d.read) ∨ name.toList ∈ d.others := by
  have spelled : name ∈ (declaredNames d.text).map String.ofList ↔ name.toList ∈ declaredNames d.text := by
    rw [List.mem_map]
    constructor
    · rintro ⟨letters, mem, rfl⟩
      rwa [String.toList_ofList]
    · exact fun mem => ⟨_, mem, String.ofList_toList⟩
  rw [mem_localNames, String.toList_ofList, spelled, declaredNames, patterns_text, List.flatMap_cons, others]
  simp only [List.mem_append, mem_entryNames]
  exact or_left_comm

/-- **What a declaration declares** is what it binds, besides what is declared without it, if and only if what
it misreads does no harm: what stands behind the colon of a default is a name that is declared anyway, or no
name, and the name in front of the default is read elsewhere. -/
theorem collected_iff (d : Destructuring) :
    (∀ name, name ∈ localNames (String.ofList d.text) ↔ name.toList ∈ d.bound ++ d.others) ↔
      ∀ b ∈ d.bindings, b.Misread →
        (b.stray = [] ∨ b.stray ∈ d.bound ++ d.others) ∧ b.bound ∈ d.read ++ d.others := by
  simp only [mem_localNames_text, List.mem_append]
  constructor
  · intro exact_ b mem misread
    have stray_read : b.stray ∈ d.read := List.mem_map.mpr ⟨b, mem, if_pos misread⟩
    have bound_mem : b.bound ∈ d.bound := List.mem_map.mpr ⟨b, mem, rfl⟩
    constructor
    · by_cases none_ : b.stray = []
      · exact .inl none_
      · have declared := (exact_ (String.ofList b.stray)).mp
        rw [String.toList_ofList] at declared
        exact .inr (declared (.inl ⟨none_, stray_read⟩))
    · have declared := (exact_ (String.ofList b.bound)).mpr
      rw [String.toList_ofList] at declared
      exact (declared (.inl bound_mem)).imp_left And.right
  · intro harmless name
    constructor
    · rintro (⟨some_, mem⟩ | other)
      · obtain ⟨b, b_mem, reads⟩ := List.mem_map.mp mem
        by_cases misread : b.Misread
        · have stray : b.stray = name.toList := (if_pos misread).symm.trans reads
          rcases (harmless b b_mem misread).1 with none_ | declared
          · exact absurd (stray.symm.trans none_) some_
          · rwa [stray] at declared
        · exact .inl (List.mem_map.mpr ⟨b, b_mem, (if_neg misread).symm.trans reads⟩)
      · exact .inr other
    · rintro (mem | other)
      · obtain ⟨b, b_mem, binds⟩ := List.mem_map.mp mem
        have some_ : name.toList ≠ [] := binds ▸ b.bound_ne_nil
        by_cases misread : b.Misread
        · have declared := (harmless b b_mem misread).2
          rw [binds] at declared
          exact declared.imp_left fun reads => ⟨some_, reads⟩
        · exact .inl ⟨some_, List.mem_map.mpr ⟨b, b_mem, (if_neg misread).trans binds⟩⟩
      · exact .inr other

end Destructuring

/-- a name whose default has a colon -/
def conditional : Destructuring where
  keyword := "const".toList
  gap := [' ']
  bindings := [⟨" Icon ".toList, none, some " small ? Dot : Disc ".toList, by decide, nofun, by decide⟩]
  gap' := [' ']
  object := " props;".toList
  keyword_ := by decide
  gap_ := by decide
  gap'_ := by decide
  closing_ := by decide

/-- the name is missed, and what stands behind the colon is declared -/
theorem collected_iff_conditional :
    conditional.text = "const \x7b Icon = small ? Dot : Disc \x7d = props;".toList ∧
      ¬∀ name, name ∈ localNames (String.ofList conditional.text) ↔
        name.toList ∈ conditional.bound ++ conditional.others := by
  have misread : ∀ b ∈ conditional.bindings, b.Misread := by decide
  have missed : ∀ b ∈ conditional.bindings, b.bound ∉ conditional.read ++ conditional.others := by decide
  refine ⟨by decide, fun exact_ => ?_⟩
  obtain ⟨b, mem⟩ : ∃ b, b ∈ conditional.bindings := ⟨_, List.mem_cons_self⟩
  exact missed b mem ((Destructuring.collected_iff conditional).mp exact_ b mem (misread b mem)).2

end SnippetStudio.Snippet
