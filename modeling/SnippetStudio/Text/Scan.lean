import SnippetStudio.Text.Blank
import SnippetStudio.Text.Word

/-!
# Looking for something in a text

A *place* of a text cuts it in two (`Place`): the characters on the left, the nearest one first,
and the rest.  `places` lists the places from left to right, the one behind the last character
included; a recogniser looks at one place, and `occurs` asks for a place at which it says yes.

Recognisers are put together from
* `after? lit s`       the rest of `s` behind the literal `lit`,
* `afterFolded? lit s` the same with letter case ignored,
* `blanks s`           the rest behind all blanks, `blanks1? s` behind at least one,
* `name? s`            a capitalised name and the rest behind it.
-/

namespace SnippetStudio.Text

structure Place where
  /-- what stands on the left, nearest first -/
  left : List Char
  rest : List Char
deriving Repr, DecidableEq

def placesFrom (left : List Char) : List Char → List Place
  | [] => [⟨left, []⟩]
  | c :: s => ⟨left, c :: s⟩ :: placesFrom (c :: left) s

/-- every place of a text, left to right -/
def places (s : List Char) : List Place := placesFrom [] s

def occurs (p : Place → Bool) (s : List Char) : Bool := (places s).any p

theorem mem_placesFrom {l s : List Char} {x : Place} :
    x ∈ placesFrom l s ↔ ∃ u, u ++ x.rest = s ∧ x.left = u.reverse ++ l := by
  induction s generalizing l with
  | nil =>
    obtain ⟨x1, x2⟩ := x
    simp only [placesFrom, List.mem_singleton, Place.mk.injEq]
    constructor
    · rintro ⟨rfl, rfl⟩; exact ⟨[], rfl, rfl⟩
    · rintro ⟨u, h, e⟩
      obtain ⟨rfl, rfl⟩ := List.append_eq_nil_iff.1 h
      exact ⟨by simpa using e, rfl⟩
  | cons c s ih =>
    obtain ⟨x1, x2⟩ := x
    simp only [placesFrom, List.mem_cons, Place.mk.injEq, ih]
    constructor
    · rintro (⟨rfl, rfl⟩ | ⟨u, h, e⟩)
      · exact ⟨[], rfl, rfl⟩
      · exact ⟨c :: u, by simp [h], by simp [e]⟩
    · rintro ⟨u, h, e⟩
      cases u with
      | nil => left; exact ⟨by simpa using e, by simpa using h⟩
      | cons d u =>
        simp only [List.cons_append, List.cons.injEq] at h
        obtain ⟨rfl, h⟩ := h
        exact Or.inr ⟨u, h, by simp [e]⟩

theorem mem_places {s : List Char} {x : Place} : x ∈ places s ↔ x.left.reverse ++ x.rest = s := by
  simp only [places, mem_placesFrom, List.append_nil]
  constructor
  · rintro ⟨u, h, e⟩; simp [e, h]
  · intro h; exact ⟨x.left.reverse, h, by simp⟩

theorem occurs_iff {p : Place → Bool} {s : List Char} :
    occurs p s = true ↔ ∃ u v, u.reverse ++ v = s ∧ p ⟨u, v⟩ = true := by
  simp only [occurs, List.any_eq_true, mem_places]
  exact ⟨fun ⟨⟨u, v⟩, h, hp⟩ => ⟨u, v, h, hp⟩, fun ⟨u, v, h, hp⟩ => ⟨⟨u, v⟩, h, hp⟩⟩

namespace Place

/-- no word character stands on the left -/
def isFresh (x : Place) : Bool := !(x.left.head?.any isWord)

end Place

/-- the rest behind a literal -/
def after? : List Char → List Char → Option (List Char)
  | [], s => some s
  | _ :: _, [] => none
  | l :: ls, c :: s => if c = l then after? ls s else none

theorem after?_eq_some {lit s r : List Char} : after? lit s = some r ↔ s = lit ++ r := by
  induction lit generalizing s with
  | nil => simp [after?]
  | cons l ls ih =>
    cases s with
    | nil => simp [after?]
    | cons c s =>
      by_cases h : c = l
      · subst h; simp [after?, ih]
      · simp [after?, h]

theorem after?_append (lit r : List Char) : after? lit (lit ++ r) = some r :=
  after?_eq_some.2 rfl

/-- the text begins with a literal -/
def begins (lit s : List Char) : Bool := (after? lit s).isSome

theorem begins_iff {lit s : List Char} : begins lit s = true ↔ ∃ r, s = lit ++ r := by
  simp [begins, Option.isSome_iff_exists, after?_eq_some]

/-- a literal stands somewhere in the text -/
def contains (lit s : List Char) : Bool := occurs (fun x => begins lit x.rest) s

theorem contains_iff {lit s : List Char} : contains lit s = true ↔ ∃ u r, s = u ++ lit ++ r := by
  simp only [contains, occurs_iff, begins_iff]
  constructor
  · rintro ⟨u, _, h, r, rfl⟩; exact ⟨u.reverse, r, by simp [← h]⟩
  · rintro ⟨u, r, rfl⟩; exact ⟨u.reverse, lit ++ r, by simp, r, rfl⟩

/-- A small letter is met by itself, by its capital, and by the few letters elsewhere that share
its capital or small form: the dotted and the dotless i, the kelvin sign, the long s. -/
def meets (l c : Char) : Bool :=
  c == l || c.toLower == l ||
    (l == 'i' && (c == '\u0130' || c == '\u0131')) ||
    (l == 'k' && c == '\u212A') ||
    (l == 's' && c == '\u017F')

/-- the rest behind a literal of small letters, letter case ignored -/
def afterFolded? : List Char → List Char → Option (List Char)
  | [], s => some s
  | _ :: _, [] => none
  | l :: ls, c :: s => if meets l c then afterFolded? ls s else none

def blanks (s : List Char) : List Char := s.dropWhile isBlank

/-- the rest behind one blank or more -/
def blanks1? : List Char → Option (List Char)
  | [] => none
  | c :: s => if isBlank c then some (blanks s) else none

/-- the longest run of word characters, and the rest -/
def word (s : List Char) : List Char × List Char := (s.takeWhile isWord, s.dropWhile isWord)

/-- a capitalised name and the rest behind it -/
def name? : List Char → Option (List Char × List Char)
  | [] => none
  | c :: s => if isCapital c then some (c :: (word s).1, (word s).2) else none

theorem name?_append {s n r : List Char} (h : name? s = some (n, r)) : n ++ r = s := by
  cases s with
  | nil => simp [name?] at h
  | cons c s =>
    simp only [name?] at h
    split at h
    · cases h; simp [word]
    · cases h

/-- the rest behind one of the keywords and the blanks that must follow it, where no word runs
into the keyword from the left -/
def keyword? (kws : List (List Char)) (x : Place) : Option (List Char) :=
  if x.isFresh then kws.findSome? fun k => (after? k x.rest).bind blanks1? else none

end SnippetStudio.Text
