import SnippetStudio.Proofs.Snippet.Entry
import SnippetStudio.Proofs.Snippet.Patterns
import SnippetStudio.Proofs.Text.Returns

/-!
# Declarations and the ends of lines

What a text declares does not depend on how its lines end: the search for the entry component and the collector
of names go by words, literals and blanks, and a return is a blank.  The return shows only in a name that runs
over a line feed, and the name of a tag does not.

* `definesEntry_crlf`, `definesLookalike_crlf`  the search for the entry component;
* `patterns_crlf`                               the insides of patterns, with their returns;
* `mem_inScope_crlf`                            **the same names of tags are in scope**.
-/

namespace SnippetStudio.Snippet

open Text

variable {name : List Char} {kws : List (List Char)}

theorem IsTagName.unbroken (tag : IsTagName name) : Unbroken name := by
  have plain : isWord '\r' = false ∧ isWord '\n' = false := by decide
  obtain ⟨d, w, rfl, capital, inside⟩ := tag
  have words : ∀ c ∈ d :: w, isWord c = true := List.forall_mem_cons.mpr ⟨isWord_of_isCapital capital, inside⟩
  intro c mem
  have word := words c mem
  constructor <;> rintro rfl <;> simp [plain] at word

/-! ## keywords and names -/

/-- keywords of one line -/
def Plain (kws : List (List Char)) : Prop := [] ∉ kws ∧ ∀ kw ∈ kws, Unbroken kw

instance (kws : List (List Char)) : Decidable (Plain kws) := inferInstanceAs (Decidable (_ ∧ _))

section
variable {test : List Char → Bool}

theorem followed_crlf (plain : Plain kws) (unbroken : Unbroken name) (even : ∀ s, test (crlf s) = test s)
    (l r : List Char) : ((keyword? kws ⟨(crlf l).reverse, crlf r⟩).bind (after? name)).any test =
      ((keyword? kws ⟨l.reverse, r⟩).bind (after? name)).any test := by
  rw [keyword?_crlf plain.2]
  cases keyword? kws ⟨l.reverse, r⟩ with
  | none => rfl
  | some s =>
    rw [Option.map_some, Option.bind_some, Option.bind_some, after?_crlf unbroken]
    cases after? name s with
    | none => rfl
    | some s => exact even s

theorem followed_feed (plain : Plain kws) (left r : List Char) :
    ((keyword? kws ⟨left, '\n' :: r⟩).bind (after? name)).any test = false := by
  rw [keyword?_feed plain.2 plain.1]
  rfl

end

theorem plain_typeWords : Plain typeWords := by decide

theorem plain_bindingWords : Plain bindingWords := by decide

theorem isNamed_crlf (plain : Plain kws) (unbroken : Unbroken name) (l r : List Char) :
    isNamed kws name ⟨(crlf l).reverse, crlf r⟩ = isNamed kws name ⟨l.reverse, r⟩ :=
  followed_crlf plain unbroken (fun s => by rw [startsWord_crlf]) l r

theorem isNamed_feed (plain : Plain kws) (left r : List Char) : isNamed kws name ⟨left, '\n' :: r⟩ = false :=
  followed_feed plain left r

theorem isSigned_feed {sign : Char} (left r : List Char) : isSigned sign name ⟨left, '\n' :: r⟩ = false :=
  followed_feed plain_bindingWords left r

theorem isSigned_crlf {sign : Char} (plain : Unbroken [sign]) (unbroken : Unbroken name) (l r : List Char) :
    isSigned sign name ⟨(crlf l).reverse, crlf r⟩ = isSigned sign name ⟨l.reverse, r⟩ :=
  followed_crlf plain_bindingWords unbroken (fun s => by rw [blanks_crlf, begins_crlf plain]) l r

theorem occurs_entry_crlf (plain : Plain kws) (unbroken : Unbroken name) (code : List Char) :
    occurs (fun x => isNamed kws name x || isBound name x) (crlf code) =
      occurs (fun x => isNamed kws name x || isBound name x) code := by
  refine occurs_crlf (fun left r => ?_) (fun l r => ?_) code
  · rw [Bool.or_eq_false_iff]
    exact ⟨isNamed_feed plain left r, isSigned_feed left r⟩
  · rw [isNamed_crlf plain unbroken]
    exact congrArg _ (isSigned_crlf (by decide) unbroken l r)

theorem definesEntry_crlf (code : List Char) :
    definesEntry entryName (crlf code) = definesEntry entryName code :=
  occurs_entry_crlf (by decide) (by decide) code

theorem definesLookalike_crlf (code : List Char) :
    definesLookalike lookalike (crlf code) = definesLookalike lookalike code :=
  occurs_entry_crlf (by decide) (by decide) code

theorem mem_definitions {code : List Char} : name ∈ definitions code ↔ IsTagName name ∧ ∃ x ∈ places code,
    (isNamed typeWords name x || isSigned '=' name x || isSigned ':' name x) = true := by
  have here (x : Place) : definition? x = some name ↔ IsTagName name ∧
      (isNamed typeWords name x || isSigned '=' name x || isSigned ':' name x) = true := by
    rw [definition?_eq_some, Bool.or_eq_true, Bool.or_eq_true, isNamed_iff solid_typeWords,
      isSigned_iff (by decide), isSigned_iff (by decide)]
    simp only [and_or_left, exists_or, or_assoc]
  rw [definitions, List.mem_filterMap]
  simp only [here]
  constructor
  · rintro ⟨x, mem, tag, found⟩
    exact ⟨tag, x, mem, found⟩
  · rintro ⟨tag, x, mem, found⟩
    exact ⟨x, mem, tag, found⟩

theorem mem_definitions_crlf (code : List Char) : name ∈ definitions (crlf code) ↔ name ∈ definitions code := by
  rw [mem_definitions, mem_definitions]
  refine and_congr_right fun tag => exists_place_crlf (fun left r => ?_) fun l r => ?_
  · rw [isNamed_feed plain_typeWords, isSigned_feed, isSigned_feed]
    exact Bool.false_ne_true
  · rw [isNamed_crlf plain_typeWords tag.unbroken, isSigned_crlf (by decide) tag.unbroken,
      isSigned_crlf (by decide) tag.unbroken]

/-! ## patterns -/

theorem taken?_crlf (s : List Char) : taken? (crlf s) = (taken? s).map (Prod.map crlf crlf) := by
  rw [taken?, taken?, blanks_crlf, after?_crlf (by decide)]
  cases after? ['\x7b'] (blanks s) with
  | none => rfl
  | some s =>
    rw [Option.map_some, Option.bind_some, Option.bind_some, cutOnce_crlf (by decide)]
    obtain ⟨inside, _ | t⟩ := cutOnce '\x7d' s
    · rfl
    · show ((after? ['='] (blanks (crlf t))).map fun rest => (crlf inside, rest)) =
        ((after? ['='] (blanks t)).map fun rest => (inside, rest)).map (Prod.map crlf crlf)
      rw [blanks_crlf, after?_crlf (by decide), Option.map_map, Option.map_map]
      rfl

theorem pattern?_crlf {left left' s : List Char}
    (alike : Place.isFresh ⟨left', crlf s⟩ = Place.isFresh ⟨left, s⟩) :
    pattern? ⟨left', crlf s⟩ = (pattern? ⟨left, s⟩).map (Prod.map crlf crlf) := by
  have read : ∀ kw ∈ bindingWords, (after? kw (crlf s)).bind taken? =
      ((after? kw s).bind taken?).map (Prod.map crlf crlf) := by
    intro kw mem
    rw [after?_crlf (plain_bindingWords.2 kw mem)]
    cases after? kw s with
    | none => rfl
    | some s => exact taken?_crlf s
  rw [pattern?_eq, pattern?_eq, alike]
  split
  · exact findSome?_map read
  · rfl

theorem pattern?_feed (left s : List Char) : pattern? ⟨left, '\n' :: s⟩ = none := by
  simp [pattern?, bindingWords, after?]

theorem patternsFrom_crlf {n m : Nat} {left left' s : List Char}
    (alike : Place.isFresh ⟨left', crlf s⟩ = Place.isFresh ⟨left, s⟩) (enough : s.length < n)
    (enough' : (crlf s).length < m) : patternsFrom m left' (crlf s) = (patternsFrom n left s).map crlf := by
  -- on the steps of the text without returns; at a line feed the other text takes two
  induction n generalizing m left left' s with
  | zero => exact absurd enough (Nat.not_lt_zero _)
  | succ n ih =>
    obtain ⟨m, rfl⟩ := Nat.exists_eq_add_one_of_ne_zero (Nat.ne_zero_of_lt enough')
    have found' := pattern?_crlf alike
    cases found : pattern? ⟨left, s⟩ with
    | some taken =>
      obtain ⟨inside, rest⟩ := taken
      rw [found] at found'
      have shorter := length_of_pattern? found
      have shorter' := length_of_pattern? found'
      have behind : patternsFrom m ('=' :: left') (crlf rest) = (patternsFrom n ('=' :: left) rest).map crlf :=
        ih rfl (by omega) (by omega)
      rw [patternsFrom_of_found found, patternsFrom_of_found found', List.map_cons, behind]
    | none =>
      rw [found] at found'
      cases s with
      | nil =>
        rw [crlf_nil] at found' ⊢
        simp only [patternsFrom, found, found', Option.map_none, List.map_nil]
      | cons c s =>
        rw [patternsFrom_of_none found]
        by_cases feed : c = '\n'
        · subst feed
          rw [crlf_feed, List.length_cons, List.length_cons] at enough'
          obtain ⟨m, rfl⟩ := Nat.exists_eq_add_one_of_ne_zero (n := m) (by omega)
          rw [crlf_feed] at found' ⊢
          rw [patternsFrom_of_none found', patternsFrom_of_none (pattern?_feed _ _)]
          exact ih rfl (by simpa using enough) (by omega)
        · rw [crlf_cons feed] at found' enough' ⊢
          rw [patternsFrom_of_none found']
          exact ih rfl (by simpa using enough) (by simpa using enough')

theorem patterns_crlf (code : List Char) : patterns (crlf code) = (patterns code).map crlf :=
  patternsFrom_crlf rfl (Nat.lt_succ_self _) (Nat.lt_succ_self _)

/-! ## entries of patterns -/

theorem boundPart_crlf (entry : List Char) : boundPart (crlf entry) = crlf (boundPart entry) := by
  have chosen : (cutOnce ':' (crlf entry)).2.getD (cutOnce ':' (crlf entry)).1 =
      crlf ((cutOnce ':' entry).2.getD (cutOnce ':' entry).1) := by
    rw [cutOnce_crlf (by decide)]
    obtain ⟨front, _ | rest⟩ := cutOnce ':' entry <;> rfl
  rw [boundPart, boundPart, chosen, upTo_crlf (by decide), trim_crlf]

theorem entryName?_crlf (entry : List Char) : entryName? (crlf entry) = (entryName? entry).map crlf := by
  rw [entryName?_eq, entryName?_eq, trim_crlf, boundPart_crlf, isEmpty_crlf, isEmpty_crlf,
    begins_crlf (by decide)]
  split <;> rfl

theorem entryNames_crlf (inside : List Char) : entryNames (crlf inside) = (entryNames inside).map crlf := by
  rw [entryNames, entryNames, cut_crlf (by decide), List.filterMap_map, List.map_filterMap]
  exact congrArg (List.filterMap · (cut ',' inside)) (funext entryName?_crlf)

theorem mem_map_crlf {names : List (List Char)} (unbroken : Unbroken name) :
    name ∈ names.map crlf ↔ name ∈ names := by
  have free : '\n' ∉ name := fun mem => (unbroken _ mem).2 rfl
  rw [List.mem_map]
  constructor
  · rintro ⟨other, mem, rfl⟩
    rw [mem_crlf_of_ne (by decide)] at free
    rwa [crlf_of_not_mem free]
  · exact fun mem => ⟨name, mem, crlf_of_not_mem free⟩

theorem mem_declaredNames_crlf {code : List Char} (unbroken : Unbroken name) :
    name ∈ declaredNames (crlf code) ↔ name ∈ declaredNames code := by
  have taken : (patterns (crlf code)).flatMap entryNames = ((patterns code).flatMap entryNames).map crlf := by
    rw [patterns_crlf, List.flatMap_map, List.map_flatMap]
    exact congrArg (List.flatMap · (patterns code)) (funext entryNames_crlf)
  rw [declaredNames, declaredNames, List.mem_append, List.mem_append, mem_definitions_crlf, taken,
    mem_map_crlf unbroken]

/-- **Line ends do not change which tags are known.** -/
theorem mem_inScope_crlf {caps : Capabilities} {code : List Char} {tag : String}
    (isName : IsTagName tag.toList) : tag ∈ inScope caps (crlf code) ↔ tag ∈ inScope caps code := by
  have read (names : List (List Char)) : tag ∈ names.map String.ofList ↔ tag.toList ∈ names := by
    rw [List.mem_map]
    constructor
    · rintro ⟨name, mem, rfl⟩
      rwa [String.toList_ofList]
    · exact fun mem => ⟨_, mem, String.ofList_toList⟩
  simp only [inScope, List.mem_append, read, mem_declaredNames_crlf isName.unbroken]

end SnippetStudio.Snippet
