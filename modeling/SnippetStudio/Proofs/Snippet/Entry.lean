import SnippetStudio.Proofs.Snippet.Findings
import SnippetStudio.Proofs.Text.Reading

/-!
# The entry component and the collector of names

Two readers know what a declaration is: the collector of the names that a snippet declares (`definition?`) and
the search for the entry component (`isNamed`, `isBound`).  Both see a keyword and the whole name behind it
(`DeclaredAt`); they differ in what may follow the name of a variable, an equals sign or a colon for the
collector, nothing but the equals sign for the search.

* `keyword?_eq_some`     what stands where a keyword is read;
* `definition?_eq_some`  the collector in these terms;
* `isNamed_iff`, `isBound_iff`  the search in these terms;
* `entry_missed_iff`     **the entry component is missed just where the collector sees nothing but
                         variables with a type**.
-/

namespace SnippetStudio.Snippet

open Text

variable {kws kws' : List (List Char)} {x : Place} {name behind behind' : List Char}

/-! ## keywords -/

/-- words without blanks -/
def Solid (kws : List (List Char)) : Prop := ∀ kw ∈ kws, ∀ c ∈ kw, isBlank c = false

instance (kws : List (List Char)) : Decidable (Solid kws) :=
  decidable_of_iff (kws.all fun kw => kw.all fun c => !isBlank c) (by simp [Solid])

/-- at the place stands one of the keywords and, behind blanks, the text `behind` -/
def KeywordAt (kws : List (List Char)) (behind : List Char) (x : Place) : Prop :=
  x.isFresh = true ∧ Stops isBlank behind ∧
    ∃ kw ∈ kws, ∃ gap, gap ≠ [] ∧ Blanks gap ∧ x.rest = kw ++ (gap ++ behind)

theorem takeWhile_keyword {kw gap : List Char} (solid : ∀ c ∈ kw, isBlank c = false) (some_ : gap ≠ [])
    (gap_ : Blanks gap) : (kw ++ (gap ++ behind)).takeWhile (fun c => !isBlank c) = kw := by
  obtain ⟨c, gap, rfl⟩ := List.exists_cons_of_ne_nil some_
  have inside : ∀ c ∈ kw, (!isBlank c) = true := fun c mem => by rw [solid c mem]; rfl
  have stops : Stops (fun c => !isBlank c) (c :: (gap ++ behind)) :=
    stops_cons.mpr (by rw [gap_ c List.mem_cons_self]; rfl)
  exact takeWhile_run inside stops

/-- at one place stands one keyword, with one text behind it -/
theorem KeywordAt.both (solid : Solid kws) (solid' : Solid kws') (here : KeywordAt kws behind x)
    (here' : KeywordAt kws' behind' x) : behind = behind' ∧ KeywordAt (kws.filter (· ∈ kws')) behind x := by
  obtain ⟨fresh, stops, kw, mem, gap, some_, gap_, rest⟩ := here
  obtain ⟨-, stops', kw', mem', gap', some', gap'_, rest'⟩ := here'
  have same : kw = kw' := by
    have front : (kw ++ (gap ++ behind)).takeWhile (fun c => !isBlank c) = kw :=
      takeWhile_keyword (solid kw mem) some_ gap_
    rw [← rest, rest', takeWhile_keyword (solid' kw' mem') some' gap'_] at front
    exact front.symm
  subst same
  have both : kw ∈ kws.filter (· ∈ kws') := List.mem_filter.mpr ⟨mem, decide_eq_true mem'⟩
  refine ⟨?_, fresh, stops, kw, both, gap, some_, gap_, rest⟩
  rw [rest, List.append_cancel_left_eq] at rest'
  rw [← blanks_run gap_ stops, rest', blanks_run gap'_ stops']

/-- no keyword is of two lists without a common word -/
theorem KeywordAt.apart (solid : Solid kws) (solid' : Solid kws') (none_ : kws.filter (· ∈ kws') = [])
    (here : KeywordAt kws behind x) : ¬KeywordAt kws' behind' x := by
  intro here'
  obtain ⟨-, -, kw, mem, -⟩ := (here.both solid solid' here').2
  rw [none_] at mem
  cases mem

theorem KeywordAt.mono (here : KeywordAt kws behind x) (among : ∀ kw ∈ kws, kw ∈ kws') :
    KeywordAt kws' behind x := by
  obtain ⟨fresh, stops, kw, mem, found⟩ := here
  exact ⟨fresh, stops, kw, among kw mem, found⟩

theorem keyword?_eq_some (solid : Solid kws) : keyword? kws x = some behind ↔ KeywordAt kws behind x := by
  have read {kw s : List Char} : (after? kw x.rest).bind blanks1? = some s ↔
      Stops isBlank s ∧ ∃ gap, gap ≠ [] ∧ Blanks gap ∧ x.rest = kw ++ (gap ++ s) := by
    simp only [Option.bind_eq_some_iff, after?_eq_some, blanks1?_eq_some]
    constructor
    · rintro ⟨_, rest, gap, some_, gap_, rfl, stops⟩
      exact ⟨stops, gap, some_, gap_, rest⟩
    · rintro ⟨stops, gap, some_, gap_, rest⟩
      exact ⟨gap ++ s, rest, gap, some_, gap_, rfl, stops⟩
  have sound {s : List Char} (found : keyword? kws x = some s) : KeywordAt kws s x := by
    unfold keyword? at found
    split at found
    · next fresh =>
      obtain ⟨kw, mem, here⟩ := List.exists_of_findSome?_eq_some found
      exact ⟨fresh, (read.mp here).1, kw, mem, (read.mp here).2⟩
    · cases found
  refine ⟨sound, fun here => ?_⟩
  obtain ⟨fresh, stops, kw, mem, found⟩ := id here
  have some_ : (keyword? kws x).isSome = true := by
    rw [keyword?, if_pos fresh, List.findSome?_isSome_iff]
    exact ⟨kw, mem, by rw [read.mpr ⟨stops, found⟩]; rfl⟩
  obtain ⟨s, hs⟩ := Option.isSome_iff_exists.mp some_
  rw [hs, ((sound hs).both solid solid here).1]

/-! ## declarations -/

/-- a keyword and the whole name behind it; `behind` follows -/
def DeclaredAt (kws : List (List Char)) (name behind : List Char) (x : Place) : Prop :=
  KeywordAt kws (name ++ behind) x ∧ Stops isWord behind

/-- the text goes on with the sign, blanks in front of it left out of account -/
def Meets (sign : Char) (behind : List Char) : Prop := (blanks behind).head? = some sign

theorem Meets.stops {sign : Char} (other : isWord sign = false) (meets : Meets sign behind) :
    Stops isWord behind := by
  obtain ⟨gap, gap_, whole, -⟩ := exists_blanks behind
  rw [whole]
  cases gap with
  | nil =>
    intro c first
    rw [List.nil_append, show (blanks behind).head? = some sign from meets] at first
    rwa [← Option.some.inj first]
  | cons d gap => exact stops_cons.mpr (isWord_of_isBlank (gap_ d List.mem_cons_self))

theorem solid_typeWords : Solid typeWords := by decide

theorem solid_bindingWords : Solid bindingWords := by decide

theorem typeName?_eq_some : typeName? x = some name ↔
    IsTagName name ∧ ∃ behind, DeclaredAt typeWords name behind x := by
  simp only [typeName?, Option.bind_eq_some_iff, Option.map_eq_some_iff, keyword?_eq_some solid_typeWords]
  constructor
  · rintro ⟨_, here, ⟨_, behind⟩, named, rfl⟩
    obtain ⟨rfl, tag, stops⟩ := name?_eq_some.mp named
    exact ⟨tag, behind, here, stops⟩
  · rintro ⟨tag, behind, here, stops⟩
    exact ⟨_, here, (name, behind), name?_eq_some.mpr ⟨rfl, tag, stops⟩, rfl⟩

theorem meets_iff {sign : Char} : Meets sign behind ↔ ∃ s, blanks behind = sign :: s :=
  List.head?_eq_some_iff

theorem boundName?_eq_some : boundName? x = some name ↔ IsTagName name ∧
    ∃ behind, DeclaredAt bindingWords name behind x ∧ (Meets '=' behind ∨ Meets ':' behind) := by
  constructor
  · intro bound
    obtain ⟨_, here, bound⟩ := Option.bind_eq_some_iff.mp bound
    obtain ⟨⟨_, behind⟩, named, signed⟩ := Option.bind_eq_some_iff.mp bound
    obtain ⟨rfl, tag, stops⟩ := name?_eq_some.mp named
    have declared := (keyword?_eq_some solid_bindingWords).mp here
    split at signed
    · next s sign =>
      cases signed
      exact ⟨tag, behind, ⟨declared, stops⟩, .inl (meets_iff.mpr ⟨s, sign⟩)⟩
    · next s sign =>
      cases signed
      exact ⟨tag, behind, ⟨declared, stops⟩, .inr (meets_iff.mpr ⟨s, sign⟩)⟩
    · cases signed
  · rintro ⟨tag, behind, ⟨declared, stops⟩, meets⟩
    have here := (keyword?_eq_some solid_bindingWords).mpr declared
    have named : name? (name ++ behind) = some (name, behind) := name?_eq_some.mpr ⟨rfl, tag, stops⟩
    rw [boundName?, here, Option.bind_some, named, Option.bind_some]
    rcases meets with meets | meets <;> obtain ⟨s, sign⟩ := meets_iff.mp meets <;> simp only [sign]

theorem typeName?_eq_none (bound : DeclaredAt bindingWords name behind x) : typeName? x = none := by
  cases typed : typeName? x with
  | none => rfl
  | some other =>
    obtain ⟨-, behind', typed, -⟩ := typeName?_eq_some.mp typed
    exact absurd bound.1 (typed.apart solid_typeWords solid_bindingWords (by decide))

theorem definition?_eq_some : definition? x = some name ↔ IsTagName name ∧
    ((∃ behind, DeclaredAt typeWords name behind x) ∨
      ∃ behind, DeclaredAt bindingWords name behind x ∧ (Meets '=' behind ∨ Meets ':' behind)) := by
  rw [definition?, Option.or_eq_some_iff, typeName?_eq_some, boundName?_eq_some]
  constructor
  · rintro (⟨tag, typed⟩ | ⟨-, tag, bound⟩)
    · exact ⟨tag, .inl typed⟩
    · exact ⟨tag, .inr bound⟩
  · rintro ⟨tag, typed | ⟨behind, bound, meets⟩⟩
    · exact .inl ⟨tag, typed⟩
    · exact .inr ⟨typeName?_eq_none bound, tag, behind, bound, meets⟩

/-! ## the search for the entry component -/

theorem isNamed_iff (solid : Solid kws) : isNamed kws name x = true ↔
    ∃ behind, DeclaredAt kws name behind x := by
  have ends {s : List Char} : (!startsWord s) = true ↔ Stops isWord s := by
    cases s with
    | nil => simp [startsWord, Stops]
    | cons c s => rw [stops_cons, startsWord, Bool.not_eq_true']
  simp only [isNamed, Option.any_eq_true, Option.bind_eq_some_iff, keyword?_eq_some solid, after?_eq_some, ends]
  constructor
  · rintro ⟨behind, ⟨_, here, rfl⟩, stops⟩
    exact ⟨behind, here, stops⟩
  · rintro ⟨behind, here, stops⟩
    exact ⟨behind, ⟨_, here, rfl⟩, stops⟩

/-- a variable of the name, the sign behind it -/
def isSigned (sign : Char) (name : List Char) (x : Place) : Bool :=
  ((keyword? bindingWords x).bind (after? name)).any fun s => begins [sign] (blanks s)

theorem isSigned_iff {sign : Char} (other : isWord sign = false) : isSigned sign name x = true ↔
    ∃ behind, DeclaredAt bindingWords name behind x ∧ Meets sign behind := by
  have met {s : List Char} : begins [sign] (blanks s) = true ↔ Meets sign s := by
    rw [begins_iff, meets_iff]
    rfl
  simp only [isSigned, Option.any_eq_true, Option.bind_eq_some_iff, keyword?_eq_some solid_bindingWords,
    after?_eq_some, met]
  constructor
  · rintro ⟨behind, ⟨_, here, rfl⟩, meets⟩
    exact ⟨behind, ⟨here, meets.stops other⟩, meets⟩
  · rintro ⟨behind, ⟨here, -⟩, meets⟩
    exact ⟨behind, ⟨_, here, rfl⟩, meets⟩

/-- the search wants the equals sign -/
theorem isBound_iff : isBound name x = true ↔
    ∃ behind, DeclaredAt bindingWords name behind x ∧ Meets '=' behind :=
  isSigned_iff (by decide)

/-! ## the two readers -/

def callableWords : List (List Char) := ["function".toList, "class".toList]

def valueWords : List (List Char) := callableWords ++ bindingWords

/-- the collector sees a function, a class or a variable of the name -/
def Declares (name : List Char) (x : Place) : Prop :=
  definition? x = some name ∧ (keyword? valueWords x).isSome = true

/-- a variable of the name with a type -/
def isAnnotated (name : List Char) (x : Place) : Bool := isSigned ':' name x

theorem isAnnotated_iff : isAnnotated name x = true ↔
    ∃ behind, DeclaredAt bindingWords name behind x ∧ Meets ':' behind :=
  isSigned_iff (by decide)

theorem solid_callableWords : Solid callableWords := by decide

theorem solid_valueWords : Solid valueWords := by decide

theorem declares_iff (tag : IsTagName name) : Declares name x ↔
    isNamed callableWords name x = true ∨ isBound name x = true ∨ isAnnotated name x = true := by
  rw [isNamed_iff solid_callableWords, isBound_iff, isAnnotated_iff, ← exists_or]
  simp only [Declares, definition?_eq_some, Option.isSome_iff_exists, keyword?_eq_some solid_valueWords,
    ← and_or_left]
  constructor
  · rintro ⟨⟨-, ⟨behind, typed, stops⟩ | bound⟩, _, valued⟩
    · have both : typeWords.filter (· ∈ valueWords) = callableWords := by decide
      exact .inl ⟨behind, both ▸ (typed.both solid_typeWords solid_valueWords valued).2, stops⟩
    · exact .inr bound
  · rintro (⟨behind, called, stops⟩ | ⟨behind, bound, meets⟩)
    · exact ⟨⟨tag, .inl ⟨behind, called.mono (by decide), stops⟩⟩, _, called.mono (by decide)⟩
    · exact ⟨⟨tag, .inr ⟨behind, bound, meets⟩⟩, _, bound.1.mono (by decide)⟩

/-- where the name of a variable has a type, the search sees nothing -/
theorem isAnnotated_alone (annotated : isAnnotated name x = true) :
    isNamed callableWords name x = false ∧ isBound name x = false := by
  obtain ⟨behind, ⟨here, -⟩, colon⟩ := isAnnotated_iff.mp annotated
  constructor <;> rw [← Bool.not_eq_true]
  · intro named
    obtain ⟨_, called, -⟩ := (isNamed_iff solid_callableWords).mp named
    exact here.apart solid_bindingWords solid_callableWords (by decide) called
  · intro bound
    obtain ⟨behind', ⟨here', -⟩, equals⟩ := isBound_iff.mp bound
    have same := (here.both solid_bindingWords solid_bindingWords here').1
    rw [List.append_cancel_left_eq] at same
    subst same
    have signs : ':' = '=' := Option.some.inj (colon.symm.trans equals)
    revert signs
    decide

theorem isTagName_entryName : IsTagName entryName := by
  have inside : "review".toList.all isWord = true := by decide
  exact ⟨'P', "review".toList, rfl, by decide, List.all_eq_true.mp inside⟩

section
variable {code : String} (caps : Capabilities)

theorem nonblank_of_declares (mem : x ∈ places code.toList) (declares : Declares name x) :
    trim code.toList ≠ [] := by
  obtain ⟨⟨c, w, rfl, capital, -⟩, typed_or_bound⟩ := definition?_eq_some.mp declares.1
  have at_ : ∃ kws behind, DeclaredAt kws (c :: w) behind x := by
    rcases typed_or_bound with ⟨behind, typed⟩ | ⟨behind, bound, -⟩
    · exact ⟨_, behind, typed⟩
    · exact ⟨_, behind, bound⟩
  have inside : c ∈ code.toList := by
    obtain ⟨kws, behind, ⟨-, -, kw, -, gap, -, -, rest⟩, -⟩ := at_
    rw [← mem_places.mp mem, rest]
    simp
  exact trim_ne_nil inside (isBlank_of_isWord (isWord_of_isCapital capital))

theorem missed_iff (nonblank : trim code.toList ≠ []) :
    (∃ f ∈ (lint code caps).errors, f.cause = .missingEntry ∨ f.cause = .misspelledEntry) ↔
      ∀ x ∈ places code.toList, isNamed callableWords entryName x = false ∧ isBound entryName x = false := by
  have unseen : definesEntry entryName code.toList = false ↔
      ∀ x ∈ places code.toList, isNamed callableWords entryName x = false ∧ isBound entryName x = false := by
    rw [definesEntry, occurs, List.any_eq_false]
    simp only [Bool.not_eq_true, Bool.or_eq_false_iff]
    rfl
  rw [← unseen]
  constructor
  · rintro ⟨f, mem, missed⟩
    have of_entry : f.cause.check = some .entry := by rcases missed with cause | cause <;> rw [cause] <;> rfl
    have found : f ∈ (lint code caps).errors.filter (·.cause.check = some .entry) :=
      List.mem_filter.mpr ⟨mem, decide_eq_true of_entry⟩
    rw [filter_errors caps nonblank] at found
    exact (mem_checkEntry.mp found).1
  · intro none
    refine ⟨⟨0, if definesLookalike lookalike code.toList then .misspelledEntry else .missingEntry⟩, ?_, ?_⟩
    · exact (mem_errors caps nonblank).mpr ⟨.entry, mem_checkEntry.mpr ⟨none, rfl, rfl⟩⟩
    · split
      · exact .inr rfl
      · exact .inl rfl

/-- **Which declared entry components are missed.**  Where the collector sees a function, a class or a variable
of the entry's name, the linter says that there is none just if all that it sees are variables with a type. -/
theorem entry_missed_iff (found : ∃ x ∈ places code.toList, Declares entryName x) :
    (∃ f ∈ (lint code caps).errors, f.cause = .missingEntry ∨ f.cause = .misspelledEntry) ↔
      ∀ x ∈ places code.toList, Declares entryName x → isAnnotated entryName x = true := by
  obtain ⟨y, there, declared⟩ := found
  rw [missed_iff caps (nonblank_of_declares there declared)]
  constructor
  · intro unseen x mem declares
    obtain ⟨unnamed, unbound⟩ := unseen x mem
    rw [declares_iff isTagName_entryName, unnamed, unbound] at declares
    simpa using declares
  · intro annotated x mem
    by_cases sees : isNamed callableWords entryName x = true ∨ isBound entryName x = true
    · have declares := (declares_iff isTagName_entryName).mpr (or_assoc.mp (.inl sees))
      exact isAnnotated_alone (annotated x mem declares)
    · rw [not_or, Bool.not_eq_true, Bool.not_eq_true] at sees
      exact sees

/-- a component with its type is missed -/
theorem entry_missed_iff_typed : ∃ f ∈ (lint "const Preview: FC = () => null;" cardOnly).errors,
    f.cause = .missingEntry ∨ f.cause = .misspelledEntry := by
  have declared : Declares entryName ⟨[], "const Preview: FC = () => null;".toList⟩ := ⟨by decide, by decide⟩
  have annotated : ∀ x ∈ places "const Preview: FC = () => null;".toList,
      definition? x = some entryName → isAnnotated entryName x = true := by decide
  exact (entry_missed_iff cardOnly ⟨_, List.mem_cons_self, declared⟩).mpr fun x mem declares =>
    annotated x mem declares.1

end

end SnippetStudio.Snippet
