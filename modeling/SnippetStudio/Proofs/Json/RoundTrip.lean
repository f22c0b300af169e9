import SnippetStudio.Proofs.Json.Numbers
import SnippetStudio.Proofs.Json.Strings

/-!
# Values read back

A value is written on one line and read back as it was, each number with a point as the text that was written
for it (`tokens`).  Every value has its own text behind which reading stops (`Reads`); containers are read
item by item and field by field, where no two fields have one key (`Tree.Distinct`).

* `atom_word`, `atom_int`, `atom_real`  words and numbers;
* `items_write`, `fields_write`         what stands between brackets and between braces;
* `reads_of_distinct`                   every value, by induction on how it is built;
* `readWithin_write`                    **a whole text, within limits that the value keeps to**;
* `readFreely_write`                    **a whole text of any size**;
* `isPlain_write`                       the text is visible ASCII.
-/

namespace SnippetStudio.Json

open Text

variable {ρ σ : Type} {r : Reals ρ} {most n depth : Nat} {rest s : List Char} {v : Tree ρ}

/-! ## Values with other numbers -/

mutual

/-- a value with its numbers with a point replaced -/
def Tree.map (f : ρ → σ) : Tree ρ → Tree σ
  | .null => .null
  | .bool b => .bool b
  | .int n => .int n
  | .real x => .real (f x)
  | .str s => .str s
  | .arr xs => .arr (mapItems f xs)
  | .obj fs => .obj (mapFields f fs)

def mapItems (f : ρ → σ) : List (Tree ρ) → List (Tree σ)
  | [] => []
  | x :: xs => x.map f :: mapItems f xs

def mapFields (f : ρ → σ) : List (String × Tree ρ) → List (String × Tree σ)
  | [] => []
  | x :: xs => (x.1, x.2.map f) :: mapFields f xs

end

/-- numbers that are their own texts -/
def tokens : Reals (List Char) where
  write := id
  read := id

/-- no object has two fields of one key -/
inductive Tree.Distinct : Tree ρ → Prop
  | null : Distinct .null
  | bool (b : Bool) : Distinct (.bool b)
  | int (n : Int) : Distinct (.int n)
  | real (x : ρ) : Distinct (.real x)
  | str (s : String) : Distinct (.str s)
  | arr {xs : List (Tree ρ)} (items : ∀ x ∈ xs, Distinct x) : Distinct (.arr xs)
  | obj {fs : List (String × Tree ρ)} (nodup : (keys fs).Nodup) (values : ∀ f ∈ fs, Distinct f.2) :
    Distinct (.obj fs)

/-- whole numbers have at most so many digits, and so many containers at most stand one inside the other -/
inductive Tree.Within (most : Nat) : Nat → Tree ρ → Prop
  | null {depth : Nat} : Within most depth .null
  | bool {depth : Nat} (b : Bool) : Within most depth (.bool b)
  | int {depth : Nat} {n : Int} (few : (Nat.toDigits 10 n.natAbs).length ≤ most) : Within most depth (.int n)
  | real {depth : Nat} (x : ρ) : Within most depth (.real x)
  | str {depth : Nat} (s : String) : Within most depth (.str s)
  | arr {depth : Nat} {xs : List (Tree ρ)} (items : ∀ x ∈ xs, Within most depth x) :
    Within most (depth + 1) (.arr xs)
  | obj {depth : Nat} {fs : List (String × Tree ρ)} (values : ∀ f ∈ fs, Within most depth f.2) :
    Within most (depth + 1) (.obj fs)

/-! ## Atoms -/

/-- a character that a word or a number begins with -/
def isAtomic (c : Char) : Bool := c.isAlphanum || c == '-'

theorem value_atom {c : Char} (atomic : isAtomic c) (n depth : Nat) (s : List Char) :
    value r most (n + 1) depth (c :: s) = atom r most (c :: s) := by
  have other (d : Char) (far : isAtomic d = false) : c ≠ d := fun same => by simp [same, far] at atomic
  rw [value.eq_def]
  dsimp only
  split
  · next h => exact absurd (List.cons.inj h).1 (other '"' (by decide))
  · next h => exact absurd (List.cons.inj h).1 (other '[' (by decide))
  · next h => exact absurd (List.cons.inj h).1 (other '[' (by decide))
  · next h => exact absurd (List.cons.inj h).1 (other '\x7b' (by decide))
  · next h => exact absurd (List.cons.inj h).1 (other '\x7b' (by decide))
  · rfl

theorem atom_word {w : List Char} {x : Tree ρ} (named : (w, x) ∈ words r) (rest : List Char) :
    atom r most (w ++ rest) = .ok (x, rest) := by
  have found : word? r (w ++ rest) = some (x, rest) := by
    simp only [words, List.mem_cons, Prod.mk.injEq, List.not_mem_nil, or_false] at named
    rcases named with ⟨rfl, rfl⟩ | ⟨rfl, rfl⟩ | ⟨rfl, rfl⟩ | ⟨rfl, rfl⟩ | ⟨rfl, rfl⟩ | ⟨rfl, rfl⟩
    all_goals rfl
  rw [atom, found]

theorem mem_words {w : List Char} (real : w ∈ realWords) : (w, .real (r.read w)) ∈ words r := by
  simp only [realWords, List.mem_cons, List.not_mem_nil, or_false] at real
  rcases real with rfl | rfl | rfl
  · exact .tail _ (.tail _ (.tail _ (.head _)))
  · exact .tail _ (.tail _ (.tail _ (.tail _ (.head _))))
  · exact .tail _ (.tail _ (.tail _ (.tail _ (.tail _ (.head _)))))

/-- a word begins with a letter, behind a minus if there is one -/
theorem word?_digit {c : Char} (digit : isAsciiDigit c) (s : List Char) :
    word? r (c :: s) = none ∧ word? r ('-' :: c :: s) = none := by
  have other (d : Char) (letter : isAsciiDigit d = false) : c ≠ d := fun same => by
    simp [same, letter] at digit
  constructor
  · have none {w : List Char} {d : Char} (letter : isAsciiDigit d = false) :
        after? (d :: w) (c :: s) = none := if_neg (other d letter)
    refine List.findSome?_eq_none_iff.mpr fun w mem => ?_
    simp only [words, List.mem_cons, List.not_mem_nil, or_false] at mem
    rcases mem with rfl | rfl | rfl | rfl | rfl | rfl
    all_goals exact congrArg (Option.map _) (none (by decide))
  · have none : after? ('-' :: infinityWord) ('-' :: c :: s) = none := if_neg (other 'I' (by decide))
    rw [word?, words]
    simp only [List.findSome?_cons, List.findSome?_nil, none]
    rfl

/-- no word begins like a number -/
theorem word?_spelled {t : Token} (spelled : t.Spells s) (rest : List Char) :
    word? r (s ++ rest) = none := by
  obtain ⟨d, ds, whole⟩ := List.exists_cons_of_ne_nil spelled.whole.isDigits.1
  have digit : isAsciiDigit d := spelled.whole.isDigits.2 d (whole ▸ List.mem_cons_self)
  rw [spelled.text, whole]
  cases t.negative with
  | true => exact (word?_digit digit _).2
  | false => exact (word?_digit digit _).1

theorem atom_int (n : Int) (few : (Nat.toDigits 10 n.natAbs).length ≤ most) (stops : Stops isNumeric rest) :
    atom r most ((toString n).toList ++ rest) = .ok (.int n, rest) := by
  rw [atom, word?_spelled (spells_ofInt n)]
  dsimp only
  rw [number, token?_spelled (spells_ofInt n) stops]
  show (if most < (Nat.toDigits 10 n.natAbs).length then _ else Except.ok (Tree.int (Token.ofInt n).int, rest)) = _
  rw [if_neg (Nat.not_lt.mpr few), int_ofInt]

theorem atom_real {negative : Bool} (real : IsReal negative s) (stops : Stops isNumeric rest) :
    atom tokens most (s ++ rest) = .ok (.real s, rest) := by
  obtain ⟨t, spelled, -, notWhole⟩ := real
  have text : (s ++ rest).take ((s ++ rest).length - rest.length) = s := by
    rw [List.length_append, Nat.add_sub_cancel, List.take_left]
  rw [atom, word?_spelled spelled]
  dsimp only
  rw [number, token?_spelled spelled stops]
  dsimp only
  rw [if_neg (by simp [notWhole]), text]
  rfl

/-- the text begins like a word or a number -/
def BeginsAtom (s : List Char) : Prop := ∃ c ∈ s.head?, isAtomic c

theorem beginsAtom_spelled {t : Token} (spelled : t.Spells s) : BeginsAtom s := by
  obtain ⟨d, ds, whole⟩ := List.exists_cons_of_ne_nil spelled.whole.isDigits.1
  have digit : isAsciiDigit d := spelled.whole.isDigits.2 d (whole ▸ List.mem_cons_self)
  rw [spelled.text, whole]
  cases t.negative with
  | true => exact ⟨'-', rfl, rfl⟩
  | false => exact ⟨d, rfl, by simp [isAtomic, Char.isAlphanum, show d.isDigit from digit]⟩

theorem beginsAtom_real (spelled : r.Spelled) (x : ρ) : BeginsAtom (r.write x) := by
  rcases spelled x with word | ⟨_, t, real, -⟩
  · simp only [realWords, List.mem_cons, List.not_mem_nil, or_false] at word
    rcases word with word | word | word <;> rw [word]
    · exact ⟨'N', rfl, rfl⟩
    · exact ⟨'I', rfl, rfl⟩
    · exact ⟨'-', rfl, rfl⟩
  · exact beginsAtom_spelled real

theorem value_of_atom {x : Tree ρ × List Char} (begins : BeginsAtom s)
    (reads : atom r most (s ++ rest) = .ok x) (n depth : Nat) :
    value r most (n + 1) depth (s ++ rest) = .ok x := by
  obtain ⟨c, first, atomic⟩ := begins
  cases s with
  | nil => cases first
  | cons d s =>
    obtain rfl := Option.some.inj first
    exact (value_atom atomic n depth _).trans reads

/-! ## Strings and containers -/

theorem length_escaped (cs : List Char) : cs.length ≤ (cs.flatMap escape).length := by
  induction cs with
  | nil => exact Nat.le_refl _
  | cons c cs ih =>
    have some : 0 < (escape c).length := by
      rcases escape_cases c with ⟨l, -, spelled⟩ | ⟨spelled, -⟩ | ⟨spelled, -⟩ | ⟨spelled, -⟩ <;>
        simp [spelled, unit]
    rw [List.flatMap_cons, List.length_append, List.length_cons]
    omega

/-- a string is read back behind its opening quote -/
theorem string_of_quote (start cs rest : List Char) :
    string start (cs.flatMap escape ++ '"' :: rest).length (cs.flatMap escape ++ '"' :: rest) =
      .ok (cs, rest) := by
  have := length_escaped cs
  exact string_quote start cs rest (by rw [List.length_append]; omega)

theorem quote_append (cs rest : List Char) :
    quote cs ++ rest = '"' :: (cs.flatMap escape ++ '"' :: rest) := by
  simp [quote]

theorem value_quote (text : String) (n depth : Nat) (rest : List Char) :
    value r most (n + 1) depth (quote text.toList ++ rest) = .ok (.str text, rest) := by
  rw [quote_append, value, string_of_quote]
  show Except.ok (Tree.str (String.ofList text.toList), rest) = _
  rw [String.ofList_toList]

/-- a value is read back, whatever follows that is no part of a number -/
def Reads (r : Reals ρ) (most : Nat) (v : Tree ρ) : Prop :=
  ∀ n depth rest, Stops isNumeric rest → v.Within most depth → (write r v).length ≤ n →
    value tokens most n depth (write r v ++ rest) = .ok (v.map r.write, rest)

/-- no value begins with a blank or with a closing bracket -/
theorem write_eq_cons (spelled : r.Spelled) (v : Tree ρ) :
    ∃ c s, write r v = c :: s ∧ isSpace c = false ∧ c ≠ ']' := by
  have atom {s : List Char} (begins : BeginsAtom s) : ∃ c t, s = c :: t ∧ isSpace c = false ∧ c ≠ ']' := by
    obtain ⟨c, first, atomic⟩ := begins
    cases s with
    | nil => cases first
    | cons d s =>
      obtain rfl := Option.some.inj first
      have other (e : Char) (far : isAtomic e = false) : d ≠ e := fun same => by simp [same, far] at atomic
      exact ⟨d, s, rfl, by simp [isSpace, other ' ' (by decide), other '\t' (by decide),
        other '\n' (by decide), other '\r' (by decide)], other ']' (by decide)⟩
  cases v with
  | null => exact ⟨'n', _, rfl, by decide⟩
  | bool b =>
    cases b with
    | true => exact ⟨'t', _, rfl, by decide⟩
    | false => exact ⟨'f', _, rfl, by decide⟩
  | int n => exact atom (beginsAtom_spelled (spells_ofInt n))
  | real x => exact atom (beginsAtom_real spelled x)
  | str s => exact ⟨'"', _, rfl, by decide⟩
  | arr xs => cases xs <;> exact ⟨'[', _, rfl, by decide⟩
  | obj fs => cases fs <;> exact ⟨'\x7b', _, rfl, by decide⟩

theorem skip_cons {c : Char} (h : isSpace c = false) (s : List Char) : skip (c :: s) = c :: s :=
  List.dropWhile_cons_of_neg (by simp [h])

theorem skip_write (spelled : r.Spelled) (v : Tree ρ) (rest : List Char) :
    skip (write r v ++ rest) = write r v ++ rest := by
  obtain ⟨c, s, text, visible, -⟩ := write_eq_cons spelled v
  rw [text]
  exact skip_cons visible _

theorem stops_writeItems (xs : List (Tree ρ)) (rest : List Char) :
    Stops isNumeric (writeItems r xs ++ rest) := by
  cases xs <;> exact stops_cons.mpr (by decide)

theorem stops_writeFields (fs : List (String × Tree ρ)) (rest : List Char) :
    Stops isNumeric (writeFields r fs ++ rest) := by
  cases fs <;> exact stops_cons.mpr (by decide)

/-- an array that is not empty is read item by item -/
theorem value_arr (spelled : r.Spelled) (x : Tree ρ) (n depth : Nat) (s : List Char) :
    value tokens most (n + 1) (depth + 1) ('[' :: (write r x ++ s)) =
      turned .arr (items tokens most n depth (write r x ++ s)) := by
  obtain ⟨c, t, text, visible, open'⟩ := write_eq_cons spelled x
  rw [text, List.cons_append, value, skip_cons visible]
  split
  · next h => exact absurd (List.cons.inj h).1 open'
  · rfl

theorem items_write (spelled : r.Spelled) {xs : List (Tree ρ)} {x : Tree ρ}
    (reads : ∀ y ∈ x :: xs, Reads r most y) (within : ∀ y ∈ x :: xs, y.Within most depth)
    (enough : (write r x ++ writeItems r xs).length ≤ n) :
    items tokens most n depth (write r x ++ (writeItems r xs ++ rest)) =
      .ok (mapItems r.write (x :: xs), rest) := by
  -- on the items that are left: each takes one step, and its text with the comma is longer than that
  induction xs generalizing x n with
  | nil =>
    rw [List.length_append] at enough
    obtain ⟨m, rfl⟩ : ∃ m, n = m + 1 := ⟨n - 1, by simp [writeItems] at enough; omega⟩
    have first := reads x List.mem_cons_self m depth (writeItems r [] ++ rest) (stops_writeItems _ _)
      (within x List.mem_cons_self) (by simp [writeItems] at enough; omega)
    rw [items, first]
    rfl
  | cons y ys ih =>
    rw [List.length_append] at enough
    obtain ⟨m, rfl⟩ : ∃ m, n = m + 1 := ⟨n - 1, by simp [writeItems] at enough; omega⟩
    have first := reads x List.mem_cons_self m depth (writeItems r (y :: ys) ++ rest)
      (stops_writeItems _ _) (within x List.mem_cons_self) (by simp [writeItems] at enough; omega)
    have tail := ih (n := m) (fun z mem => reads z (List.mem_cons_of_mem _ mem))
      (fun z mem => within z (List.mem_cons_of_mem _ mem)) (by simp [writeItems] at enough ⊢; omega)
    rw [items, first]
    show turned _ (items tokens most m depth (skip (' ' :: (write r y ++ writeItems r ys ++ rest)))) = _
    have blank : skip (' ' :: (write r y ++ writeItems r ys ++ rest)) = write r y ++ (writeItems r ys ++ rest) := by
      rw [List.append_assoc]
      exact skip_write spelled y _
    rw [blank, tail]
    rfl

/-- an object that is not empty is read field by field -/
theorem value_obj (key : List Char) (n depth : Nat) (s : List Char) :
    value r most (n + 1) (depth + 1) ('\x7b' :: (quote key ++ s)) =
      turned .obj (fields r most n depth [] (quote key ++ s)) := by
  rw [quote_append, value, skip_cons (by decide)]
  rfl

theorem fields_first (spelled : r.Spelled) {f : String × Tree ρ} {acc : List (String × Tree (List Char))}
    (fresh : f.1 ∉ keys acc)
    (read : value tokens most n depth (write r f.2 ++ s) = .ok (f.2.map r.write, s)) :
    fields tokens most (n + 1) depth acc (quote f.1.toList ++ ':' :: ' ' :: (write r f.2 ++ s)) =
      match skip s with
      | '\x7d' :: s => .ok (acc ++ [(f.1, f.2.map r.write)], s)
      | ',' :: s => fields tokens most n depth (acc ++ [(f.1, f.2.map r.write)]) (skip s)
      | s => .error (.stuck s) := by
  have blank : skip (' ' :: (write r f.2 ++ s)) = write r f.2 ++ s := skip_write spelled _ _
  rw [quote_append, fields, string_of_quote]
  show (value tokens most n depth (skip (' ' :: (write r f.2 ++ s))) >>= fun x => _) = _
  rw [blank, read, ← put_of_not_mem _ fresh]
  show (match skip s with | '\x7d' :: s => _ | ',' :: s => _ | s => _) = _
  rw [String.ofList_toList]
  rfl

theorem fields_write (spelled : r.Spelled) {fs : List (String × Tree ρ)} {f : String × Tree ρ}
    {acc : List (String × Tree (List Char))}
    (reads : ∀ g ∈ f :: fs, Reads r most g.2) (within : ∀ g ∈ f :: fs, g.2.Within most depth)
    (nodup : (keys acc ++ keys (f :: fs)).Nodup)
    (enough : (write r f.2 ++ writeFields r fs).length ≤ n) :
    fields tokens most n depth acc
        (quote f.1.toList ++ ':' :: ' ' :: (write r f.2 ++ (writeFields r fs ++ rest))) =
      .ok (acc ++ mapFields r.write (f :: fs), rest) := by
  have fresh : f.1 ∉ keys acc := fun mem =>
    (List.nodup_append.mp nodup).2.2 _ mem _ List.mem_cons_self rfl
  rw [List.length_append] at enough
  -- on the fields that are left; those that were read have other keys, so `put` goes behind them
  induction fs generalizing f acc n with
  | nil =>
    obtain ⟨m, rfl⟩ : ∃ m, n = m + 1 := ⟨n - 1, by simp [writeFields] at enough; omega⟩
    have first := reads f List.mem_cons_self m depth (writeFields r [] ++ rest)
      (stops_writeFields _ _) (within f List.mem_cons_self) (by simp [writeFields] at enough; omega)
    exact fields_first spelled fresh first
  | cons g gs ih =>
    obtain ⟨m, rfl⟩ : ∃ m, n = m + 1 := ⟨n - 1, by simp [writeFields] at enough; omega⟩
    have first := reads f List.mem_cons_self m depth (writeFields r (g :: gs) ++ rest)
      (stops_writeFields _ _) (within f List.mem_cons_self) (by simp [writeFields] at enough; omega)
    have others : (keys (acc ++ [(f.1, f.2.map r.write)]) ++ keys (g :: gs)).Nodup := by
      simpa [keys] using nodup
    have tail := ih (n := m) (fun h mem => reads h (List.mem_cons_of_mem _ mem))
      (fun h mem => within h (List.mem_cons_of_mem _ mem)) others
      (by simp [writeFields] at enough ⊢; omega)
      (fun mem => (List.nodup_append.mp others).2.2 _ mem _ List.mem_cons_self rfl)
    rw [List.append_assoc] at tail
    rw [fields_first spelled fresh first]
    show fields tokens most m depth _ (skip (' ' :: (quote g.1.toList ++
      ':' :: ' ' :: (write r g.2 ++ writeFields r gs) ++ rest))) = _
    rw [List.append_assoc, List.cons_append, List.cons_append, List.append_assoc]
    exact tail

/-! ## The whole value -/

/-- the text of a value is not empty, so there is a first step -/
theorem reads_of_step (spelled : r.Spelled)
    (step : ∀ n depth rest, Stops isNumeric rest → v.Within most depth → (write r v).length ≤ n + 1 →
      value tokens most (n + 1) depth (write r v ++ rest) = .ok (v.map r.write, rest)) : Reads r most v := by
  intro n depth rest stops within enough
  obtain ⟨c, s, text, -⟩ := write_eq_cons spelled v
  cases n with
  | zero =>
    rw [text] at enough
    cases enough
  | succ n => exact step n depth rest stops within enough

theorem reads_of_distinct (spelled : r.Spelled) (distinct : v.Distinct) : Reads r most v := by
  induction distinct with
  | null =>
    refine reads_of_step spelled fun n depth rest _ _ _ => ?_
    exact value_of_atom ⟨'n', rfl, rfl⟩ (atom_word (.head _) rest) n depth
  | bool b =>
    refine reads_of_step spelled fun n depth rest _ _ _ => ?_
    cases b with
    | true => exact value_of_atom ⟨'t', rfl, rfl⟩ (atom_word (.tail _ (.head _)) rest) n depth
    | false => exact value_of_atom ⟨'f', rfl, rfl⟩ (atom_word (.tail _ (.tail _ (.head _))) rest) n depth
  | int k =>
    refine reads_of_step spelled fun n depth rest stops within _ => ?_
    cases within with
    | int few => exact value_of_atom (beginsAtom_spelled (spells_ofInt k)) (atom_int k few stops) n depth
  | real x =>
    refine reads_of_step spelled fun n depth rest stops _ _ => ?_
    refine value_of_atom (beginsAtom_real spelled x) ?_ n depth
    rcases spelled x with word | ⟨_, real⟩
    · exact atom_word (mem_words word) rest
    · exact atom_real real stops
  | str s =>
    exact reads_of_step spelled fun n depth rest _ _ _ => value_quote s n depth rest
  | @arr xs _ ih =>
    refine reads_of_step spelled fun n depth rest _ within enough => ?_
    cases within with
    | arr within =>
      cases xs with
      | nil => rfl
      | cons x xs =>
        have read : items tokens most n _ (write r x ++ (writeItems r xs ++ rest)) = _ :=
          items_write spelled ih within (by simp [write] at enough ⊢; omega)
        show value tokens most (n + 1) _ ('[' :: (write r x ++ writeItems r xs ++ rest)) = _
        rw [List.append_assoc, value_arr spelled, read]
        rfl
  | @obj fs nodup _ ih =>
    refine reads_of_step spelled fun n depth rest _ within enough => ?_
    cases within with
    | obj within =>
      cases fs with
      | nil => rfl
      | cons f fs =>
        have read : fields tokens most n _ [] (quote f.1.toList ++
            ':' :: ' ' :: (write r f.2 ++ (writeFields r fs ++ rest))) = _ :=
          fields_write spelled ih within nodup (by simp [write] at enough ⊢; omega)
        show value tokens most (n + 1) _
          ('\x7b' :: (quote f.1.toList ++ ':' :: ' ' :: (write r f.2 ++ writeFields r fs) ++ rest)) = _
        rw [List.append_assoc, List.cons_append, List.cons_append, List.append_assoc, value_obj, read]
        rfl

/-- **A value is read back from its text**, within limits that it keeps to. -/
theorem readWithin_write (spelled : r.Spelled) (distinct : v.Distinct) {l : Limits}
    (within : v.Within l.digits l.depth) : readWithin l tokens (write r v) = .ok (v.map r.write) := by
  have start := skip_write spelled v []
  have read := reads_of_distinct spelled distinct (2 * (write r v).length + 2) l.depth [] stops_nil within
    (by omega)
  rw [List.append_nil] at start read
  rw [readWithin, start, read]
  rfl

/-! ## Limits that no text reaches -/

theorem length_write_item {x : Tree ρ} {xs : List (Tree ρ)} (mem : x ∈ xs) :
    (write r x).length + 2 ≤ (writeItems r xs).length := by
  induction xs with
  | nil => cases mem
  | cons y ys ih =>
    simp only [writeItems, List.length_cons, List.length_append]
    rcases List.mem_cons.mp mem with rfl | mem
    · omega
    · have := ih mem
      omega

theorem length_write_value {f : String × Tree ρ} {fs : List (String × Tree ρ)} (mem : f ∈ fs) :
    (write r f.2).length + 2 ≤ (writeFields r fs).length := by
  induction fs with
  | nil => cases mem
  | cons g gs ih =>
    simp only [writeFields, List.length_cons, List.length_append]
    rcases List.mem_cons.mp mem with rfl | mem
    · omega
    · have := ih mem
      omega

/-- the text of a container is about as long as that of its items with commas in front -/
theorem length_write_arr (xs : List (Tree ρ)) :
    0 < (write r (.arr xs)).length ∧ (writeItems r xs).length ≤ (write r (.arr xs)).length + 1 := by
  cases xs with
  | nil => simp [write, writeItems]
  | cons x xs =>
    simp only [write, writeItems, List.length_cons, List.length_append]
    omega

theorem length_write_obj (fs : List (String × Tree ρ)) :
    0 < (write r (.obj fs)).length ∧ (writeFields r fs).length ≤ (write r (.obj fs)).length + 1 := by
  cases fs with
  | nil => simp [write, writeFields]
  | cons f fs =>
    simp only [write, writeFields, List.length_cons, List.length_append]
    omega

theorem length_digits_le (n : Int) : (Nat.toDigits 10 n.natAbs).length ≤ (toString n).toList.length := by
  rw [(spells_ofInt n).text]
  simp only [Token.ofInt, List.length_append]
  omega

/-- a text has no more digits and no more containers than characters -/
theorem within_of_length (distinct : v.Distinct) (few : (write r v).length ≤ most)
    (shallow : (write r v).length ≤ depth) : v.Within most depth := by
  induction distinct generalizing depth with
  | null => exact .null
  | bool b => exact .bool b
  | int n => exact .int (Nat.le_trans (length_digits_le n) few)
  | real x => exact .real x
  | str s => exact .str s
  | @arr xs _ ih =>
    have whole := length_write_arr (r := r) xs
    obtain ⟨depth, rfl⟩ : ∃ d, depth = d + 1 := ⟨depth - 1, by omega⟩
    refine .arr fun x mem => ?_
    have := length_write_item (r := r) mem
    exact ih x mem (by omega) (by omega)
  | @obj fs _ _ ih =>
    have whole := length_write_obj (r := r) fs
    obtain ⟨depth, rfl⟩ : ∃ d, depth = d + 1 := ⟨depth - 1, by omega⟩
    refine .obj fun f mem => ?_
    have := length_write_value (r := r) mem
    exact ih f mem (by omega) (by omega)

/-- a text that is one value, read within the limits of its own length -/
def readFreely (r : Reals ρ) (s : List Char) : Except Flaw (Tree ρ) :=
  readWithin ⟨s.length, s.length⟩ r s

/-- **A value of any size is read back from its text.** -/
theorem readFreely_write (spelled : r.Spelled) (distinct : v.Distinct) :
    readFreely tokens (write r v) = .ok (v.map r.write) :=
  readWithin_write spelled distinct (within_of_length distinct (Nat.le_refl _) (Nat.le_refl _))

/-! ## Plain text -/

theorem isPlain_digits {ds : List Char} (digits : IsDigits ds) : IsPlain ds := fun c mem => by
  have digit := digits.2 c mem
  simp only [isAsciiDigit, Char.isDigit, Bool.and_eq_true, decide_eq_true_eq, ge_iff_le,
    UInt32.le_iff_toNat_le] at digit
  have low : 48 ≤ c.toNat := digit.1
  have high : c.toNat ≤ 57 := digit.2
  omega

theorem isPlain_spelled {t : Token} (spelled : t.Spells s) : IsPlain s := by
  have sign : IsPlain (if t.negative then ['-'] else []) := by cases t.negative <;> decide
  have point : IsPlain (fractionText t.fraction) := by
    cases h : t.fraction with
    | none => exact isPlain_nil
    | some f => exact isPlain_cons.mpr ⟨by decide, isPlain_digits (spelled.fraction f h)⟩
  have exponent : IsPlain (exponentText t.exponent) := by
    cases h : t.exponent with
    | none => exact isPlain_nil
    | some e =>
      have digits := isPlain_digits (spelled.exponent e h)
      refine isPlain_cons.mpr ⟨by decide, isPlain_cons.mpr ⟨?_, digits⟩⟩
      cases e.1 <;> decide
  rw [spelled.text]
  simp only [isPlain_append]
  exact ⟨sign, isPlain_digits spelled.whole.isDigits, point, exponent⟩

theorem isPlain_real (spelled : r.Spelled) (x : ρ) : IsPlain (r.write x) := by
  rcases spelled x with word | ⟨_, t, real, -⟩
  · have all : ∀ w ∈ realWords, IsPlain w := by decide
    exact all _ word
  · exact isPlain_spelled real

mutual

theorem isPlain_write (spelled : r.Spelled) : ∀ v : Tree ρ, IsPlain (write r v)
  | .null => show IsPlain "null".toList by decide
  | .bool true => show IsPlain "true".toList by decide
  | .bool false => show IsPlain "false".toList by decide
  | .int n => isPlain_spelled (spells_ofInt n)
  | .real x => isPlain_real spelled x
  | .str s => isPlain_quote s.toList
  | .arr [] => show IsPlain ['[', ']'] by decide
  | .arr (x :: xs) => by
    rw [write, isPlain_cons, isPlain_append]
    exact ⟨by decide, isPlain_write spelled x, isPlain_writeItems spelled xs⟩
  | .obj [] => show IsPlain ['\x7b', '\x7d'] by decide
  | .obj (f :: fs) => by
    rw [write, isPlain_cons, isPlain_append, isPlain_cons, isPlain_cons, isPlain_append]
    exact ⟨by decide, isPlain_quote _, by decide, by decide, isPlain_write spelled f.2,
      isPlain_writeFields spelled fs⟩

theorem isPlain_writeItems (spelled : r.Spelled) : ∀ xs : List (Tree ρ), IsPlain (writeItems r xs)
  | [] => show IsPlain [']'] by decide
  | x :: xs => by
    rw [writeItems, isPlain_cons, isPlain_cons, isPlain_append]
    exact ⟨by decide, by decide, isPlain_write spelled x, isPlain_writeItems spelled xs⟩

theorem isPlain_writeFields (spelled : r.Spelled) :
    ∀ fs : List (String × Tree ρ), IsPlain (writeFields r fs)
  | [] => show IsPlain ['\x7d'] by decide
  | f :: fs => by
    rw [writeFields, isPlain_cons, isPlain_cons, isPlain_append, isPlain_cons, isPlain_cons, isPlain_append]
    exact ⟨by decide, by decide, isPlain_quote _, by decide, by decide, isPlain_write spelled f.2,
      isPlain_writeFields spelled fs⟩

end

end SnippetStudio.Json
