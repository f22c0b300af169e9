import SnippetStudio.Json.Real

/-!
# Reading JSON

`read` takes a whole text: blanks, one value, blanks.  A value may be any JSON value, or one of
the three words for numbers without digits.  Of two fields with one key the later value stays, in
the place of the earlier.  There are `Limits` to what is taken: to the digits of a whole number, and to the
arrays and objects that one stands in.

Strings hold no control characters; a unit of a surrogate pair that stands alone is read as the
replacement character.

Each part of the reader takes what is left of the text, and gives a result with what is left behind it, or
the `Flaw` that stopped it.
-/

namespace SnippetStudio.Json

/-- what further values may stand in -/
inductive Container where
  | array
  | object
deriving Repr, DecidableEq

/-- why a text is no value -/
inductive Flaw where
  /-- it cannot be read on from here, where so much is left -/
  | stuck (rest : List Char)
  /-- a whole number has too many digits -/
  | tooLong
  /-- a container stands inside too many others -/
  | tooDeep (c : Container)
deriving Repr, DecidableEq

/-- the number of characters in front of a flaw in a text -/
def Flaw.place? (text : List Char) : Flaw → Option Nat
  | stuck rest => some (text.length - rest.length)
  | tooLong => none
  | tooDeep _ => none

/-- a result turned into another one, with what is left kept -/
def turned {α β : Type} (f : α → β) (x : Except Flaw (α × List Char)) : Except Flaw (β × List Char) :=
  x.map fun y => (f y.1, y.2)

/-- how much of a text is taken -/
structure Limits where
  /-- the digits of a whole number -/
  digits : Nat
  /-- the containers one inside the other -/
  depth : Nat
deriving Repr, DecidableEq

/-- how deep containers may stand is up to the stack that is left -/
def Limits.usual (depth : Nat) : Limits where
  digits := Text.integerLimit
  depth := depth

variable {ρ : Type}

def isSpace (c : Char) : Bool := c == ' ' || c == '\t' || c == '\n' || c == '\r'

def skip (s : List Char) : List Char := s.dropWhile isSpace

def hexValue? (c : Char) : Option Nat :=
  if c.isDigit then some (c.toNat - 0x30)
  else if 'a' ≤ c ∧ c ≤ 'f' then some (c.toNat - 0x57)
  else if 'A' ≤ c ∧ c ≤ 'F' then some (c.toNat - 0x37)
  else none

/-- the number of four hexadecimal digits -/
def hex4? : List Char → Option (Nat × List Char)
  | a :: b :: c :: d :: s => do
    let a ← hexValue? a
    let b ← hexValue? b
    let c ← hexValue? c
    let d ← hexValue? d
    some (4096 * a + 256 * b + 16 * c + d, s)
  | _ => none

def isHigh (n : Nat) : Bool := decide (0xD800 ≤ n ∧ n < 0xDC00)
def isLow (n : Nat) : Bool := decide (0xDC00 ≤ n ∧ n < 0xE000)

/-- an escaped unit behind its `u`; a string does not end with it -/
def escaped? (s : List Char) : Option (Nat × List Char) := (hex4? s).filter fun x => !x.2.isEmpty

/-- a low unit written as an escape at the front -/
def lowUnit? : List Char → Option (Nat × List Char)
  | '\\' :: 'u' :: s => (escaped? s).filter fun x => isLow x.1
  | _ => none

/-- the character of an escaped unit, with the second unit of a pair taken along -/
def unit? (s : List Char) : Option (Char × List Char) :=
  match escaped? s with
  | none => none
  | some (n, s) =>
    if isHigh n then
      match lowUnit? s with
      | some (m, s) => some (Char.ofNat (0x10000 + (n - 0xD800) * 0x400 + (m - 0xDC00)), s)
      | none => some ('\uFFFD', s)
    else if isLow n then some ('\uFFFD', s)
    else some (Char.ofNat n, s)

/-- the character named behind a backslash -/
def letter? : Char → Option Char
  | '"' => some '"'
  | '\\' => some '\\'
  | '/' => some '/'
  | 'b' => some '\x08'
  | 'f' => some '\x0c'
  | 'n' => some '\n'
  | 'r' => some '\r'
  | 't' => some '\t'
  | _ => none

/-- the first character of a string's inside, decoded; `start` is the text from the string's opening
quote on -/
def char (start : List Char) : List Char → Except Flaw (Char × List Char)
  | [] => .error (.stuck start)
  | '\\' :: 'u' :: s =>
    match unit? s with
    | some x => .ok x
    | none => .error (.stuck ('u' :: s))
  | '\\' :: c :: s =>
    match letter? c with
    | some d => .ok (d, s)
    | none => .error (.stuck ('\\' :: c :: s))
  | ['\\'] => .error (.stuck start)
  | c :: s => if c.toNat < 0x20 then .error (.stuck (c :: s)) else .ok (c, s)

/-- a string behind its opening quote -/
def string (start : List Char) : Nat → List Char → Except Flaw (List Char × List Char)
  | _, '"' :: s => .ok ([], s)
  | 0, _ => .error (.stuck start)
  | n + 1, s => do
    let (c, s) ← char start s
    let (cs, s) ← string start n s
    return (c :: cs, s)

/-- a number, with at most so many digits if it is whole -/
def number (r : Reals ρ) (most : Nat) (s : List Char) : Except Flaw (Tree ρ × List Char) :=
  match token? s with
  | none => .error (.stuck s)
  | some (t, rest) =>
    if t.isWhole then
      if most < t.whole.length then .error .tooLong else .ok (.int t.int, rest)
    else .ok (.real (r.read (s.take (s.length - rest.length))), rest)

def words (r : Reals ρ) : List (List Char × Tree ρ) :=
  [("null".toList, .null), ("true".toList, .bool true), ("false".toList, .bool false),
   (nanWord, .real (r.read nanWord)), (infinityWord, .real (r.read infinityWord)),
   ('-' :: infinityWord, .real (r.read ('-' :: infinityWord)))]

def word? (r : Reals ρ) (s : List Char) : Option (Tree ρ × List Char) :=
  (words r).findSome? fun w => (Text.after? w.1 s).map (w.2, ·)

/-- a word or a number -/
def atom (r : Reals ρ) (most : Nat) (s : List Char) : Except Flaw (Tree ρ × List Char) :=
  match word? r s with
  | some x => .ok x
  | none => number r most s

mutual

/-- a value with at most `depth` containers one inside the other -/
def value (r : Reals ρ) (most : Nat) : Nat → Nat → List Char → Except Flaw (Tree ρ × List Char)
  | 0, _, s => .error (.stuck s)
  | n + 1, depth, s =>
    match s, depth with
    | '"' :: s, _ => turned (.str <| String.ofList ·) (string ('"' :: s) s.length s)
    | '[' :: _, 0 => .error (.tooDeep .array)
    | '[' :: s, depth + 1 =>
      match skip s with
      | ']' :: s => .ok (.arr [], s)
      | s => turned .arr (items r most n depth s)
    | '{' :: _, 0 => .error (.tooDeep .object)
    | '{' :: s, depth + 1 =>
      match skip s with
      | '}' :: s => .ok (.obj [], s)
      | s => turned .obj (fields r most n depth [] s)
    | s, _ => atom r most s

/-- the items of an array up to its closing bracket, one at least -/
def items (r : Reals ρ) (most : Nat) : Nat → Nat → List Char → Except Flaw (List (Tree ρ) × List Char)
  | 0, _, s => .error (.stuck s)
  | n + 1, depth, s => do
    let (v, s) ← value r most n depth s
    match skip s with
    | ']' :: s => return ([v], s)
    | ',' :: s => turned (v :: ·) (items r most n depth (skip s))
    | s => throw (.stuck s)

/-- the fields of an object up to its closing brace, one at least, put into `acc` -/
def fields (r : Reals ρ) (most : Nat) : Nat → Nat → List (String × Tree ρ) → List Char →
    Except Flaw (List (String × Tree ρ) × List Char)
  | 0, _, _, s => .error (.stuck s)
  | n + 1, depth, acc, s =>
    match s with
    | '"' :: s => do
      let (key, s) ← string ('"' :: s) s.length s
      match skip s with
      | ':' :: s =>
        let (v, s) ← value r most n depth (skip s)
        let acc := put (String.ofList key) v acc
        match skip s with
        | '}' :: s => return (acc, s)
        | ',' :: s => fields r most n depth acc (skip s)
        | s => throw (.stuck s)
      | s => throw (.stuck s)
    | s => .error (.stuck s)

end

/-- a text that is one value, within some limits -/
def readWithin (l : Limits) (r : Reals ρ) (s : List Char) : Except Flaw (Tree ρ) := do
  let (v, rest) ← value r l.digits (2 * s.length + 2) l.depth (skip s)
  if (skip rest).isEmpty then return v else throw (.stuck (skip rest))

def read (depth : Nat) (s : List Char) : Except Flaw Json := readWithin (.usual depth) doubles s

def read? (depth : Nat) (s : String) : Option Json := (read depth s.toList).toOption

/-! ## What is read can be written -/

theorem fitFields_put (key : String) {v : Tree ρ} (fits : v.fits = true) {fs : List (String × Tree ρ)}
    (others : Tree.fitFields fs = true) : Tree.fitFields (put key v fs) = true := by
  induction fs with
  | nil => simp [put, Tree.fitFields, fits]
  | cons f fs ih =>
    obtain ⟨first, rest⟩ := Bool.and_eq_true_iff.mp others
    rw [put]
    split
    · exact Bool.and_eq_true_iff.mpr ⟨fits, rest⟩
    · exact Bool.and_eq_true_iff.mpr ⟨first, ih rest⟩

theorem fits_number {r : Reals ρ} {s rest : List Char} {v : Tree ρ}
    (h : number r Text.integerLimit s = .ok (v, rest)) : v.fits = true := by
  rw [number] at h
  cases token : token? s with
  | none =>
    rw [token] at h
    cases h
  | some x =>
    rw [token] at h
    dsimp only at h
    split at h
    · split at h
      · cases h
      · next short =>
        obtain ⟨rfl, -⟩ := Prod.mk.inj (Except.ok.inj h)
        have size : x.1.int.natAbs = Text.numeral x.1.whole := by
          rw [Token.int]
          split <;> simp
        rw [Tree.fits, Text.isShort_iff, size]
        exact Text.numeral_lt_of_le (Nat.not_lt.mp short)
    · obtain ⟨rfl, -⟩ := Prod.mk.inj (Except.ok.inj h)
      rfl

theorem fits_word {r : Reals ρ} {s rest : List Char} {v : Tree ρ} (h : word? r s = some (v, rest)) :
    v.fits = true := by
  obtain ⟨w, mem, found⟩ := List.exists_of_findSome?_eq_some h
  obtain ⟨_, -, same⟩ := Option.map_eq_some_iff.mp found
  obtain ⟨rfl, -⟩ := Prod.mk.inj same
  simp only [words, List.mem_cons, List.not_mem_nil, or_false] at mem
  rcases mem with rfl | rfl | rfl | rfl | rfl | rfl <;> rfl

theorem fits_atom {r : Reals ρ} {s rest : List Char} {v : Tree ρ}
    (h : atom r Text.integerLimit s = .ok (v, rest)) : v.fits = true := by
  rw [atom] at h
  split at h
  · next found =>
    cases h
    exact fits_word found
  · exact fits_number h

theorem of_turned {α β : Type} {f : α → β} {x : Except Flaw (α × List Char)} {b : β} {rest : List Char}
    (h : turned f x = .ok (b, rest)) : ∃ a, x = .ok (a, rest) ∧ f a = b := by
  cases x with
  | error _ => cases h
  | ok y =>
    cases h
    exact ⟨y.1, rfl, rfl⟩

theorem of_bind {ε α β : Type} {x : Except ε α} {f : α → Except ε β} {b : β} (h : x >>= f = .ok b) :
    ∃ a, x = .ok a ∧ f a = .ok b := by
  cases x with
  | error _ => cases h
  | ok a => exact ⟨a, rfl, h⟩

/-- reading gives values that can be written: by induction on the steps, for the three readers at once -/
theorem fits_within (r : Reals ρ) (n : Nat) :
    (∀ {depth s v rest}, value r Text.integerLimit n depth s = .ok (v, rest) → v.fits = true) ∧
    (∀ {depth s xs rest}, items r Text.integerLimit n depth s = .ok (xs, rest) → Tree.fitItems xs = true) ∧
    (∀ {depth acc s fs rest}, fields r Text.integerLimit n depth acc s = .ok (fs, rest) →
      Tree.fitFields acc = true → Tree.fitFields fs = true) := by
  induction n with
  | zero => exact ⟨nofun, nofun, nofun⟩
  | succ n ih =>
    obtain ⟨value_, items_, fields_⟩ := ih
    refine ⟨fun {depth s v rest} h => ?_, fun {depth s xs rest} h => ?_, fun {depth acc s fs rest} h others => ?_⟩
    · rw [value.eq_def] at h
      dsimp only at h
      split at h
      · obtain ⟨_, -, rfl⟩ := of_turned h
        rfl
      · cases h
      · split at h
        · cases h
          rfl
        · obtain ⟨xs, read, rfl⟩ := of_turned h
          exact items_ read
      · cases h
      · split at h
        · cases h
          rfl
        · obtain ⟨fs, read, rfl⟩ := of_turned h
          exact fields_ read rfl
      · exact fits_atom h
    · rw [items] at h
      obtain ⟨⟨v, rest'⟩, first, h⟩ := of_bind h
      dsimp only at h
      split at h
      · cases h
        simp [Tree.fitItems, value_ first]
      · obtain ⟨xs, read, rfl⟩ := of_turned h
        simp [Tree.fitItems, value_ first, items_ read]
      · cases h
    · rw [fields.eq_def] at h
      dsimp only at h
      split at h
      · obtain ⟨key, -, h⟩ := of_bind h
        split at h
        · obtain ⟨⟨v, rest'⟩, first, h⟩ := of_bind h
          have more := fitFields_put (String.ofList key.1) (value_ first) others
          dsimp only at h
          split at h
          · cases h
            exact more
          · exact fields_ h more
          · cases h
        · cases h
      · cases h

/-- **What is read can be written.** -/
theorem fits_read {depth : Nat} {s : List Char} {v : Json} (h : read depth s = .ok v) : v.fits = true := by
  obtain ⟨⟨v, rest⟩, found, h⟩ := of_bind h
  dsimp only at h
  split at h
  · cases h
    exact (fits_within doubles _).1 found
  · cases h

end SnippetStudio.Json
