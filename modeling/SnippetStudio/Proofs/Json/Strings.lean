import SnippetStudio.Json.Reader
import SnippetStudio.Json.Writer

/-!
# Strings read back

Every character of a string is written with visible ASCII characters (`isPlain_escape`) and read back as itself:
in one escape or, from U+10000 on, in two of them (`char_escape`).  So is the whole string, up to its closing
quote (`string_quote`).
-/

namespace SnippetStudio.Json

variable {n : Nat} {s : List Char}

/-- visible ASCII, and the space -/
def IsPlain (s : List Char) : Prop := ∀ c ∈ s, 0x20 ≤ c.toNat ∧ c.toNat < 0x7F

instance (s : List Char) : Decidable (IsPlain s) := List.decidableBAll _ s

@[simp] theorem isPlain_nil : IsPlain [] := nofun

@[simp] theorem isPlain_cons {c : Char} :
    IsPlain (c :: s) ↔ (0x20 ≤ c.toNat ∧ c.toNat < 0x7F) ∧ IsPlain s :=
  List.forall_mem_cons

@[simp] theorem isPlain_append {t : List Char} : IsPlain (s ++ t) ↔ IsPlain s ∧ IsPlain t :=
  List.forall_mem_append

/-! ## Hexadecimal digits -/

theorem hexValue?_hexDigit (h : n < 16) : hexValue? (hexDigit n) = some n := by
  have all : ∀ n : Fin 16, hexValue? (hexDigit n) = some n.val := by decide
  exact all ⟨n, h⟩

theorem hex4?_hex4 (h : n < 0x10000) (s : List Char) : hex4? (hex4 n ++ s) = some (n, s) := by
  have digit (k : Nat) : hexValue? (hexDigit (k % 16)) = some (k % 16) :=
    hexValue?_hexDigit (Nat.mod_lt k (by decide))
  simp only [hex4, List.cons_append, List.nil_append, hex4?, digit, bind, Option.bind]
  congr 2
  omega

theorem escaped?_hex4 (h : n < 0x10000) (more : s ≠ []) : escaped? (hex4 n ++ s) = some (n, s) := by
  rw [escaped?, hex4?_hex4 h, Option.filter_some, if_pos (by simpa using more)]

theorem isPlain_unit (n : Nat) : IsPlain (unit n) := by
  have digit (k : Nat) : 0x20 ≤ (hexDigit (k % 16)).toNat ∧ (hexDigit (k % 16)).toNat < 0x7F := by
    have all : ∀ k : Fin 16, 0x20 ≤ (hexDigit k).toNat ∧ (hexDigit k).toNat < 0x7F := by decide
    exact all ⟨k % 16, Nat.mod_lt k (by decide)⟩
  simp only [unit, hex4, isPlain_cons, digit, isPlain_nil, and_true]
  decide

/-! ## Characters -/

theorem unit?_hex4 (h : n < 0x10000) (alone : isHigh n = false ∧ isLow n = false) (more : s ≠ []) :
    unit? (hex4 n ++ s) = some (Char.ofNat n, s) := by
  simp [unit?, escaped?_hex4 h more, alone.1, alone.2]

theorem unit?_pair {m : Nat} (high : isHigh n) (low : isLow m) (more : s ≠ []) :
    unit? (hex4 n ++ (unit m ++ s)) =
      some (Char.ofNat (0x10000 + (n - 0xD800) * 0x400 + (m - 0xDC00)), s) := by
  have bounds : n < 0x10000 ∧ m < 0x10000 := by
    simp only [isHigh, isLow, decide_eq_true_eq] at high low
    omega
  have second : lowUnit? (unit m ++ s) = some (m, s) := by
    show (escaped? (hex4 m ++ s)).filter _ = _
    rw [escaped?_hex4 bounds.2 more, Option.filter_some, if_pos low]
  rw [unit?, escaped?_hex4 bounds.1 (by simp [unit])]
  simp only [high, if_true, second]

theorem char_unit (start : List Char) {c : Char} {t : List Char} (h : unit? t = some (c, s)) :
    char start ('\\' :: 'u' :: t) = .ok (c, s) := by
  rw [char, h]

/-- the ways in which a character is written: by a letter, as it stands, or by one unit or two -/
theorem escape_cases (c : Char) :
    (∃ l, letter? l = some c ∧ escape c = ['\\', l]) ∨
    (escape c = [c] ∧ c ≠ '"' ∧ c ≠ '\\' ∧ 0x20 ≤ c.toNat ∧ c.toNat < 0x7F) ∨
    (escape c = unit c.toNat ∧ c.toNat < 0x10000) ∨
    (escape c = unit (0xD800 + (c.toNat - 0x10000) / 0x400) ++ unit (0xDC00 + (c.toNat - 0x10000) % 0x400) ∧
      0x10000 ≤ c.toNat) := by
  by_cases named : ∃ l, letter? l = some c ∧ escape c = ['\\', l]
  · exact .inl named
  · have other : c ≠ '"' ∧ c ≠ '\\' ∧ c ≠ '\n' ∧ c ≠ '\r' ∧ c ≠ '\t' ∧ c ≠ '\x08' ∧ c ≠ '\x0c' := by
      refine ⟨?_, ?_, ?_, ?_, ?_, ?_, ?_⟩
      all_goals
        rintro rfl
        exact named ⟨_, rfl, rfl⟩
    obtain ⟨quote, stroke, feed, back, tab, erase, page⟩ := other
    right
    unfold escape
    simp only [quote, stroke, feed, back, tab, erase, page, if_false]
    split
    · next plain => exact .inl ⟨rfl, quote, stroke, plain⟩
    · split
      · next small => exact .inr (.inl ⟨rfl, small⟩)
      · next large => exact .inr (.inr ⟨rfl, Nat.le_of_not_lt large⟩)

theorem mem_letters {l c : Char} (named : letter? l = some c) :
    l ∈ ['"', '\\', '/', 'b', 'f', 'n', 'r', 't'] := by
  unfold letter? at named
  split at named <;> simp at named ⊢

theorem isPlain_escape (c : Char) : IsPlain (escape c) := by
  rcases escape_cases c with ⟨l, named, spelled⟩ | ⟨spelled, -, -, plain⟩ | ⟨spelled, -⟩ | ⟨spelled, -⟩
  · have all : IsPlain ['"', '\\', '/', 'b', 'f', 'n', 'r', 't'] := by decide
    rw [spelled, isPlain_cons, isPlain_cons]
    exact ⟨by decide, all l (mem_letters named), isPlain_nil⟩
  · rw [spelled, isPlain_cons]
    exact ⟨plain, isPlain_nil⟩
  · rw [spelled]
    exact isPlain_unit _
  · rw [spelled]
    exact isPlain_append.mpr ⟨isPlain_unit _, isPlain_unit _⟩

theorem char_letter (start : List Char) {l c : Char} (named : letter? l = some c) (s : List Char) :
    char start ('\\' :: l :: s) = .ok (c, s) := by
  have notUnit : l ≠ 'u' := by
    rintro rfl
    cases named
  unfold char
  split
  · next h => cases h
  · next h => exact absurd (List.cons.inj (List.cons.inj h).2).1 notUnit
  · next h =>
    obtain ⟨rfl, rfl⟩ := List.cons.inj (List.cons.inj h).2
    simp [named]
  · next h => cases h
  · next noLetter _ h =>
    obtain ⟨rfl, rfl⟩ := List.cons.inj h
    exact (noLetter _ _ rfl rfl).elim

theorem char_plain (start : List Char) {c : Char} (stroke : c ≠ '\\') (visible : 0x20 ≤ c.toNat)
    (s : List Char) : char start (c :: s) = .ok (c, s) := by
  unfold char
  split
  · next h => cases h
  · next h => exact absurd (List.cons.inj h).1 stroke
  · next h => exact absurd (List.cons.inj h).1 stroke
  · next h => exact absurd (List.cons.inj h).1 stroke
  · next h =>
    obtain ⟨rfl, rfl⟩ := List.cons.inj h
    rw [if_neg (Nat.not_lt.mpr visible)]

/-- a character is read back from what it is written with -/
theorem char_escape (start : List Char) (c : Char) (more : s ≠ []) :
    char start (escape c ++ s) = .ok (c, s) := by
  have valid : c.toNat < 0xD800 ∨ 0xDFFF < c.toNat ∧ c.toNat < 0x110000 := c.valid
  rcases escape_cases c with ⟨l, named, spelled⟩ | ⟨spelled, -, stroke, plain⟩ |
    ⟨spelled, small⟩ | ⟨spelled, large⟩
  · rw [spelled]
    exact char_letter start named s
  · rw [spelled]
    exact char_plain start stroke plain.1 s
  · have alone : isHigh c.toNat = false ∧ isLow c.toNat = false := by
      simp only [isHigh, isLow, decide_eq_false_iff_not]
      omega
    have read := unit?_hex4 small alone more
    rw [Char.ofNat_toNat] at read
    rw [spelled]
    exact char_unit start read
  · let rest := c.toNat - 0x10000
    have pair : isHigh (0xD800 + rest / 0x400) ∧ isLow (0xDC00 + rest % 0x400) := by
      simp only [isHigh, isLow, decide_eq_true_eq]
      omega
    have whole : 0x10000 + (0xD800 + rest / 0x400 - 0xD800) * 0x400 + (0xDC00 + rest % 0x400 - 0xDC00) =
        c.toNat := by omega
    have read := unit?_pair pair.1 pair.2 more
    rw [whole, Char.ofNat_toNat] at read
    rw [spelled, List.append_assoc]
    exact char_unit start read

/-! ## Strings -/

theorem escape_ne_quote (c : Char) (s t : List Char) : escape c ++ s ≠ '"' :: t := by
  rcases escape_cases c with ⟨l, -, spelled⟩ | ⟨spelled, quote, -⟩ | ⟨spelled, -⟩ | ⟨spelled, -⟩
  · simp [spelled]
  · simp [spelled, quote]
  · simp [spelled, unit]
  · simp [spelled, unit]

theorem string_quote (start cs s : List Char) {n : Nat} (enough : cs.length ≤ n) :
    string start n (cs.flatMap escape ++ '"' :: s) = .ok (cs, s) := by
  induction cs generalizing n with
  | nil => cases n <;> rfl
  | cons c cs ih =>
    obtain ⟨n, rfl⟩ : ∃ m, n = m + 1 := ⟨n - 1, by simp at enough; omega⟩
    have more : cs.flatMap escape ++ '"' :: s ≠ [] := by simp
    have tail := ih (Nat.le_of_succ_le_succ enough)
    rw [List.flatMap_cons, List.append_assoc]
    unfold string
    split
    · next h => exact absurd h (escape_ne_quote c _ _)
    · next h _ => cases h
    · next same _ =>
      obtain rfl := Nat.succ.inj same
      rw [char_escape start c more]
      show (string start _ _ >>= _) = _
      rw [tail]
      rfl

theorem isPlain_quote (cs : List Char) : IsPlain (quote cs) := by
  have inside : IsPlain (cs.flatMap escape) := fun d mem => by
    obtain ⟨c, -, here⟩ := List.mem_flatMap.mp mem
    exact isPlain_escape c d here
  rw [quote, isPlain_cons, isPlain_append, isPlain_cons]
  exact ⟨by decide, inside, by decide, isPlain_nil⟩

end SnippetStudio.Json
