import SnippetStudio.Json.Real
import SnippetStudio.Text.Run

/-!
# Numbers read back

A number is written as a token: a sign, whole digits, digits behind a point, an exponent with its sign
(`Token.Spells`).  A token is read back as it was spelled, up to the first character that cannot go on with it.

* `token?_spelled`    **a token is read back as it was spelled**;
* `spells_ofInt`      whole numbers are spelled so, and `int_ofInt` are the same numbers again;
* `spelled_doubles`   every double is, too, or is one of three words.
-/

namespace SnippetStudio.Json

open Text

variable {ds rest s : List Char}

/-- digits, one at least -/
def IsDigits (ds : List Char) : Prop := ds ≠ [] ∧ ∀ c ∈ ds, isAsciiDigit c

/-- a lone zero, or digits that do not begin with one -/
def IsWholePart (ds : List Char) : Prop := ds = ['0'] ∨ IsDigits ds ∧ ds.head? ≠ some '0'

/-- a character that can go on with a number -/
def isNumeric (c : Char) : Bool := isAsciiDigit c || c == '.' || c == 'e' || c == 'E'

def fractionText : Option (List Char) → List Char
  | some f => '.' :: f
  | none => []

/-- an exponent has its sign -/
def exponentText : Option (Bool × List Char) → List Char
  | some (negative, e) => 'e' :: (if negative then '-' else '+') :: e
  | none => []

/-- the token is spelled so -/
structure Token.Spells (t : Token) (s : List Char) : Prop where
  whole : IsWholePart t.whole
  fraction : ∀ f ∈ t.fraction, IsDigits f
  exponent : ∀ e ∈ t.exponent, IsDigits e.2
  text : s = (if t.negative then ['-'] else []) ++
    (t.whole ++ (fractionText t.fraction ++ exponentText t.exponent))

theorem digits1?_append (digits : IsDigits ds) (stops : Stops isAsciiDigit rest) :
    digits1? (ds ++ rest) = some (ds, rest) := by
  obtain ⟨c, cs, rfl⟩ := List.exists_cons_of_ne_nil digits.1
  rw [digits1?, takeWhile_run digits.2 stops, dropWhile_run digits.2 stops]

theorem whole?_append (whole : IsWholePart ds) (stops : Stops isAsciiDigit rest) :
    whole? (ds ++ rest) = some (ds, rest) := by
  rcases whole with rfl | ⟨digits, noZero⟩
  · rfl
  · unfold whole?
    split
    · next zero =>
      obtain ⟨c, cs, rfl⟩ := List.exists_cons_of_ne_nil digits.1
      obtain ⟨rfl, -⟩ := List.cons.inj zero
      exact absurd rfl noZero
    · exact digits1?_append digits stops

theorem fraction?_append (fraction : Option (List Char)) (digits : ∀ f ∈ fraction, IsDigits f)
    (stops : Stops (fun c => isAsciiDigit c || c == '.') rest) :
    optional fraction? (fractionText fraction ++ rest) = (fraction, rest) := by
  cases fraction with
  | some f =>
    have behind : Stops isAsciiDigit rest := fun c hc => (Bool.or_eq_false_iff.mp (stops c hc)).1
    have read : fraction? (fractionText (some f) ++ rest) = some (f, rest) :=
      digits1?_append (digits f rfl) behind
    rw [optional, read]
  | none =>
    have noPoint : fraction? rest = none := by
      unfold fraction?
      split
      · exact absurd (stops '.' rfl) (by decide)
      · rfl
    show optional fraction? rest = _
    rw [optional, noPoint]

theorem exponentDigits?_append (negative : Bool) (digits : IsDigits ds) (stops : Stops isAsciiDigit rest) :
    exponentDigits? ((if negative then '-' else '+') :: (ds ++ rest)) = some ((negative, ds), rest) := by
  cases negative with
  | true =>
    show (digits1? (ds ++ rest)).map _ = _
    rw [digits1?_append digits stops]
    rfl
  | false =>
    show (digits1? (ds ++ rest)).map _ = _
    rw [digits1?_append digits stops]
    rfl

theorem exponent?_append (exponent : Option (Bool × List Char)) (digits : ∀ e ∈ exponent, IsDigits e.2)
    (stops : Stops isNumeric rest) :
    optional exponent? (exponentText exponent ++ rest) = (exponent, rest) := by
  cases exponent with
  | some e =>
    obtain ⟨negative, ds⟩ := e
    have behind : Stops isAsciiDigit rest := fun c hc => by
      have := stops c hc
      simp only [isNumeric, Bool.or_eq_false_iff] at this
      exact this.1.1.1
    have read : exponent? (exponentText (some (negative, ds)) ++ rest) = some ((negative, ds), rest) :=
      exponentDigits?_append negative (digits _ rfl) behind
    rw [optional, read]
  | none =>
    have noSign : exponent? rest = none := by
      unfold exponent?
      split
      · exact absurd (stops 'e' rfl) (by decide)
      · exact absurd (stops 'E' rfl) (by decide)
      · rfl
    show optional exponent? rest = _
    rw [optional, noSign]

theorem isDigits_zero : IsDigits ['0'] :=
  ⟨List.cons_ne_nil _ _, List.forall_mem_singleton.mpr rfl⟩

theorem IsWholePart.isDigits (whole : IsWholePart ds) : IsDigits ds := by
  rcases whole with rfl | ⟨digits, -⟩
  · exact isDigits_zero
  · exact digits

theorem cutMinus_append (negative : Bool) (digits : IsDigits ds) (rest : List Char) :
    cutMinus ((if negative then ['-'] else []) ++ (ds ++ rest)) = (negative, ds ++ rest) := by
  cases negative with
  | true => rfl
  | false =>
    obtain ⟨c, cs, rfl⟩ := List.exists_cons_of_ne_nil digits.1
    show cutMinus (c :: (cs ++ rest)) = _
    unfold cutMinus
    split
    · next h =>
      obtain ⟨rfl, -⟩ := List.cons.inj h
      exact absurd (digits.2 '-' List.mem_cons_self) (by decide)
    · rfl

/-- **A token is read back as it was spelled.** -/
theorem token?_spelled {t : Token} (spelled : t.Spells s) (stops : Stops isNumeric rest) :
    token? (s ++ rest) = some (t, rest) := by
  obtain ⟨negative, whole, fraction, exponent⟩ := t
  obtain ⟨isWhole, fractionDigits, exponentDigits, rfl⟩ := spelled
  have afterFraction : Stops (fun c => isAsciiDigit c || c == '.') (exponentText exponent ++ rest) := by
    cases exponent with
    | some e =>
      rintro c ⟨⟩
      decide
    | none =>
      intro c hc
      have := stops c hc
      simp only [isNumeric, Bool.or_eq_false_iff] at this
      exact Bool.or_eq_false_iff.mpr this.1.1
  have afterWhole : Stops isAsciiDigit (fractionText fraction ++ (exponentText exponent ++ rest)) := by
    cases fraction with
    | some f =>
      rintro c ⟨⟩
      decide
    | none => exact fun c hc => (Bool.or_eq_false_iff.mp (afterFraction c hc)).1
  simp only [token?, List.append_assoc, cutMinus_append negative isWhole.isDigits,
    whole?_append isWhole afterWhole, fraction?_append fraction fractionDigits afterFraction,
    exponent?_append exponent exponentDigits stops]

/-! ## Whole numbers -/

theorem isDigits_toDigits (n : Nat) : IsDigits (Nat.toDigits 10 n) :=
  ⟨Nat.toDigits_ne_nil, fun _ mem => Nat.isDigit_of_mem_toDigits (by decide) (by decide) mem⟩

theorem digitChar_of_lt {k : Nat} (h : k < 10) :
    (digit? k.digitChar).getD 0 = k ∧ (k ≠ 0 → k.digitChar ≠ '0') := by
  have all : ∀ k : Fin 10, (digit? k.val.digitChar).getD 0 = k.val ∧ (k.val ≠ 0 → k.val.digitChar ≠ '0') := by
    decide
  exact all ⟨k, h⟩

theorem head?_toDigits {n : Nat} (positive : n ≠ 0) : (Nat.toDigits 10 n).head? ≠ some '0' := by
  induction n using Nat.strongRecOn with
  | _ n ih =>
    by_cases small : n < 10
    · rw [Nat.toDigits_of_lt_base small]
      simpa using (digitChar_of_lt small).2 positive
    · have fewer := ih (n / 10) (by omega) (by omega)
      obtain ⟨c, cs, digits⟩ := List.exists_cons_of_ne_nil (Nat.toDigits_ne_nil (n := n / 10) (b := 10))
      rw [digits] at fewer
      rw [Nat.toDigits_of_base_le (by decide) (Nat.le_of_not_lt small), digits]
      exact fewer

theorem isWholePart_toDigits (n : Nat) : IsWholePart (Nat.toDigits 10 n) := by
  by_cases h : n = 0
  · exact .inl (h ▸ rfl)
  · exact .inr ⟨isDigits_toDigits n, head?_toDigits h⟩

theorem numeral_toDigits (n : Nat) : numeral (Nat.toDigits 10 n) = n := by
  induction n using Nat.strongRecOn with
  | _ n ih =>
    by_cases small : n < 10
    · rw [Nat.toDigits_of_lt_base small]
      exact (Nat.zero_add _).trans (digitChar_of_lt small).1
    · rw [Nat.toDigits_of_base_le (by decide) (Nat.le_of_not_lt small), numeral_concat, ih _ (by omega),
        (digitChar_of_lt (Nat.mod_lt n (by decide))).1]
      exact Nat.div_add_mod n 10

/-- the token of a whole number -/
def Token.ofInt (n : Int) : Token := ⟨decide (n < 0), Nat.toDigits 10 n.natAbs, none, none⟩

theorem spells_ofInt (n : Int) : (Token.ofInt n).Spells (toString n).toList := by
  refine ⟨isWholePart_toDigits _, nofun, nofun, ?_⟩
  show (toString n).toList = (if decide (n < 0) then ['-'] else []) ++ (Nat.toDigits 10 n.natAbs ++ [])
  rw [List.append_nil]
  cases n with
  | ofNat n => exact Nat.toList_repr
  | negSucc n =>
    show ("-" ++ Nat.repr (n + 1)).toList = _
    rw [String.toList_append, Nat.toList_repr, if_pos (decide_eq_true (Int.negSucc_lt_zero n))]
    rfl

theorem int_ofInt (n : Int) : (Token.ofInt n).int = n := by
  simp only [Token.int, Token.ofInt, numeral_toDigits, decide_eq_true_eq]
  split <;> omega

/-! ## Doubles -/

/-- the text is a number with a point or an exponent -/
def IsReal (negative : Bool) (s : List Char) : Prop :=
  ∃ t : Token, t.Spells s ∧ t.negative = negative ∧ t.isWhole = false

theorem isReal_point {whole fraction : List Char} (hw : IsWholePart whole) (hf : IsDigits fraction) :
    IsReal false (whole ++ '.' :: fraction) := by
  refine ⟨⟨false, whole, some fraction, none⟩, ⟨hw, ?_, nofun, ?_⟩, rfl, rfl⟩
  · rintro f ⟨⟩
    exact hf
  · simp [fractionText, exponentText]

theorem isReal_exponent {whole e : List Char} {fraction : Option (List Char)} (hw : IsWholePart whole)
    (hf : ∀ f ∈ fraction, IsDigits f) (he : IsDigits e) (negative : Bool) :
    IsReal false (whole ++ (fractionText fraction ++ 'e' :: (if negative then '-' else '+') :: e)) := by
  refine ⟨⟨false, whole, fraction, some (negative, e)⟩, ⟨hw, hf, ?_, rfl⟩, rfl, Bool.and_false _⟩
  rintro x ⟨⟩
  exact he

theorem IsDigits.append {es : List Char} (hd : IsDigits ds) (he : ∀ c ∈ es, isAsciiDigit c) :
    IsDigits (ds ++ es) :=
  ⟨List.append_ne_nil_of_left_ne_nil hd.1 es, List.forall_mem_append.mpr ⟨hd.2, he⟩⟩

theorem IsDigits.append_left {es : List Char} (he : ∀ c ∈ es, isAsciiDigit c) (hd : IsDigits ds) :
    IsDigits (es ++ ds) :=
  ⟨List.append_ne_nil_of_right_ne_nil es hd.1, List.forall_mem_append.mpr ⟨he, hd.2⟩⟩

theorem digits_zerosText (n : Nat) : ∀ c ∈ Decimal.zerosText n, isAsciiDigit c := by
  intro c mem
  rw [List.eq_of_mem_replicate mem]
  rfl

/-- digits that do not begin with a zero, laid out with a point -/
theorem isReal_positional (digits : IsDigits ds) (positive : ds.head? ≠ some '0') (lead : Int) :
    IsReal false (Decimal.positional ds lead) := by
  obtain ⟨c, cs, rfl⟩ := List.exists_cons_of_ne_nil digits.1
  unfold Decimal.positional
  split
  · exact isReal_point (.inl rfl) (digits.append_left (digits_zerosText _))
  · dsimp only
    split
    · rw [List.append_assoc, ← List.append_assoc]
      exact isReal_point (.inr ⟨digits.append (digits_zerosText _), positive⟩) isDigits_zero
    · next long =>
      refine isReal_point (.inr ⟨⟨by simp, fun d mem => digits.2 d (List.mem_of_mem_take mem)⟩, positive⟩)
        ⟨?_, fun d mem => digits.2 d (List.mem_of_mem_drop mem)⟩
      rw [← List.length_pos_iff, List.length_drop]
      omega

theorem isReal_scientific (digits : IsDigits ds) (positive : ds.head? ≠ some '0') (lead : Int) :
    IsReal false (Decimal.scientific ds lead) := by
  obtain ⟨c, cs, rfl⟩ := List.exists_cons_of_ne_nil digits.1
  obtain ⟨first, rest⟩ := List.forall_mem_cons.mp digits.2
  have front : IsWholePart [c] :=
    .inr ⟨⟨List.cons_ne_nil _ _, List.forall_mem_cons.mpr ⟨first, nofun⟩⟩, positive⟩
  have back : IsDigits (Decimal.zerosText (2 - (toString lead.natAbs).toList.length) ++
      (toString lead.natAbs).toList) := by
    refine IsDigits.append_left (digits_zerosText _) ?_
    show IsDigits (Nat.repr lead.natAbs).toList
    rw [Nat.toList_repr]
    exact isDigits_toDigits _
  have spelled (fraction : Option (List Char)) (hf : ∀ f ∈ fraction, IsDigits f) :=
    isReal_exponent front hf back (decide (lead < 0))
  simp only [decide_eq_true_eq] at spelled
  cases cs with
  | nil => exact spelled none nofun
  | cons d ds =>
    refine spelled (some (d :: ds)) ?_
    rintro f ⟨⟩
    exact ⟨List.cons_ne_nil _ _, rest⟩

theorem isReal_layout (d : Decimal.Digits) : IsReal false d.layout := by
  have digits : (toString d.digits).toList = Nat.toDigits 10 d.digits := Nat.toList_repr
  unfold Decimal.Digits.layout
  rw [digits]
  dsimp only
  split
  · exact isReal_point (.inl rfl) isDigits_zero
  · next positive =>
    split
    · exact isReal_positional (isDigits_toDigits _) (head?_toDigits positive) _
    · exact isReal_scientific (isDigits_toDigits _) (head?_toDigits positive) _

theorem isReal_signed (negative : Bool) (real : IsReal false s) : IsReal negative (Decimal.signed negative s) := by
  cases negative with
  | false => exact real
  | true =>
    obtain ⟨t, ⟨whole, fraction, exponent, rfl⟩, unsigned, notWhole⟩ := real
    refine ⟨{ t with negative := true }, ⟨whole, fraction, exponent, ?_⟩, rfl, notWhole⟩
    rw [unsigned]
    rfl

/-- the words for the numbers that have no digits -/
def realWords : List (List Char) := [nanWord, infinityWord, '-' :: infinityWord]

/-- every number is written as one of the words, or with a point or an exponent -/
def Reals.Spelled {ρ : Type} (r : Reals ρ) : Prop :=
  ∀ x, r.write x ∈ realWords ∨ ∃ negative, IsReal negative (r.write x)

theorem spelled_doubles : doubles.Spelled := by
  intro x
  unfold doubles
  dsimp only
  split
  · exact .inl (by decide)
  · next negative _ =>
    cases negative <;> exact .inl (by decide)
  · next negative m kind =>
    refine .inr ⟨negative, ?_⟩
    rw [Decimal.shortText, kind, String.toList_ofList]
    refine isReal_signed negative ?_
    split
    · exact isReal_point (.inl rfl) isDigits_zero
    · exact isReal_layout _

end SnippetStudio.Json
