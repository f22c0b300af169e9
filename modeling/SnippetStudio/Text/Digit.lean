import SnippetStudio.Text.Blank

/-!
# Decimal digits

The digits of every script come in runs of ten, zero first (`zeros`, Unicode 14), so a digit's
value is its distance from the zero of its run (`digit?`).  `numeral` reads a run of digits.

A whole number is written with a sign or none, and digits of any script with single underscores between them
(`integer?`); blanks around it do not count.
-/

namespace SnippetStudio.Text

/-- the zero of each script -/
def zeros : List Nat :=
  [0x30, 0x660, 0x6F0, 0x7C0, 0x966, 0x9E6, 0xA66, 0xAE6, 0xB66, 0xBE6, 0xC66, 0xCE6, 0xD66,
   0xDE6, 0xE50, 0xED0, 0xF20, 0x1040, 0x1090, 0x17E0, 0x1810, 0x1946, 0x19D0, 0x1A80, 0x1A90,
   0x1B50, 0x1BB0, 0x1C40, 0x1C50, 0xA620, 0xA8D0, 0xA900, 0xA9D0, 0xA9F0, 0xAA50, 0xABF0, 0xFF10,
   0x104A0, 0x10D30, 0x11066, 0x110F0, 0x11136, 0x111D0, 0x112F0, 0x11450, 0x114D0, 0x11650,
   0x116C0, 0x11730, 0x118E0, 0x11950, 0x11C50, 0x11D50, 0x11DA0, 0x16A60, 0x16AC0, 0x16B50,
   0x1D7CE, 0x1D7D8, 0x1D7E2, 0x1D7EC, 0x1D7F6, 0x1E140, 0x1E2F0, 0x1E950, 0x1FBF0]

/-- the value of a decimal digit -/
def digit? (c : Char) : Option Nat :=
  if c.toNat < 0x80 then
    if c.isDigit then some (c.toNat - 0x30) else none
  else (zeros.find? fun z => z ≤ c.toNat && c.toNat < z + 10).map (c.toNat - ·)

def isDecimal (c : Char) : Bool := (digit? c).isSome

/-- the number that a list of digits writes; other characters count as zero -/
def numeral (cs : List Char) : Nat :=
  cs.foldl (fun n c => 10 * n + (digit? c).getD 0) 0

theorem numeral_concat (cs : List Char) (c : Char) :
    numeral (cs ++ [c]) = 10 * numeral cs + (digit? c).getD 0 := by
  simp [numeral, List.foldl_append]

theorem digit?_lt (c : Char) : (digit? c).getD 0 < 10 := by
  unfold digit?
  split
  · split
    · next h =>
      simp only [Char.isDigit, Bool.and_eq_true, decide_eq_true_eq] at h
      have last : c.toNat ≤ 57 := UInt32.le_iff_toNat_le.mp h.2
      rw [Option.getD_some]
      omega
    · decide
  · cases found : zeros.find? fun z => z ≤ c.toNat && c.toNat < z + 10 with
    | none => exact Nat.succ_pos 9
    | some z =>
      have near := List.find?_some found
      simp only [Bool.and_eq_true, decide_eq_true_eq] at near
      rw [Option.map_some, Option.getD_some]
      omega

/-- the least whole number with more than `k` digits -/
def leastBeyond (k : Nat) : Nat := Nat.pow 10 k

theorem numeral_lt (cs : List Char) : numeral cs < leastBeyond cs.length := by
  have from_ (n : Nat) : cs.foldl (fun n c => 10 * n + (digit? c).getD 0) n < (n + 1) * 10 ^ cs.length := by
    induction cs generalizing n with
    | nil => simp
    | cons c cs ih =>
      have first := digit?_lt c
      calc (c :: cs).foldl (fun n c => 10 * n + (digit? c).getD 0) n
        _ < (10 * n + (digit? c).getD 0 + 1) * 10 ^ cs.length := ih _
        _ ≤ ((n + 1) * 10) * 10 ^ cs.length := Nat.mul_le_mul_right _ (by omega)
        _ = (n + 1) * 10 ^ (c :: cs).length := by rw [List.length_cons, Nat.pow_succ', Nat.mul_assoc]
  simpa [numeral, leastBeyond] using from_ 0

theorem numeral_lt_of_le {cs : List Char} {k : Nat} (h : cs.length ≤ k) : numeral cs < leastBeyond k :=
  Nat.lt_of_lt_of_le (numeral_lt cs) (Nat.pow_le_pow_right (Nat.succ_pos 9) h)

/-! ## whole numbers -/

/-- digits with single underscores between them, without the underscores -/
def digits? : List Char → Option (List Char)
  | [c] => if isDecimal c then some [c] else none
  | c :: '_' :: s => if isDecimal c then (digits? s).map (c :: ·) else none
  | c :: s => if isDecimal c then (digits? s).map (c :: ·) else none
  | [] => none

/-- the most digits of a whole number that is read from a text or turned into one -/
def integerLimit : Nat := 4300

/-- a whole number with no more digits than the limit -/
def isShort (n : Int) : Bool := decide (n.natAbs < leastBeyond integerLimit)

theorem isShort_iff {n : Int} : isShort n = true ↔ n.natAbs < leastBeyond integerLimit := decide_eq_true_iff

def natural? (s : List Char) : Option Nat :=
  ((digits? s).filter fun ds => ds.length ≤ integerLimit).map numeral

def integer? (s : List Char) : Option Int :=
  match trim s with
  | '-' :: s => (natural? s).map fun n => -(n : Int)
  | '+' :: s => (natural? s).map Int.ofNat
  | s => (natural? s).map Int.ofNat

end SnippetStudio.Text
