import SnippetStudio.Decimal.Binary

/-!
# The shortest decimal of a binary value

A decimal *reads back* to a binary value when it lies between the midpoints to the value's two
neighbours, the midpoints included where the value's mantissa is even (`Binary.readsBack`).
`Binary.shortest` searches the grids of one, two, … seventeen digits and takes the first one on
which a neighbour of the value reads back; of two it takes the nearer, on a tie the even one.
-/

namespace SnippetStudio.Decimal

/-- the number `digits * 10 ^ exp` -/
structure Digits where
  digits : Nat
  exp : Int
deriving Repr, DecidableEq

def Binary.readsBack (x : Binary) (d : Digits) : Bool :=
  let lo := if x.narrowBelow then 4 * x.mant - 1 else 4 * x.mant - 2
  let hi := 4 * x.mant + 2
  let ends := x.mant % 2 == 0
  let l := cmp d.digits d.exp lo (x.exp - 2)
  let h := cmp d.digits d.exp hi (x.exp - 2)
  (l == .gt || (ends && l == .eq)) && (h == .lt || (ends && h == .eq))

/-- the value is below `10 ^ k` -/
def Binary.below (x : Binary) (k : Int) : Bool := cmp 1 k x.mant x.exp == .gt

/-- the least `k` with the value below `10 ^ k`, sought upwards -/
def Binary.scaleFrom (x : Binary) : Nat → Int → Int
  | 0, k => k
  | n + 1, k => if x.below k then k else x.scaleFrom n (k + 1)

/-- the number of digits before the point; not positive for values below one tenth -/
def Binary.scale (x : Binary) : Int :=
  let bits : Int := x.mant.log2 + x.exp
  x.scaleFrom 4 (bits * 30102 / 100000 - 1)

/-- the whole part of the value in units of `10 ^ e` -/
def Binary.floorAt (x : Binary) (e : Int) : Nat :=
  (x.mant * Nat.pow 2 x.exp.toNat * Nat.pow 10 (-e).toNat) / (Nat.pow 2 (-x.exp).toNat * Nat.pow 10 e.toNat)

/-- the neighbour on the grid of `10 ^ e` that reads back, the nearer one of two -/
def Binary.onGrid? (x : Binary) (e : Int) : Option Digits :=
  let a := x.floorAt e
  let below := x.readsBack ⟨a, e⟩
  let above := x.readsBack ⟨a + 1, e⟩
  match below, above with
  | true, true =>
    match cmp (2 * a + 1) e (2 * x.mant) x.exp with
    | .gt => some ⟨a, e⟩
    | .lt => some ⟨a + 1, e⟩
    | .eq => some ⟨if a % 2 = 0 then a else a + 1, e⟩
  | true, false => some ⟨a, e⟩
  | false, true => some ⟨a + 1, e⟩
  | false, false => none

/-- no trailing zeros -/
def Digits.strip : Nat → Digits → Digits
  | 0, d => d
  | n + 1, d => if d.digits % 10 = 0 ∧ d.digits ≠ 0 then strip n ⟨d.digits / 10, d.exp + 1⟩ else d

/-- the value itself, as a decimal -/
def Binary.exact (x : Binary) : Digits :=
  ⟨x.mant * Nat.pow 2 x.exp.toNat * Nat.pow 5 (-x.exp).toNat, if x.exp < 0 then x.exp else 0⟩

def Binary.shortest (x : Binary) : Digits :=
  let k := x.scale
  match (List.range 17).findSome? fun (n : Nat) => x.onGrid? (k - 1 - n) with
  | some d => d.strip 20
  | none => x.exact

end SnippetStudio.Decimal
