import SnippetStudio.Text.Digit

/-!
# Binary values

A finite binary value is a sign and a magnitude `mant * 2 ^ exp` (`Binary`).  `Kind.ofFloat` reads a
double's bits; the values that are no number come out as cases of their own.

`cmp` compares a magnitude's quarter units with a decimal, on natural numbers.

`nearest` is the double nearest to `digits * 10 ^ exp`.  Exponents so large or so small that the answer is
infinity or zero whatever the digits are settled before any power is computed.
-/

namespace SnippetStudio.Decimal

/-- the magnitude `mant * 2 ^ exp` -/
structure Binary where
  mant : Nat
  exp : Int
  /-- the gap to the value below is half the gap to the value above -/
  narrowBelow : Bool
deriving Repr, DecidableEq

inductive Kind where
  | nan
  | infinite (negative : Bool)
  | finite (negative : Bool) (magnitude : Binary)
deriving Repr, DecidableEq

def Kind.ofBits (b : UInt64) : Kind :=
  let negative := b >>> 63 != 0
  let e := ((b >>> 52) &&& 0x7FF).toNat
  let f := (b &&& 0xFFFFFFFFFFFFF).toNat
  if e = 0x7FF then (if f = 0 then .infinite negative else .nan)
  else if e = 0 then .finite negative ⟨f, -1074, false⟩
  else .finite negative ⟨Nat.pow 2 52 + f, (e : Int) - 1075, f == 0 && decide (1 < e)⟩

def Kind.ofFloat (x : Float) : Kind := .ofBits x.toBits

/-- how `a * 10 ^ i` compares with `n * 2 ^ j` -/
def cmp (a : Nat) (i : Int) (n : Nat) (j : Int) : Ordering :=
  compare (a * Nat.pow 10 i.toNat * Nat.pow 2 (-j).toNat) (n * Nat.pow 2 j.toNat * Nat.pow 10 (-i).toNat)

/-! ## reading decimals -/

/-- the double nearest to `digits * 10 ^ exp` -/
def nearest (digits : Nat) (exp : Int) : Float :=
  if digits = 0 then 0.0
  else
    let lead : Int := exp + (toString digits).length
    if 400 < lead then 1.0 / 0.0
    else if lead < -400 then 0.0
    else Float.ofScientific digits (decide (exp < 0)) exp.natAbs

/-- sign, whole digits, digits behind the point and exponent as one double -/
def ofParts (negative : Bool) (whole fraction : List Char) (exp : Int) : Float :=
  let x := nearest (Text.numeral (whole ++ fraction)) (exp - fraction.length)
  if negative then -x else x

/-- the double nearest to a whole number -/
def ofInt (n : Int) : Float :=
  let x := nearest n.natAbs 0
  if n < 0 then -x else x

end SnippetStudio.Decimal
