import SnippetStudio.Decimal.Shortest

/-!
# Numbers as text

`shortText` writes a double with the fewest digits that identify it: positionally while the leading
digit stands for at least a ten-thousandth and less than `10 ^ 16`, with a point in any case;
otherwise with a signed exponent of at least two digits.

`onePlace` writes one digit behind the point, rounding the exact value, a tie to the even digit.
-/

namespace SnippetStudio.Decimal

def zerosText (n : Nat) : List Char := List.replicate n '0'

/-- digits with a point, where the leading digit stands for `10 ^ lead` -/
def positional (ds : List Char) (lead : Int) : List Char :=
  if lead < 0 then
    '0' :: '.' :: (zerosText (-lead - 1).toNat ++ ds)
  else
    let whole := lead.toNat + 1
    if ds.length ≤ whole then ds ++ zerosText (whole - ds.length) ++ ['.', '0']
    else ds.take whole ++ '.' :: ds.drop whole

def scientific (ds : List Char) (lead : Int) : List Char :=
  let tail := match ds with
    | [] => []
    | [d] => [d]
    | d :: r => d :: '.' :: r
  let e := (toString lead.natAbs).toList
  tail ++ 'e' :: (if lead < 0 then '-' else '+') :: (zerosText (2 - e.length) ++ e)

def Digits.layout (d : Digits) : List Char :=
  let ds := (toString d.digits).toList
  let lead : Int := d.exp + ds.length - 1
  if d.digits = 0 then ['0', '.', '0']
  else if -4 ≤ lead ∧ lead < 16 then positional ds lead
  else scientific ds lead

def signed (negative : Bool) (s : List Char) : List Char := if negative then '-' :: s else s

/-- the shortest text of a double -/
def shortText (x : Float) : String :=
  match Kind.ofFloat x with
  | .nan => "nan"
  | .infinite n => String.ofList (signed n "inf".toList)
  | .finite n m =>
    String.ofList (signed n (if m.mant = 0 then ['0', '.', '0'] else m.shortest.layout))

/-- a quotient to the nearest whole number, a tie to the even one -/
def roundDiv (num den : Nat) : Nat :=
  let q := num / den
  match compare (2 * (num % den)) den with
  | .lt => q
  | .gt => q + 1
  | .eq => if q % 2 = 0 then q else q + 1

/-- one digit behind the point -/
def onePlace (x : Float) : String :=
  match Kind.ofFloat x with
  | .nan => "nan"
  | .infinite n => String.ofList (signed n "inf".toList)
  | .finite n m =>
    let tenths := roundDiv (10 * m.mant * Nat.pow 2 m.exp.toNat) (Nat.pow 2 (-m.exp).toNat)
    String.ofList (signed n ((toString (tenths / 10)).toList ++ '.' :: (toString (tenths % 10)).toList))

end SnippetStudio.Decimal
