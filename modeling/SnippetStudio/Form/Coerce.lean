import SnippetStudio.Form.Issue
import SnippetStudio.Json.Real
import SnippetStudio.Text.Blank

/-!
# Values for typed fields

A text field takes texts only.  Fields of the other types also take what stands for a value of the
type: a whole number its digits, with a sign, single underscores between digits and zeros behind a
point; a boolean the numbers 1 and 0 and a few words (`trueWords`, `falseWords`); a number the texts of
numbers and of infinity.  Blanks around digits are left out of account, in a number with a point only where
it has no underscores; the separator controls U+001C to U+001F are no blanks here.
-/

namespace SnippetStudio.Form

def isPad (c : Char) : Bool := Text.isBlank c && !decide (0x1C ≤ c.toNat ∧ c.toNat ≤ 0x1F)

def strip (s : List Char) : List Char :=
  ((s.dropWhile isPad).reverse.dropWhile isPad).reverse

def text : Json → Except Cause String
  | .str s => .ok s
  | _ => .error .notText

/-- the sign at the front, true for a minus, and the rest -/
def cutSign : List Char → Bool × List Char
  | '+' :: s => (false, s)
  | '-' :: s => (true, s)
  | s => (false, s)

/-- zeros in front of another character are dropped, with the underscores among them; a point keeps the
character before it -/
def behindZeros : Char → List Char → List Char
  | last, [] => [last]
  | last, c :: s =>
    if c == '0' || c == '_' then behindZeros c s
    else if c == '.' then last :: c :: s
    else c :: s

/-- a text that begins with a digit, without zeros in front -/
def dropZeros? : List Char → Option (List Char)
  | '0' :: s => some (behindZeros '0' s)
  | c :: s => if c.isDigit then some (c :: s) else none
  | [] => none

/-- a point with nothing but zeros behind it is dropped -/
def dropFraction (s : List Char) : List Char :=
  let tail := s.dropWhile (· != '.')
  match tail with
  | '.' :: z :: zs => if (z :: zs).all (· == '0') then s.takeWhile (· != '.') else s
  | _ => s

/-- single underscores inside a text are dropped -/
def dropUnderscores (s : List Char) : List Char :=
  if s.head? == some '_' || s.getLast? == some '_' || pairs s then s else s.filter (· != '_')
where
  pairs : List Char → Bool
    | '_' :: '_' :: _ => true
    | _ :: s => pairs s
    | [] => false

/-- the most digits of a whole number -/
def integerLimit : Nat := 4300

/-- a whole number in its plain form: a minus or no sign, and digits without a zero in front of others -/
def plainInteger (s : List Char) : Except Cause Int :=
  let (negative, ds) := match s with
    | '-' :: ds => (true, ds)
    | ds => (false, ds)
  let run := ds.takeWhile Char.isDigit
  if run.isEmpty || (run.head? == some '0' && run.length != 1) then .error .notIntegerText
  else if integerLimit < run.length then .error .integerTooLong
  else if run.length < ds.length then .error .notIntegerText
  else
    let n : Int := Text.numeral ds
    .ok (if negative then -n else n)

/-- the plain form of a whole number -/
def tidyInteger? (s : List Char) : Option (List Char) :=
  let (negative, s) := cutSign s
  (dropZeros? s).map fun s =>
    let s := dropUnderscores (dropFraction s)
    if negative then '-' :: s else s

def readInteger (s : List Char) : Except Cause Int :=
  match plainInteger (strip s) with
  | .error .notIntegerText =>
    match tidyInteger? (strip s) with
    | some t => plainInteger t
    | none => .error .notIntegerText
  | r => r

/-- a whole double below `2 ^ 63` in magnitude -/
def ofWhole (x : Float) : Except Cause Int :=
  match Decimal.Kind.ofFloat x with
  | .nan => .error .notFinite
  | .infinite _ => .error .notFinite
  | .finite negative m =>
    let den := Nat.pow 2 (-m.exp).toNat
    let num := m.mant * Nat.pow 2 m.exp.toNat
    if num % den ≠ 0 then .error .fractional
    else if Nat.pow 2 63 ≤ num / den then .error .integerTooLong
    else .ok (if negative then -(num / den : Nat) else (num / den : Nat))

def integer : Json → Except Cause Int
  | .int n => .ok n
  | .bool b => .ok (if b then 1 else 0)
  | .real x => ofWhole x
  | .str s => readInteger s.toList
  | _ => .error .notInteger

def trueWords : List String := ["1", "t", "y", "on", "yes", "true"]

def falseWords : List String := ["0", "f", "n", "no", "off", "false"]

def ofNumber (n : Int) : Except Cause Bool :=
  if n = 0 then .ok false else if n = 1 then .ok true else .error .notBooleanText

def boolean : Json → Except Cause Bool
  | .bool b => .ok b
  | .int n => if Int64.minValue.toInt ≤ n ∧ n ≤ Int64.maxValue.toInt then ofNumber n else .error .notBoolean
  | .real x =>
    match ofWhole x with
    | .ok n => ofNumber n
    | .error _ => .error .notBoolean
  | .str s =>
    let w := String.ofList (s.toList.map Char.toLower)
    if w ∈ trueWords then .ok true
    else if w ∈ falseWords then .ok false
    else .error .notBooleanText
  | _ => .error .notBoolean

/-- digits with an optional point, at least one digit in all, and an exponent -/
def readDecimal? (s : List Char) : Option Float :=
  let (negative, s) := match s with
    | '-' :: r => (true, r)
    | '+' :: r => (false, r)
    | r => (false, r)
  let whole := s.takeWhile Json.isAsciiDigit
  let rest := s.dropWhile Json.isAsciiDigit
  let (fraction, rest) := match rest with
    | '.' :: r => (r.takeWhile Json.isAsciiDigit, r.dropWhile Json.isAsciiDigit)
    | r => ([], r)
  let word := String.ofList (s.map Char.toLower)
  if word = "inf" ∨ word = "infinity" then some (if negative then -1.0 / 0.0 else 1.0 / 0.0)
  else if word = "nan" then some (0.0 / 0.0)
  else if whole.isEmpty && fraction.isEmpty then none
  else match rest with
    | [] => some (Decimal.ofParts negative whole fraction 0)
    | rest =>
      match Json.exponent? rest with
      | some ((neg, ds), []) =>
        let e : Int := Text.numeral ds
        some (Decimal.ofParts negative whole fraction (if neg then -e else e))
      | _ => none

def readNumber (s : List Char) : Except Cause Float :=
  match readDecimal? (strip s) with
  | some x => .ok x
  | none =>
    match readDecimal? (dropUnderscores s) with
    | some x => .ok x
    | none => .error .notNumberText

def number : Json → Except Cause Float
  | .real x => .ok x
  | .int n =>
    let x := Decimal.ofInt n
    if x.isFinite then .ok x else .error .notNumber
  | .bool b => .ok (if b then 1.0 else 0.0)
  | .str s => readNumber s.toList
  | _ => .error .notNumber

/-- a field that may also be null -/
def optional {α : Type} (read : Json → Except Cause α) : Json → Except Cause (Option α)
  | .null => .ok none
  | v => (read v).map some

end SnippetStudio.Form
