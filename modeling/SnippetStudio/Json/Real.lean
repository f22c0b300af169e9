import SnippetStudio.Text.Scan
import SnippetStudio.Json.Basic

/-!
# Numbers with a point

How the numbers of type `ρ` are written and read as tokens of a JSON text (`Reals ρ`), and the two
functions for doubles.  Next to the numbers of the format there are the three words for the
values that no digits name: `NaN`, `Infinity` and `-Infinity`.
-/

namespace SnippetStudio.Json

structure Reals (ρ : Type) where
  write : ρ → List Char
  read : List Char → ρ

/-- a number token: sign, whole digits, digits behind the point, exponent -/
structure Token where
  negative : Bool
  whole : List Char
  fraction : Option (List Char)
  exponent : Option (Bool × List Char)
deriving Repr, DecidableEq

namespace Token

/-- no point and no exponent -/
def isWhole (t : Token) : Bool := t.fraction.isNone && t.exponent.isNone

def text (t : Token) : List Char :=
  (if t.negative then ['-'] else []) ++ t.whole ++
    (match t.fraction with | some f => '.' :: f | none => []) ++
    (match t.exponent with
      | some (neg, e) => 'e' :: (if neg then ['-'] else []) ++ e
      | none => [])

def int (t : Token) : Int :=
  let n : Int := Text.numeral t.whole
  if t.negative then -n else n

def float (t : Token) : Float :=
  let e : Int := match t.exponent with
    | some (neg, ds) => if neg then -(Text.numeral ds : Int) else Text.numeral ds
    | none => 0
  Decimal.ofParts t.negative t.whole (t.fraction.getD []) e

end Token

def isAsciiDigit (c : Char) : Bool := c.isDigit

/-- one digit or more -/
def digits1? (s : List Char) : Option (List Char × List Char) :=
  match s.takeWhile isAsciiDigit with
  | [] => none
  | ds => some (ds, s.dropWhile isAsciiDigit)

/-- the whole part: a lone zero, or digits that do not start with one -/
def whole? : List Char → Option (List Char × List Char)
  | '0' :: s => some (['0'], s)
  | s => digits1? s

def fraction? : List Char → Option (List Char × List Char)
  | '.' :: s => digits1? s
  | _ => none

def exponentDigits? : List Char → Option ((Bool × List Char) × List Char)
  | '+' :: s => (digits1? s).map fun d => ((false, d.1), d.2)
  | '-' :: s => (digits1? s).map fun d => ((true, d.1), d.2)
  | s => (digits1? s).map fun d => ((false, d.1), d.2)

def exponent? : List Char → Option ((Bool × List Char) × List Char)
  | 'e' :: s => exponentDigits? s
  | 'E' :: s => exponentDigits? s
  | _ => none

/-- a minus at the front, and the rest -/
def cutMinus : List Char → Bool × List Char
  | '-' :: s => (true, s)
  | s => (false, s)

/-- a part that need not be there, and the rest -/
def optional {α : Type} (part? : List Char → Option (α × List Char)) (s : List Char) :
    Option α × List Char :=
  match part? s with
  | some (x, s) => (some x, s)
  | none => (none, s)

/-- the longest number token at the front -/
def token? (s : List Char) : Option (Token × List Char) :=
  let (negative, s) := cutMinus s
  match whole? s with
  | none => none
  | some (whole, s) =>
    let (fraction, s) := optional fraction? s
    let (exponent, s) := optional exponent? s
    some (⟨negative, whole, fraction, exponent⟩, s)

def nanWord : List Char := "NaN".toList
def infinityWord : List Char := "Infinity".toList

/-- doubles: shortest text, and the nearest double of a token -/
def doubles : Reals Float where
  write x := match Decimal.Kind.ofFloat x with
    | .nan => nanWord
    | .infinite n => Decimal.signed n infinityWord
    | .finite .. => (Decimal.shortText x).toList
  read s :=
    if s = nanWord then 0.0 / 0.0
    else if s = infinityWord then 1.0 / 0.0
    else if s = '-' :: infinityWord then -1.0 / 0.0
    else match token? s with
      | some (t, _) => t.float
      | none => 0.0

end SnippetStudio.Json
