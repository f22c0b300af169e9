import SnippetStudio.Bytes.Base64
import SnippetStudio.Decimal.Binary

/-!
# Pictures

Of a picture the library keeps its size and the colour of its first pixel (`Picture`).  Before a
screenshot goes to a model it is brought down to a width and written without transparency, on white
(`Picture.reduced`).

Files are read and written by a `Codec`, which is given from outside.
-/

namespace SnippetStudio

inductive Colour where
  | rgb (r g b : Nat)
  | rgba (r g b a : Nat)
  | grey (l : Nat)
  | greyAlpha (l a : Nat)
deriving Repr, DecidableEq

namespace Colour

/-- the quotient `n / 255` to the nearest whole number, for `n ≤ 255 * 255` -/
def div255 (n : Nat) : Nat :=
  let t := n + 128
  (t / 256 + t) / 256

/-- a component seen through its opacity on white -/
def onWhite (c a : Nat) : Nat := div255 (255 * (255 - a) + c * a)

/-- a component that was weighed by its opacity and freed from it again -/
def weighed (c a : Nat) : Nat :=
  let w := div255 (c * a)
  if a = 0 ∨ a = 255 then w else min 255 (255 * w / a)

/-- the colour of pixels that are mixed from this one -/
def mixed : Colour → Colour
  | rgba r g b a => rgba (weighed r a) (weighed g a) (weighed b a) a
  | greyAlpha l a => greyAlpha (weighed l a) a
  | c => c

/-- red, green and blue on white -/
def solid : Colour → Nat × Nat × Nat
  | rgb r g b => (r, g, b)
  | rgba r g b a => (onWhite r a, onWhite g a, onWhite b a)
  | grey l => (l, l, l)
  | greyAlpha l a => (onWhite l a, onWhite l a, onWhite l a)

/-- the brightness from 0 to 255 -/
def luma (c : Colour) : Nat :=
  let (r, g, b) := c.solid
  (r * 19595 + g * 38470 + b * 7471 + 0x8000) / 0x10000

end Colour

structure Picture where
  width : Int
  height : Int
  colour : Colour
deriving Repr, DecidableEq

namespace Picture

/-- the whole part of a positive number, 0 for any other -/
def wholePart (x : Float) : Int :=
  match Decimal.Kind.ofFloat x with
  | .finite false m => (m.mant * Nat.pow 2 m.exp.toNat / Nat.pow 2 (-m.exp).toNat : Nat)
  | _ => 0

/-- the height that goes with a smaller width -/
def scaledHeight (p : Picture) (width : Int) : Int :=
  max 1 (wholePart (Decimal.ofInt p.height * (Decimal.ofInt width / Decimal.ofInt p.width)))

/-- the width of a screenshot for a model -/
def modelWidth : Int := 1280

/-- the quality, from 0 to 100, of a screenshot for a model -/
def modelQuality : Int := 75

/-- without transparency -/
def solid (p : Picture) : Picture :=
  let (r, g, b) := p.colour.solid
  { p with colour := .rgb r g b }

/-- at most `maxWidth` wide, and without transparency -/
def reduced (p : Picture) (maxWidth : Int) : Except Fault Picture :=
  if maxWidth < p.width then
    if maxWidth ≤ 0 then .error (.value "height and width must be > 0")
    else .ok (solid ⟨maxWidth, p.scaledHeight maxWidth, p.colour.mixed⟩)
  else .ok p.solid

/-- the first pixel is nearer to white than to black -/
def isLight (p : Picture) : Bool := decide (128 ≤ p.colour.luma)

end Picture

/-- reading the picture in a file, and writing one as JPEG of some quality -/
structure Codec where
  read : Bytes → Except Fault Picture
  write : Picture → Int → Except Fault Bytes

namespace Codec

/-- a codec that finds no picture in any file -/
def blind : Codec where
  read _ := .error (.value "cannot identify image file")
  write _ _ := .ok []

/-- a file written again, smaller -/
def reduce (codec : Codec) (file : Bytes) (maxWidth : Int := Picture.modelWidth)
    (quality : Int := Picture.modelQuality) : Except Fault Bytes := do
  codec.write (← (← codec.read file).reduced maxWidth) quality

end Codec

end SnippetStudio
