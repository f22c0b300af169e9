import SnippetStudio.Picture.Basic

/-!
# Colours in a JPEG

A picture of one colour is kept in a JPEG as a brightness and two colour differences, each of them as a
multiple of a step (`kept`).  The steps grow as the quality goes down, so that a colour comes back changed
(`Colour.inJpeg`).
-/

namespace SnippetStudio

namespace Jpeg

/-- the factor for the steps at a quality, in parts of a hundred; `-1` stands for the usual quality -/
def scale (quality : Int) : Nat :=
  let q := if quality = -1 then 75 else (max 1 (min 100 quality)).toNat
  if q < 50 then 5000 / q else 200 - 2 * q

/-- a step at a quality, given the one in the middle -/
def step (middle : Nat) (quality : Int) : Nat := max 1 (min 255 ((middle * scale quality + 50) / 100))

/-- the step of the brightness, in eighths -/
def lightStep : Int → Nat := step 16

/-- the step of the colour differences, in eighths -/
def differenceStep : Int → Nat := step 17

/-- a value from 0 to 255, whatever the number -/
def clamp (n : Int) : Nat := min 255 n.toNat

/-- a value as it comes back: its distance from the middle goes to the nearest multiple of the step -/
def kept (step value : Nat) : Nat :=
  let distance : Int := (value : Int) - 128
  let steps : Int := ((16 * distance.natAbs + step) / (2 * step) : Nat)
  clamp ((distance.sign * steps * step + 4) / 8 + 128)

/-- brightness and colour differences, towards blue and towards red -/
structure Parts where
  light : Nat
  blue : Nat
  red : Nat
deriving Repr, DecidableEq

/-- the quotient by `2 ^ 16`, rounded down after `more` is added -/
def shifted (n more : Int) : Int := (n + more) / 65536

def Parts.ofRgb (r g b : Nat) : Parts where
  light := clamp (shifted (19595 * r + 38470 * g + 7471 * b) 32768)
  blue := clamp (shifted (32768 * b - 11059 * r - 21709 * g) 32767 + 128)
  red := clamp (shifted (32768 * r - 27439 * g - 5329 * b) 32767 + 128)

def Parts.toColour (p : Parts) : Colour :=
  let blue : Int := (p.blue : Int) - 128
  let red : Int := (p.red : Int) - 128
  .rgb (clamp (p.light + shifted (91881 * red) 32768))
    (clamp (p.light + shifted (-22554 * blue - 46802 * red) 32768))
    (clamp (p.light + shifted (116130 * blue) 32768))

def Parts.kept (quality : Int) (p : Parts) : Parts where
  light := Jpeg.kept (lightStep quality) p.light
  blue := Jpeg.kept (differenceStep quality) p.blue
  red := Jpeg.kept (differenceStep quality) p.red

end Jpeg

/-- a colour as it comes back from a JPEG of some quality -/
def Colour.inJpeg (quality : Int) (c : Colour) : Colour :=
  let (r, g, b) := c.solid
  ((Jpeg.Parts.ofRgb r g b).kept quality).toColour

/-- a picture as it comes back from a JPEG of some quality -/
def Picture.inJpeg (quality : Int) (p : Picture) : Picture := { p with colour := p.colour.inJpeg quality }

end SnippetStudio
