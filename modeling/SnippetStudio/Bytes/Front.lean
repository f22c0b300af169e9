import SnippetStudio.Bytes.Base64

/-!
# Reading bytes from the front

A charset whose characters have several bytes says what stands at the front of some bytes (`Front`), in a
state where it has one; `decodeWith` goes from there to the end.  Bytes that are no character are read as one
replacement character, and so is a character that is cut off at the end.  What is kept of one that is
cut off has to be small.
-/

namespace SnippetStudio

def replacement : Char := '\uFFFD'

/-- what stands at the front of some bytes -/
inductive Front where
  /-- a text of so many bytes -/
  | text (s : List Char) (size : Nat)
  /-- so many bytes that are no character -/
  | bad (size : Nat)
  /-- the beginning of a character that is cut off -/
  | cut
deriving Repr, DecidableEq

/-- a character of so many bytes, or one byte that is none -/
def Front.ofChar? (size : Nat) : Option Char → Front
  | some c => .text [c] size
  | none => .bad 1

/-- how many bytes of a character that is cut off can be kept -/
def keptLimit : Nat := 8

def tooManyKept : Fault := ⟨.unknown "UnicodeError", "pending buffer overflow"⟩

/-- the text of some bytes, after as many bytes as are to be passed over -/
def decodeWith {σ : Type} (front : σ → Bytes → Front × σ) : σ → Nat → Bytes → Except Fault (List Char)
  | _, _, [] => .ok []
  | s, n + 1, _ :: bs => decodeWith front s n bs
  | s, 0, b :: bs =>
    match front s (b :: bs) with
    | (.text t size, s) => (t ++ ·) <$> decodeWith front s (size - 1) bs
    | (.bad size, s) => (replacement :: ·) <$> decodeWith front s (size - 1) bs
    | (.cut, _) => if bs.length < keptLimit then .ok [replacement] else .error tooManyKept

/-- the text of some bytes, where there is no state -/
def decodeFronts (front : Bytes → Front) (bs : Bytes) : Except Fault (List Char) :=
  decodeWith (fun (_ : Unit) bs => (front bs, ())) () 0 bs

/-- one byte below `0x80`, else two -/
def doubleFront (char? : Nat → Nat → Option Char) : Bytes → Front
  | [] => .cut
  | a :: bs =>
    if a < 0x80 then .text [Char.ofNat a.toNat] 1
    else match bs with
      | [] => .cut
      | b :: _ => .ofChar? 2 (char? a.toNat b.toNat)

end SnippetStudio
