import SnippetStudio.Bytes.Escape
import SnippetStudio.Bytes.Switching
import SnippetStudio.Bytes.Utf7

/-!
# Characters of bytes

A `Charset` says how bytes are read as text (`Charset.decode`).  Bytes that are no character of the charset
are read as the replacement character.  There are names that a charset can have but that stand for something
else; with these no bytes can be read (`unreadable`).
-/

namespace SnippetStudio

inductive Charset where
  | utf8
  /-- a mark at the front, where there is one, is no part of the text -/
  | utf8Signed
  | utf7
  | utf16 (bigEndian : Bool)
  /-- the order of the bytes is told by a mark at the front -/
  | utf16Marked
  | utf32 (bigEndian : Bool)
  /-- the order of the bytes is told by a mark at the front -/
  | utf32Marked
  /-- every byte is a character; the chart has those of the last bytes -/
  | page (chart : String)
  | shiftedJis
  | windows932
  | eucJapanese
  | gb2312
  | gbk
  | gb18030
  | hz
  | big5
  | windows950
  | eucKorean
  | windows949
  | switching (f : Switching.Family)
  /-- escapes for characters, all of them or those with a number of four or eight digits -/
  | escapes (raw : Bool)
  /-- a name that stands for something else, and what becomes of bytes then -/
  | unreadable (f : Fault)
deriving Repr, DecidableEq

namespace Charset

def latin1 : Charset := .page ""

def ascii : Charset := .page Chart.ascii

/-- each byte through a chart -/
def decodePage (chart : String) (bs : Bytes) : List Char :=
  let chars := chart.toList.toArray
  bs.map fun b =>
    if b.toNat + chars.size < 256 then Char.ofNat b.toNat
    else chars.getD (b.toNat + chars.size - 256) replacement

def decode : Charset → Bytes → Except Fault (List Char)
  | utf8, bs => .ok (decodeUtf8 none bs)
  | utf8Signed, bs => .ok (decodeUtf8Signed bs)
  | utf7, bs => .ok (Utf7.decode .plain bs)
  | utf16 big, bs => .ok (decodeUtf16 big bs)
  | utf16Marked, bs => decodeUtf16Marked bs
  | utf32 big, bs => .ok (decodeUtf32 big bs)
  | utf32Marked, bs => decodeUtf32Marked bs
  | page chart, bs => .ok (decodePage chart bs)
  | shiftedJis, bs => decodeFronts Japanese.shiftedFront bs
  | windows932, bs => decodeFronts Japanese.windowsFront bs
  | eucJapanese, bs => decodeFronts Japanese.eucFront bs
  | gb2312, bs => decodeFronts (doubleFront Chinese.simplified?) bs
  | gbk, bs => decodeFronts (doubleFront Chinese.extended?) bs
  | gb18030, bs => decodeFronts Chinese.fullFront bs
  | hz, bs => decodeWith Chinese.tildeFront .ascii 0 bs
  | big5, bs => decodeFronts (doubleFront Chinese.traditional?) bs
  | windows950, bs => decodeFronts (doubleFront Chinese.windows?) bs
  | eucKorean, bs => decodeFronts Korean.eucFront bs
  | windows949, bs => decodeFronts (doubleFront Korean.windows?) bs
  | switching f, bs => decodeWith (Switching.front f) {} 0 bs
  | escapes raw, bs => decodeFronts (if raw then Escape.rawFront else Escape.front) bs
  | unreadable _, [] => .ok []
  | unreadable f, _ => .error f

/-- the text of bytes that are all characters; where a mark is missing, the low byte comes first -/
def exactly? (c : Charset) (bs : Bytes) : Option (List Char) :=
  let text? := match c, c.decode bs with
    | _, .ok t => some t
    | utf16Marked, .error _ => some (decodeUtf16 false bs)
    | utf32Marked, .error _ => some (decodeUtf32 false bs)
    | _, .error _ => none
  text?.filter fun t => !t.contains replacement

end Charset

end SnippetStudio
