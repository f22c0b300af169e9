import SnippetStudio.Bytes.Charset

/-!
# Names of charsets

Letter case and the marks between the words of a name do not count: `normalName` writes each run of marks as a
hyphen, but keeps dots.  A charset has a name of its own and other names; only in the other names may dots
stand for hyphens.
-/

namespace SnippetStudio.Charset

/-- encodings of bytes as bytes: no text comes of them -/
def transfer : Charset := .unreadable ⟨.unknown "AssertionError", ""⟩

/-- an exchange of letters: it is for text only -/
def rotation : Charset :=
  .unreadable ⟨.type, "descriptor 'translate' for 'str' objects doesn't apply to a 'bytes' object"⟩

def undefined : Charset := .unreadable ⟨.unknown "UnicodeError", "undefined encoding"⟩

/-- the encoding of hosts' names: it has no replacement character -/
def hostnames : Charset := .unreadable ⟨.unknown "UnicodeError", "Unsupported error handling replace"⟩

/-- a charset's own name, its other names, and the charset -/
def table : List (String × List String × Charset) :=
  [("utf-8", ["cp65001", "u8", "utf", "utf8", "utf8-ucs2", "utf8-ucs4"], .utf8),
   ("utf-8-sig", [], .utf8Signed),
   ("utf-7", ["u7", "unicode-1-1-utf-7", "utf7"], .utf7),
   ("utf-16", ["u16", "utf16"], .utf16Marked),
   ("utf-16-le", ["unicodelittleunmarked", "utf-16le"], .utf16 false),
   ("utf-16-be", ["unicodebigunmarked", "utf-16be"], .utf16 true),
   ("utf-32", ["u32", "utf32"], .utf32Marked),
   ("utf-32-le", ["utf-32le"], .utf32 false),
   ("utf-32-be", ["utf-32be"], .utf32 true),
   ("ascii", ["646", "ansi-x3-4-1968", "ansi-x3.4-1968", "ansi-x3.4-1986", "cp367", "csascii",
     "ibm367", "iso-646.irv-1991", "iso-ir-6", "iso646-us", "us", "us-ascii"], ascii),
   ("latin-1", ["8859", "cp819", "csisolatin1", "ibm819", "iso-8859-1", "iso-8859-1-1987",
     "iso-ir-100", "iso8859", "iso8859-1", "l1", "latin", "latin1"], latin1),
   ("iso8859-1", [], latin1),
   ("charmap", [], latin1),
   ("iso8859-2", ["csisolatin2", "iso-8859-2", "iso-8859-2-1987", "iso-ir-101", "l2", "latin2"], .page Chart.latin2),
   ("iso8859-3", ["csisolatin3", "iso-8859-3", "iso-8859-3-1988", "iso-ir-109", "l3", "latin3"], .page Chart.latin3),
   ("iso8859-4", ["csisolatin4", "iso-8859-4", "iso-8859-4-1988", "iso-ir-110", "l4", "latin4"], .page Chart.latin4),
   ("iso8859-5", ["csisolatincyrillic", "cyrillic", "iso-8859-5", "iso-8859-5-1988", "iso-ir-144"], .page Chart.cyrillic),
   ("iso8859-6", ["arabic", "asmo-708", "csisolatinarabic", "ecma-114", "iso-8859-6",
     "iso-8859-6-1987", "iso-ir-127"], .page Chart.arabic),
   ("iso8859-7", ["csisolatingreek", "ecma-118", "elot-928", "greek", "greek8", "iso-8859-7",
     "iso-8859-7-1987", "iso-ir-126"], .page Chart.greek),
   ("iso8859-8", ["csisolatinhebrew", "hebrew", "iso-8859-8", "iso-8859-8-1988", "iso-ir-138"], .page Chart.hebrew),
   ("iso8859-9", ["csisolatin5", "iso-8859-9", "iso-8859-9-1989", "iso-ir-148", "l5", "latin5"], .page Chart.latin5),
   ("iso8859-10", ["csisolatin6", "iso-8859-10", "iso-8859-10-1992", "iso-ir-157", "l6", "latin6"], .page Chart.latin6),
   ("iso8859-11", ["iso-8859-11", "iso-8859-11-2001", "thai"], .page Chart.thai),
   ("iso8859-13", ["iso-8859-13", "l7", "latin7"], .page Chart.latin7),
   ("iso8859-14", ["iso-8859-14", "iso-8859-14-1998", "iso-celtic", "iso-ir-199", "l8", "latin8"], .page Chart.latin8),
   ("iso8859-15", ["iso-8859-15", "l9", "latin9"], .page Chart.latin9),
   ("iso8859-16", ["iso-8859-16", "iso-8859-16-2001", "iso-ir-226", "l10", "latin10"], .page Chart.latin10),
   ("tis-620", ["iso-ir-166", "tis-620-0", "tis-620-2529-0", "tis-620-2529-1", "tis620"], .page Chart.tis620),
   ("koi8-r", ["cskoi8r"], .page Chart.koi8r),
   ("koi8-t", [], .page Chart.koi8t),
   ("koi8-u", [], .page Chart.koi8u),
   ("kz1048", ["kz-1048", "rk1048", "strk1048-2002"], .page Chart.kz1048),
   ("ptcp154", ["cp154", "csptcp154", "cyrillic-asian", "pt154"], .page Chart.ptcp154),
   ("cp037", ["037", "csibm037", "ebcdic-cp-ca", "ebcdic-cp-nl", "ebcdic-cp-us", "ebcdic-cp-wt",
     "ibm037", "ibm039"], .page Chart.cp037),
   ("cp273", ["273", "csibm273", "ibm273"], .page Chart.cp273),
   ("cp424", ["424", "csibm424", "ebcdic-cp-he", "ibm424"], .page Chart.cp424),
   ("cp437", ["437", "cspc8codepage437", "ibm437"], .page Chart.cp437),
   ("cp500", ["500", "csibm500", "ebcdic-cp-be", "ebcdic-cp-ch", "ibm500"], .page Chart.cp500),
   ("cp720", [], .page Chart.cp720),
   ("cp737", [], .page Chart.cp737),
   ("cp775", ["775", "cspc775baltic", "ibm775"], .page Chart.cp775),
   ("cp850", ["850", "cspc850multilingual", "ibm850"], .page Chart.cp850),
   ("cp852", ["852", "cspcp852", "ibm852"], .page Chart.cp852),
   ("cp855", ["855", "csibm855", "ibm855"], .page Chart.cp855),
   ("cp856", [], .page Chart.cp856),
   ("cp857", ["857", "csibm857", "ibm857"], .page Chart.cp857),
   ("cp858", ["858", "csibm858", "ibm858"], .page Chart.cp858),
   ("cp860", ["860", "csibm860", "ibm860"], .page Chart.cp860),
   ("cp861", ["861", "cp-is", "csibm861", "ibm861"], .page Chart.cp861),
   ("cp862", ["862", "cspc862latinhebrew", "ibm862"], .page Chart.cp862),
   ("cp863", ["863", "csibm863", "ibm863"], .page Chart.cp863),
   ("cp864", ["864", "csibm864", "ibm864"], .page Chart.cp864),
   ("cp865", ["865", "csibm865", "ibm865"], .page Chart.cp865),
   ("cp866", ["866", "csibm866", "ibm866"], .page Chart.cp866),
   ("cp869", ["869", "cp-gr", "csibm869", "ibm869"], .page Chart.cp869),
   ("cp874", [], .page Chart.cp874),
   ("cp875", [], .page Chart.cp875),
   ("cp1006", [], .page Chart.cp1006),
   ("cp1026", ["1026", "csibm1026", "ibm1026"], .page Chart.cp1026),
   ("cp1125", ["1125", "cp866u", "ibm1125", "ruscii"], .page Chart.cp1125),
   ("cp1140", ["1140", "ibm1140"], .page Chart.cp1140),
   ("cp1250", ["1250", "windows-1250"], .page Chart.cp1250),
   ("cp1251", ["1251", "windows-1251"], .page Chart.cp1251),
   ("cp1252", ["1252", "windows-1252"], .page Chart.cp1252),
   ("cp1253", ["1253", "windows-1253"], .page Chart.cp1253),
   ("cp1254", ["1254", "windows-1254"], .page Chart.cp1254),
   ("cp1255", ["1255", "windows-1255"], .page Chart.cp1255),
   ("cp1256", ["1256", "windows-1256"], .page Chart.cp1256),
   ("cp1257", ["1257", "windows-1257"], .page Chart.cp1257),
   ("cp1258", ["1258", "windows-1258"], .page Chart.cp1258),
   ("mac-arabic", [], .page Chart.macArabic),
   ("mac-croatian", [], .page Chart.macCroatian),
   ("mac-cyrillic", ["maccyrillic"], .page Chart.macCyrillic),
   ("mac-farsi", [], .page Chart.macFarsi),
   ("mac-greek", ["macgreek"], .page Chart.macGreek),
   ("mac-iceland", ["maciceland"], .page Chart.macIceland),
   ("mac-latin2", ["mac-centeuro", "maccentraleurope", "maclatin2"], .page Chart.macLatin2),
   ("mac-roman", ["macintosh", "macroman"], .page Chart.macRoman),
   ("mac-romanian", [], .page Chart.macRomanian),
   ("mac-turkish", ["macturkish"], .page Chart.macTurkish),
   ("hp-roman8", ["cp1051", "csHPRoman8", "ibm1051", "r8", "roman8"], .page Chart.roman8),
   ("palmos", [], .page Chart.palmos),
   ("shift-jis", ["csshiftjis", "s-jis", "shiftjis", "sjis", "x-mac-japanese"], .shiftedJis),
   ("cp932", ["932", "ms-kanji", "ms932", "mskanji"], .windows932),
   ("euc-jp", ["eucjp", "u-jis", "ujis"], .eucJapanese),
   ("gb2312", ["chinese", "csiso58gb231280", "euc-cn", "euccn", "eucgb2312-cn", "gb2312-1980",
     "gb2312-80", "iso-ir-58", "x-mac-simp-chinese"], .gb2312),
   ("gbk", ["936", "cp936", "ms936"], .gbk),
   ("gb18030", ["gb18030-2000"], .gb18030),
   ("hz", ["hz-gb", "hz-gb-2312", "hzgb"], .hz),
   ("big5", ["big5-tw", "csbig5", "x-mac-trad-chinese"], .big5),
   ("cp950", ["950", "ms950"], .windows950),
   ("euc-kr", ["euckr", "korean", "ks-c-5601", "ks-c-5601-1987", "ks-x-1001", "ksc5601",
     "ksx1001", "x-mac-korean"], .eucKorean),
   ("cp949", ["949", "ms949", "uhc"], .windows949),
   ("iso2022-jp", ["csiso2022jp", "iso-2022-jp", "iso2022jp"], .switching .japanese),
   ("iso2022-jp-1", ["iso-2022-jp-1", "iso2022jp-1"], .switching .japanese1),
   ("iso2022-jp-2", ["iso-2022-jp-2", "iso2022jp-2"], .switching .japanese2),
   ("iso2022-jp-ext", ["iso-2022-jp-ext", "iso2022jp-ext"], .switching .japaneseExtended),
   ("iso2022-kr", ["csiso2022kr", "iso-2022-kr", "iso2022kr"], .switching .korean),
   ("unicode-escape", [], .escapes false),
   ("raw-unicode-escape", [], .escapes true),
   ("base64-codec", ["base-64", "base64"], transfer),
   ("bz2-codec", ["bz2"], transfer),
   ("hex-codec", ["hex"], transfer),
   ("quopri-codec", ["quopri", "quoted-printable", "quotedprintable"], transfer),
   ("uu-codec", ["uu"], transfer),
   ("zlib-codec", ["zip", "zlib"], transfer),
   ("rot-13", ["rot13"], rotation),
   ("undefined", [], undefined),
   ("idna", [], hostnames),
   ("big5hkscs", ["big5-hkscs", "hkscs"], .big5),
   ("euc-jis-2004", ["euc-jis2004", "eucjis2004", "jisx0213"], .eucJapanese),
   ("euc-jisx0213", ["eucjisx0213"], .eucJapanese),
   ("shift-jis-2004", ["s-jis-2004", "shiftjis2004", "sjis-2004"], .shiftedJis),
   ("shift-jisx0213", ["s-jisx0213", "shiftjisx0213", "sjisx0213"], .shiftedJis),
   ("iso2022-jp-2004", ["iso-2022-jp-2004", "iso2022jp-2004"], .switching .japaneseExtended),
   ("iso2022-jp-3", ["iso-2022-jp-3", "iso2022jp-3"], .switching .japaneseExtended)]

/-- letters and digits in small letters, with a hyphen for each run of other characters between them -/
def normalName (name : List Char) : List Char :=
  let kept := fun c : Char => c.isAlphanum || c == '.'
  let words := (name.splitBy fun a b => kept a && kept b).filter fun w => w.any kept
  ['-'].intercalate (words.map fun w => w.map Char.toLower)

/-- the charset that has a name among its other names -/
def other? (name : String) : Option Charset := (table.find? fun e => e.2.1.contains name).map (·.2.2)

def ofName? (name : String) : Option Charset :=
  let plain := normalName name.toList
  let dotless := plain.map fun c => if c == '.' then '-' else c
  let own? := (table.find? fun e => e.1 == String.ofList plain).map (·.2.2)
  ((other? (String.ofList plain)).or (other? (String.ofList dotless))).or own?

end SnippetStudio.Charset
