import SheetCompiler.Encoding.CodePageTable
import SheetCompiler.Encoding.Decoder
import SheetCompiler.Text.Basic
import SheetCompiler.Text.Bytes

/-!
# Encodings

The encodings of source tables by their labels, and the text of encoded bytes. A
byte order mark in front of the bytes is dropped and decides the encoding.
-/

set_option autoImplicit false

namespace SheetCompiler

/-- An encoding with the labels, in lower case, that ask for it. Malformed bytes are
not decoded. -/
structure Encoding where
  name : String
  labels : List String
  decode? : List UInt8 → Option (List Char)

namespace Encoding

def decodeUtf8? (bytes : List UInt8) : Option (List Char) := (Text.ofUtf8? bytes).map String.toList

/-- Any byte is malformed. -/
def decodeNothing? (bytes : List UInt8) : Option (List Char) :=
  if bytes.isEmpty then some [] else none

/-! ## The encodings -/

def utf8 : Encoding :=
  ⟨"UTF-8",
    ["unicode-1-1-utf-8", "unicode11utf8", "unicode20utf8", "utf-8", "utf8", "x-unicode20utf8"],
    decodeUtf8?⟩

def ibm866 : Encoding :=
  ⟨"IBM866",
    ["866", "cp866", "csibm866", "ibm866"],
    decodePage? (.ofText Table.ibm866)⟩

def iso8859_2 : Encoding :=
  ⟨"ISO-8859-2",
    ["csisolatin2", "iso-8859-2", "iso-ir-101", "iso8859-2", "iso88592", "iso_8859-2",
      "iso_8859-2:1987", "l2", "latin2"],
    decodePage? (isoPage Table.iso8859_2)⟩

def iso8859_3 : Encoding :=
  ⟨"ISO-8859-3",
    ["csisolatin3", "iso-8859-3", "iso-ir-109", "iso8859-3", "iso88593", "iso_8859-3",
      "iso_8859-3:1988", "l3", "latin3"],
    decodePage? (isoPage Table.iso8859_3)⟩

def iso8859_4 : Encoding :=
  ⟨"ISO-8859-4",
    ["csisolatin4", "iso-8859-4", "iso-ir-110", "iso8859-4", "iso88594", "iso_8859-4",
      "iso_8859-4:1988", "l4", "latin4"],
    decodePage? (isoPage Table.iso8859_4)⟩

def iso8859_5 : Encoding :=
  ⟨"ISO-8859-5",
    ["csisolatincyrillic", "cyrillic", "iso-8859-5", "iso-ir-144", "iso8859-5", "iso88595",
      "iso_8859-5", "iso_8859-5:1988"],
    decodePage? (isoPage Table.iso8859_5)⟩

def iso8859_6 : Encoding :=
  ⟨"ISO-8859-6",
    ["arabic", "asmo-708", "csiso88596e", "csiso88596i", "csisolatinarabic", "ecma-114",
      "iso-8859-6", "iso-8859-6-e", "iso-8859-6-i", "iso-ir-127", "iso8859-6", "iso88596",
      "iso_8859-6", "iso_8859-6:1987"],
    decodePage? (isoPage Table.iso8859_6)⟩

def iso8859_7 : Encoding :=
  ⟨"ISO-8859-7",
    ["csisolatingreek", "ecma-118", "elot_928", "greek", "greek8", "iso-8859-7", "iso-ir-126",
      "iso8859-7", "iso88597", "iso_8859-7", "iso_8859-7:1987", "sun_eu_greek"],
    decodePage? (isoPage Table.iso8859_7)⟩

def iso8859_8 : Encoding :=
  ⟨"ISO-8859-8",
    ["csiso88598e", "csisolatinhebrew", "hebrew", "iso-8859-8", "iso-8859-8-e", "iso-ir-138",
      "iso8859-8", "iso88598", "iso_8859-8", "iso_8859-8:1988", "visual"],
    decodePage? (isoPage Table.iso8859_8)⟩

def iso8859_8I : Encoding :=
  ⟨"ISO-8859-8-I",
    ["csiso88598i", "iso-8859-8-i", "logical"],
    decodePage? (isoPage Table.iso8859_8)⟩

def iso8859_10 : Encoding :=
  ⟨"ISO-8859-10",
    ["csisolatin6", "iso-8859-10", "iso-ir-157", "iso8859-10", "iso885910", "l6", "latin6"],
    decodePage? (isoPage Table.iso8859_10)⟩

def iso8859_13 : Encoding :=
  ⟨"ISO-8859-13",
    ["iso-8859-13", "iso8859-13", "iso885913"],
    decodePage? (isoPage Table.iso8859_13)⟩

def iso8859_14 : Encoding :=
  ⟨"ISO-8859-14",
    ["iso-8859-14", "iso8859-14", "iso885914"],
    decodePage? (isoPage Table.iso8859_14)⟩

def iso8859_15 : Encoding :=
  ⟨"ISO-8859-15",
    ["csisolatin9", "iso-8859-15", "iso8859-15", "iso885915", "iso_8859-15", "l9"],
    decodePage? (isoPage Table.iso8859_15)⟩

def iso8859_16 : Encoding :=
  ⟨"ISO-8859-16",
    ["iso-8859-16"],
    decodePage? (isoPage Table.iso8859_16)⟩

def koi8R : Encoding :=
  ⟨"KOI8-R",
    ["cskoi8r", "koi", "koi8", "koi8-r", "koi8_r"],
    decodePage? (.ofText Table.koi8R)⟩

def koi8U : Encoding :=
  ⟨"KOI8-U",
    ["koi8-ru", "koi8-u"],
    decodePage? (.ofText Table.koi8U)⟩

def macintosh : Encoding :=
  ⟨"macintosh",
    ["csmacintosh", "mac", "macintosh", "x-mac-roman"],
    decodePage? (.ofText Table.macRoman)⟩

def windows874 : Encoding :=
  ⟨"windows-874",
    ["dos-874", "iso-8859-11", "iso8859-11", "iso885911", "tis-620", "windows-874"],
    decodePage? (.ofText Table.windows874)⟩

def windows1250 : Encoding :=
  ⟨"windows-1250",
    ["cp1250", "windows-1250", "x-cp1250"],
    decodePage? (.ofText Table.windows1250)⟩

def windows1251 : Encoding :=
  ⟨"windows-1251",
    ["cp1251", "windows-1251", "x-cp1251"],
    decodePage? (.ofText Table.windows1251)⟩

def windows1252 : Encoding :=
  ⟨"windows-1252",
    ["ansi_x3.4-1968", "ascii", "cp1252", "cp819", "csisolatin1", "ibm819", "iso-8859-1",
      "iso-ir-100", "iso8859-1", "iso88591", "iso_8859-1", "iso_8859-1:1987", "l1", "latin1",
      "us-ascii", "windows-1252", "x-cp1252"],
    decodePage? (.ofText Table.windows1252)⟩

def windows1253 : Encoding :=
  ⟨"windows-1253",
    ["cp1253", "windows-1253", "x-cp1253"],
    decodePage? (.ofText Table.windows1253)⟩

def windows1254 : Encoding :=
  ⟨"windows-1254",
    ["cp1254", "csisolatin5", "iso-8859-9", "iso-ir-148", "iso8859-9", "iso88599", "iso_8859-9",
      "iso_8859-9:1989", "l5", "latin5", "windows-1254", "x-cp1254"],
    decodePage? (.ofText Table.windows1254)⟩

def windows1255 : Encoding :=
  ⟨"windows-1255",
    ["cp1255", "windows-1255", "x-cp1255"],
    decodePage? (.ofText Table.windows1255)⟩

def windows1256 : Encoding :=
  ⟨"windows-1256",
    ["cp1256", "windows-1256", "x-cp1256"],
    decodePage? (.ofText Table.windows1256)⟩

def windows1257 : Encoding :=
  ⟨"windows-1257",
    ["cp1257", "windows-1257", "x-cp1257"],
    decodePage? (.ofText Table.windows1257)⟩

def windows1258 : Encoding :=
  ⟨"windows-1258",
    ["cp1258", "windows-1258", "x-cp1258"],
    decodePage? (.ofText Table.windows1258)⟩

def xMacCyrillic : Encoding :=
  ⟨"x-mac-cyrillic",
    ["x-mac-cyrillic", "x-mac-ukrainian"],
    decodePage? (.ofText Table.macCyrillic)⟩

def gbk : Encoding :=
  ⟨"GBK",
    ["chinese", "csgb2312", "csiso58gb231280", "gb2312", "gb_2312", "gb_2312-80", "gbk",
      "iso-ir-58", "x-gbk"],
    decodeGb18030?⟩

def gb18030 : Encoding :=
  ⟨"gb18030",
    ["gb18030"],
    decodeGb18030?⟩

def big5 : Encoding :=
  ⟨"Big5",
    ["big5", "big5-hkscs", "cn-big5", "csbig5", "x-x-big5"],
    decodeBig5?⟩

def eucJp : Encoding :=
  ⟨"EUC-JP",
    ["cseucpkdfmtjapanese", "euc-jp", "x-euc-jp"],
    decodeEucJp?⟩

def iso2022Jp : Encoding :=
  ⟨"ISO-2022-JP",
    ["csiso2022jp", "iso-2022-jp"],
    decodeIso2022Jp? .ascii false⟩

def shiftJis : Encoding :=
  ⟨"Shift_JIS",
    ["csshiftjis", "ms932", "ms_kanji", "shift-jis", "shift_jis", "sjis", "windows-31j", "x-sjis"],
    decodeShiftJis?⟩

def eucKr : Encoding :=
  ⟨"EUC-KR",
    ["cseuckr", "csksc56011987", "euc-kr", "iso-ir-149", "korean", "ks_c_5601-1987",
      "ks_c_5601-1989", "ksc5601", "ksc_5601", "windows-949"],
    decodeEucKr?⟩

def replacement : Encoding :=
  ⟨"replacement",
    ["csiso2022kr", "hz-gb-2312", "iso-2022-cn", "iso-2022-cn-ext", "iso-2022-kr", "replacement"],
    decodeNothing?⟩

def utf16Be : Encoding :=
  ⟨"UTF-16BE",
    ["unicodefffe", "utf-16be"],
    decodeUtf16? true⟩

def utf16Le : Encoding :=
  ⟨"UTF-16LE",
    ["csunicode", "iso-10646-ucs-2", "ucs-2", "unicode", "unicodefeff", "utf-16", "utf-16le"],
    decodeUtf16? false⟩

def xUserDefined : Encoding :=
  ⟨"x-user-defined",
    ["x-user-defined"],
    decodeUserDefined?⟩

/-- Every encoding. -/
def all : List Encoding :=
  [utf8, ibm866, iso8859_2, iso8859_3, iso8859_4, iso8859_5, iso8859_6, iso8859_7, iso8859_8,
    iso8859_8I, iso8859_10, iso8859_13, iso8859_14, iso8859_15, iso8859_16, koi8R, koi8U,
    macintosh, windows874, windows1250, windows1251, windows1252, windows1253, windows1254,
    windows1255, windows1256, windows1257, windows1258, xMacCyrillic, gbk, gb18030, big5, eucJp,
    iso2022Jp, shiftJis, eucKr, replacement, utf16Be, utf16Le, xUserDefined]

/-! ## Labels -/

/-- No encoding has the label. -/
structure UnknownLabel where
  label : String
  deriving DecidableEq, Repr

def UnknownLabel.message (unknown : UnknownLabel) : String :=
  s!"Unknown encoding '{unknown.label}'"

/-- The encoding of a label. Case and blanks at the ends do not matter. -/
def ofLabel (label : String) : Except UnknownLabel Encoding :=
  let wanted := Text.lowered (Text.trimmed label)
  match all.find? fun encoding => encoding.labels.contains wanted with
  | some encoding => .ok encoding
  | none => .error ⟨label⟩

/-- The encoding of a label, if there is one, and UTF-8 otherwise. -/
def ofOptionalLabel : Option String → Except UnknownLabel Encoding
  | some label => ofLabel label
  | none => .ok utf8

/-! ## Decoding -/

/-- Bytes that are malformed in an encoding. -/
structure Malformed where
  encoding : String
  deriving DecidableEq, Repr

def Malformed.message (malformed : Malformed) : String :=
  s!"Failed to decode text with encoding {malformed.encoding}"

/-- The encoding that a byte order mark asks for, and the bytes behind the mark. -/
def byteOrderMark? : List UInt8 → Option (Encoding × List UInt8)
  | 0xEF :: 0xBB :: 0xBF :: bytes => some (utf8, bytes)
  | 0xFF :: 0xFE :: bytes => some (utf16Le, bytes)
  | 0xFE :: 0xFF :: bytes => some (utf16Be, bytes)
  | _ => none

/-- The text of bytes. -/
def decode (encoding : Encoding) (bytes : List UInt8) : Except Malformed String :=
  let chars? :=
    match byteOrderMark? bytes with
    | some (marked, bytes) => marked.decode? bytes
    | none => encoding.decode? bytes
  match chars? with
  | some cs => .ok (String.ofList cs)
  | none => .error ⟨encoding.name⟩

end Encoding

end SheetCompiler
