import BooleanRetrieval.Encoding.BigFive
import BooleanRetrieval.Encoding.Hangul
import BooleanRetrieval.Encoding.Hanzi
import BooleanRetrieval.Encoding.IsoPages
import BooleanRetrieval.Encoding.Kanji
import BooleanRetrieval.Encoding.OtherPages
import BooleanRetrieval.Encoding.UnicodeForms
import BooleanRetrieval.Encoding.WindowsPages

/-!
# Encodings of documents

The encodings that a document may declare, by the names that are registered for them. Letter case does not
count in a name, but each other character does.
-/

set_option autoImplicit false

namespace BooleanRetrieval.Markup

open Encoding

/-- How the bytes of a document are read. -/
inductive Charset where
  | utf8
  | stepwise (encoding : Stepper)

namespace Charset

/-- An encoding of single bytes. -/
def singleByte (encoding : SingleByte) : Charset := stepwise (.singleByte encoding)

/-- UTF-16. -/
def utf16 (bigEndian : Bool) : Charset := stepwise (Encoding.utf16 bigEndian)

/-- Units of two bytes. -/
def ucs2 (bigEndian : Bool) : Charset := stepwise (Encoding.ucs2 bigEndian)

/-- UTF-32. -/
def utf32 (bigEndian : Bool) : Charset := stepwise (Encoding.utf32 bigEndian)

/-- ASCII, UTF-8 and the parts of ISO 8859 with their names. -/
def standardNames : List (Charset × List String) :=
  [(utf8, ["UTF-8", "UTF8"]),
   (singleByte .ascii, ["US-ASCII", "ASCII", "ISO646-US", "ISO_646.IRV:1991", "ISO-IR-6", "ANSI_X3.4-1968",
     "ANSI_X3.4-1986", "CP367", "IBM367", "US", "CSASCII"]),
   (singleByte .latin1, ["ISO-8859-1", "ISO_8859-1", "ISO_8859-1:1987", "ISO-IR-100", "CP819", "IBM819", "LATIN1",
     "L1", "CSISOLATIN1", "ISO8859-1", "ISO-LATIN-1"]),
   (singleByte .iso2, ["ISO-8859-2", "ISO_8859-2", "ISO_8859-2:1987", "ISO-IR-101", "LATIN2", "L2", "CSISOLATIN2",
     "ISO8859-2", "ISO-LATIN-2"]),
   (singleByte .iso3, ["ISO-8859-3", "ISO_8859-3", "ISO_8859-3:1988", "ISO-IR-109", "LATIN3", "L3", "CSISOLATIN3",
     "ISO8859-3"]),
   (singleByte .iso4, ["ISO-8859-4", "ISO_8859-4", "ISO_8859-4:1988", "ISO-IR-110", "LATIN4", "L4", "CSISOLATIN4",
     "ISO8859-4"]),
   (singleByte .iso5, ["ISO-8859-5", "ISO_8859-5", "ISO_8859-5:1988", "ISO-IR-144", "CYRILLIC",
     "CSISOLATINCYRILLIC", "ISO8859-5"]),
   (singleByte .iso6, ["ISO-8859-6", "ISO_8859-6", "ISO_8859-6:1987", "ISO-IR-127", "ECMA-114", "ASMO-708",
     "ARABIC", "CSISOLATINARABIC", "ISO8859-6"]),
   (singleByte .iso7, ["ISO-8859-7", "ISO_8859-7", "ISO_8859-7:1987", "ISO_8859-7:2003", "ISO-IR-126", "ECMA-118",
     "ELOT_928", "GREEK8", "GREEK", "CSISOLATINGREEK", "ISO8859-7"]),
   (singleByte .iso8, ["ISO-8859-8", "ISO_8859-8", "ISO_8859-8:1988", "ISO-IR-138", "HEBREW", "CSISOLATINHEBREW",
     "ISO8859-8"]),
   (singleByte .iso9, ["ISO-8859-9", "ISO_8859-9", "ISO_8859-9:1989", "ISO-IR-148", "LATIN5", "L5", "CSISOLATIN5",
     "ISO8859-9"]),
   (singleByte .iso10, ["ISO-8859-10", "ISO_8859-10", "ISO_8859-10:1992", "ISO-IR-157", "LATIN6", "L6",
     "CSISOLATIN6", "ISO8859-10"]),
   (singleByte .iso11, ["ISO-8859-11", "ISO_8859-11", "ISO8859-11"]),
   (singleByte .iso13, ["ISO-8859-13", "ISO_8859-13", "ISO-IR-179", "LATIN7", "L7", "ISO8859-13"]),
   (singleByte .iso14, ["ISO-8859-14", "ISO_8859-14", "ISO_8859-14:1998", "ISO-IR-199", "LATIN8", "L8",
     "ISO-CELTIC", "ISO8859-14"]),
   (singleByte .iso15, ["ISO-8859-15", "ISO_8859-15", "ISO_8859-15:1998", "ISO-IR-203", "LATIN-9", "ISO8859-15"]),
   (singleByte .iso16, ["ISO-8859-16", "ISO_8859-16", "ISO_8859-16:2001", "ISO-IR-226", "LATIN10", "L10",
     "ISO8859-16"])]

/-- Code pages with their names. -/
def pageNames : List (Charset × List String) :=
  [(singleByte .windows1250, ["CP1250", "WINDOWS-1250", "MS-EE"]),
   (singleByte .windows1251, ["CP1251", "WINDOWS-1251", "MS-CYRL"]),
   (singleByte .windows1252, ["CP1252", "WINDOWS-1252", "MS-ANSI"]),
   (singleByte .windows1253, ["CP1253", "WINDOWS-1253", "MS-GREEK"]),
   (singleByte .windows1254, ["CP1254", "WINDOWS-1254", "MS-TURK"]),
   (singleByte .windows1255, ["CP1255", "WINDOWS-1255", "MS-HEBR"]),
   (singleByte .windows1256, ["CP1256", "WINDOWS-1256", "MS-ARAB"]),
   (singleByte .windows1257, ["CP1257", "WINDOWS-1257", "WINBALTRIM"]),
   (singleByte .windows1258, ["CP1258", "WINDOWS-1258"]),
   (singleByte .windows874, ["CP874", "WINDOWS-874"]),
   (singleByte .koi8R, ["KOI8-R", "CSKOI8R"]),
   (singleByte .koi8U, ["KOI8-U"]),
   (singleByte .koi8RU, ["KOI8-RU"]),
   (singleByte .koi8T, ["KOI8-T"]),
   (singleByte .ibm850, ["CP850", "IBM850", "850", "CSPC850MULTILINGUAL"]),
   (singleByte .ibm862, ["CP862", "IBM862", "862", "CSPC862LATINHEBREW"]),
   (singleByte .ibm866, ["CP866", "IBM866", "866", "CSIBM866"]),
   (singleByte .macRoman, ["MACROMAN", "MACINTOSH", "MAC", "CSMACINTOSH"]),
   (singleByte .macCentral, ["MACCENTRALEUROPE"]),
   (singleByte .macIceland, ["MACICELAND"]),
   (singleByte .macCroatian, ["MACCROATIAN"]),
   (singleByte .macRomania, ["MACROMANIA"]),
   (singleByte .macCyrillic, ["MACCYRILLIC"]),
   (singleByte .macUkraine, ["MACUKRAINE"]),
   (singleByte .macGreek, ["MACGREEK"]),
   (singleByte .macTurkish, ["MACTURKISH"]),
   (singleByte .hpRoman, ["HP-ROMAN8", "ROMAN8", "R8", "CSHPROMAN8"]),
   (singleByte .pt154, ["PT154", "PTCP154", "CP154", "CYRILLIC-ASIAN", "CSPTCP154"]),
   (singleByte .rk1048, ["RK1048", "STRK1048-2002", "KZ-1048", "CSKZ1048"]),
   (singleByte .tis620, ["TIS-620", "TIS620", "TIS620-0", "TIS620.2529-1", "TIS620.2533-0", "TIS620.2533-1",
     "ISO-IR-166"])]

/-- Encodings of several bytes with their names. -/
def wideNames : List (Charset × List String) :=
  [(utf16 false, ["UTF-16", "UTF16", "UTF-16LE", "UTF16LE"]),
   (utf16 true, ["UTF-16BE", "UTF16BE"]),
   (ucs2 true, ["UCS-2", "UCS2", "ISO-10646-UCS-2", "CSUNICODE", "UCS-2BE", "UNICODE-1-1", "UNICODEBIG",
     "CSUNICODE11"]),
   (ucs2 false, ["UCS-2LE", "UNICODELITTLE", "UCS-2-INTERNAL"]),
   (utf32 true, ["UTF-32", "UTF-32BE", "UCS-4", "UCS4", "ISO-10646-UCS-4", "CSUCS4", "UCS-4BE"]),
   (utf32 false, ["UTF-32LE", "UCS-4LE", "UCS-4-INTERNAL"]),
   (stepwise utf7, ["UTF-7", "UNICODE-1-1-UTF-7", "CSUNICODE11UTF7"]),
   (stepwise (shiftJis false), ["SHIFT_JIS", "SHIFT-JIS", "SJIS", "MS_KANJI", "CSSHIFTJIS"]),
   (stepwise (shiftJis true), ["CP932"]),
   (stepwise eucJp, ["EUC-JP", "EUCJP", "EXTENDED_UNIX_CODE_PACKED_FORMAT_FOR_JAPANESE", "CSEUCPKDFMTJAPANESE"]),
   (stepwise iso2022Jp, ["ISO-2022-JP", "CSISO2022JP"]),
   (stepwise eucCn, ["EUC-CN", "EUCCN", "GB2312", "CN-GB", "CSGB2312"]),
   (stepwise gbk, ["GBK", "CP936", "MS936", "WINDOWS-936"]),
   (stepwise gb18030, ["GB18030"]),
   (stepwise bigFive, ["BIG5", "BIG-5", "BIGFIVE", "BIG-FIVE", "CN-BIG5", "CSBIG5", "CP950"]),
   (stepwise eucKr, ["EUC-KR", "EUCKR", "CSEUCKR"]),
   (stepwise unifiedHangul, ["CP949", "UHC"])]

/-- The encoding of a name. -/
def ofName? (name : String) : Option Charset :=
  let name := String.ofList (name.toList.map Char.toUpper)
  ((standardNames ++ pageNames ++ wideNames).find? (·.2.contains name)).map (·.1)

/-- The text of bytes. -/
def decode : Charset → List UInt8 → Decoded
  | utf8, bytes => ⟨utf8Decoded 0 (utf8Pieces bytes), none⟩
  | stepwise encoding, bytes => encoding.decode bytes

end Charset

end BooleanRetrieval.Markup
