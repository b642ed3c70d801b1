import Gleaner.Charset.Japanese
import Gleaner.Charset.SingleByte
import Gleaner.Charset.Utf16

/-!
The charsets of the web: their labels, and the texts that they decode bytes to.
-/
namespace Gleaner

inductive Charset where
  | utf8
  | utf16 (bigEndian : Bool)
  /-- Each byte is a character; `upper` has those of the upper half. -/
  | singleByte (upper : String)
  | gb18030
  | big5
  | eucKr
  | shiftJis
  | eucJp
  | iso2022Jp
  /-- Charsets that are not read: any text in them is one replacement character. -/
  | unread
  deriving DecidableEq, Repr

namespace Charset

/-- The labels of each charset, in lower case. -/
def labels : List (Charset × List String) :=
  [(utf8, ["unicode-1-1-utf-8", "unicode11utf8", "unicode20utf8", "utf-8", "utf8",
      "x-unicode20utf8"]),
    (utf16 false, ["csunicode", "iso-10646-ucs-2", "ucs-2", "unicode", "unicodefeff", "utf-16",
      "utf-16le"]),
    (utf16 true, ["unicodefffe", "utf-16be"]),
    (singleByte ibm866Table, ["866", "cp866", "csibm866", "ibm866"]),
    (singleByte iso88592Table, ["csisolatin2", "iso-8859-2", "iso-ir-101", "iso8859-2", "iso88592",
      "iso_8859-2", "iso_8859-2:1987", "l2", "latin2"]),
    (singleByte iso88593Table, ["csisolatin3", "iso-8859-3", "iso-ir-109", "iso8859-3", "iso88593",
      "iso_8859-3", "iso_8859-3:1988", "l3", "latin3"]),
    (singleByte iso88594Table, ["csisolatin4", "iso-8859-4", "iso-ir-110", "iso8859-4", "iso88594",
      "iso_8859-4", "iso_8859-4:1988", "l4", "latin4"]),
    (singleByte iso88595Table, ["csisolatincyrillic", "cyrillic", "iso-8859-5", "iso-ir-144",
      "iso8859-5", "iso88595", "iso_8859-5", "iso_8859-5:1988"]),
    (singleByte iso88596Table, ["arabic", "asmo-708", "csiso88596e", "csiso88596i",
      "csisolatinarabic", "ecma-114", "iso-8859-6", "iso-8859-6-e", "iso-8859-6-i", "iso-ir-127",
      "iso8859-6", "iso88596", "iso_8859-6", "iso_8859-6:1987"]),
    (singleByte iso88597Table, ["csisolatingreek", "ecma-118", "elot_928", "greek", "greek8",
      "iso-8859-7", "iso-ir-126", "iso8859-7", "iso88597", "iso_8859-7", "iso_8859-7:1987",
      "sun_eu_greek"]),
    (singleByte iso88598Table, ["csiso88598e", "csiso88598i", "csisolatinhebrew", "hebrew",
      "iso-8859-8", "iso-8859-8-e", "iso-8859-8-i", "iso-ir-138", "iso8859-8", "iso88598",
      "iso_8859-8", "iso_8859-8:1988", "logical", "visual"]),
    (singleByte iso885910Table, ["csisolatin6", "iso-8859-10", "iso-ir-157", "iso8859-10",
      "iso885910", "l6", "latin6"]),
    (singleByte iso885913Table, ["iso-8859-13", "iso8859-13", "iso885913"]),
    (singleByte iso885914Table, ["iso-8859-14", "iso8859-14", "iso885914"]),
    (singleByte iso885915Table, ["csisolatin9", "iso-8859-15", "iso8859-15", "iso885915",
      "iso_8859-15", "l9"]),
    (singleByte iso885916Table, ["iso-8859-16"]),
    (singleByte koi8rTable, ["cskoi8r", "koi", "koi8", "koi8-r", "koi8_r"]),
    (singleByte koi8uTable, ["koi8-ru", "koi8-u"]),
    (singleByte macintoshTable, ["csmacintosh", "mac", "macintosh", "x-mac-roman"]),
    (singleByte windows874Table, ["dos-874", "iso-8859-11", "iso8859-11", "iso885911", "tis-620",
      "windows-874"]),
    (singleByte windows1250Table, ["cp1250", "windows-1250", "x-cp1250"]),
    (singleByte windows1251Table, ["cp1251", "windows-1251", "x-cp1251"]),
    (singleByte windows1252Table, ["ansi_x3.4-1968", "ascii", "cp1252", "cp819", "csisolatin1",
      "ibm819", "iso-8859-1", "iso-ir-100", "iso8859-1", "iso88591", "iso_8859-1",
      "iso_8859-1:1987", "l1", "latin1", "us-ascii", "windows-1252", "x-cp1252"]),
    (singleByte windows1253Table, ["cp1253", "windows-1253", "x-cp1253"]),
    (singleByte windows1254Table, ["cp1254", "csisolatin5", "iso-8859-9", "iso-ir-148", "iso8859-9",
      "iso88599", "iso_8859-9", "iso_8859-9:1989", "l5", "latin5", "windows-1254", "x-cp1254"]),
    (singleByte windows1255Table, ["cp1255", "windows-1255", "x-cp1255"]),
    (singleByte windows1256Table, ["cp1256", "windows-1256", "x-cp1256"]),
    (singleByte windows1257Table, ["cp1257", "windows-1257", "x-cp1257"]),
    (singleByte windows1258Table, ["cp1258", "windows-1258", "x-cp1258"]),
    (singleByte macCyrillicTable, ["x-mac-cyrillic", "x-mac-ukrainian"]),
    (singleByte userDefinedTable, ["x-user-defined"]),
    (gb18030, ["chinese", "csgb2312", "csiso58gb231280", "gb2312", "gb_2312", "gb_2312-80", "gbk",
      "iso-ir-58", "x-gbk", "gb18030"]),
    (big5, ["big5", "big5-hkscs", "cn-big5", "csbig5", "x-x-big5"]),
    (eucKr, ["cseuckr", "csksc56011987", "euc-kr", "iso-ir-149", "korean", "ks_c_5601-1987",
      "ks_c_5601-1989", "ksc5601", "ksc_5601", "windows-949"]),
    (shiftJis, ["csshiftjis", "ms932", "ms_kanji", "shift-jis", "shift_jis", "sjis", "windows-31j",
      "x-sjis"]),
    (eucJp, ["cseucpkdfmtjapanese", "euc-jp", "x-euc-jp"]),
    (iso2022Jp, ["csiso2022jp", "iso-2022-jp"]),
    (unread, ["csiso2022kr", "hz-gb-2312", "iso-2022-cn", "iso-2022-cn-ext", "iso-2022-kr",
      "replacement"])]

def ofLabel? (label : List Char) : Option Charset :=
  let name := String.ofList (label.map Char.toLower)
  (labels.find? fun l => l.2.contains name).map Prod.fst

def decode : Charset → List Nat → List Char
  | utf8 => Utf8.decode
  | utf16 bigEndian => Utf16.decode bigEndian
  | singleByte upper => decodeSingleByte upper
  | gb18030 => decodeGb
  | big5 => big5Pairs.decode
  | eucKr => eucKrPairs.decode
  | shiftJis => shiftJisPairs.decode
  | eucJp => decodeEucJp
  | iso2022Jp => decodeIso2022Jp
  | unread => fun bs => if bs.isEmpty then [] else [Utf8.replacement]

end Charset

end Gleaner
