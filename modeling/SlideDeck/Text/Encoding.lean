import SlideDeck.Text.Encoding.CodePage
import SlideDeck.Text.Encoding.EastAsian
import SlideDeck.Text.Encoding.Escaped
import SlideDeck.Text.Encoding.Hz
import SlideDeck.Text.Encoding.Idna
import SlideDeck.Text.Encoding.Iso2022
import SlideDeck.Text.Encoding.Utf7
import SlideDeck.Text.Encoding.Utf8

/-!
# Encodings by name

The encodings a deck may be written in. `Encoding.ofName` finds one by a name in any case and with
any separators between its words, and `Encoding.decode` reads bytes, all of them or none. Some names
are of encodings from bytes to bytes, which give no text; they are refused in words of their own.
-/

namespace SlideDeck.Text

/-- An encoding that files may have. -/
inductive Encoding where
  | utf7
  | utf8
  | markedUtf8
  /-- Two-byte units in the order given here or, without one, by a byte-order mark. -/
  | utf16 (order : Option ByteOrder)
  /-- Four-byte units in the order given here or, without one, by a byte-order mark. -/
  | utf32 (order : Option ByteOrder)
  | ascii
  | latin1
  | page (p : CodePage)
  | eastAsian (s : EastAsian) (codec : String)
  | hz
  | iso2022 (v : Iso2022) (codec : String)
  | escaped (form : Escaped.Form)
  | punycode
  | idna
  | undefined
deriving DecidableEq, Repr

namespace Encoding

/-- The characters of bytes. -/
def decode (e : Encoding) (bytes : List UInt8) : Except Undecodable (List Char) :=
  match e with
  | .utf7 => decodeUtf7 bytes
  | .utf8 => (decodeUtf8 bytes).mapError .bytes
  | .markedUtf8 => (decodeMarkedUtf8 bytes).mapError .bytes
  | .utf16 none => decodeUtf16 bytes
  | .utf16 (some order) => (utf16From order 0 bytes).mapError .bytes
  | .utf32 none => decodeUtf32 bytes
  | .utf32 (some order) => (utf32From order 0 bytes).mapError .bytes
  | .ascii => (decodeAscii bytes).mapError .bytes
  | .latin1 => .ok (decodeLatin1 bytes)
  | .page p => (p.decode bytes).mapError .bytes
  | .eastAsian s codec => (s.decode codec bytes).mapError .bytes
  | .hz => (decodeHz bytes).mapError .bytes
  | .iso2022 v codec => v.decode codec bytes
  | .escaped form => Escaped.decode form bytes
  | .punycode => Punycode.decode bytes
  | .idna => Idna.decode bytes
  | .undefined => .error .never

/-! ## Names -/

/-- What an encoding is known by. -/
structure Known (α : Type) where
  name : String
  aliases : List String
  encoding : α

/-- A name in its plain form: letters, digits and points, in lower case, with one underscore for all
that stands between two of them. What holds none of them is left out at both ends. -/
def plainName (name : String) : List Char :=
  let kept c := c.isAlphanum || c = '.'
  let words := (name.toList.splitBy fun a b => kept a = kept b).filter (·.all kept)
  (words.intersperse ['_']).flatten.map Char.toLower

/-- Whether a name in its plain form is one of these. In another name than the first, points may
stand for underscores. -/
def Known.answersTo {α : Type} (k : Known α) (name : List Char) : Bool :=
  let undotted := name.map fun c => if c = '.' then '_' else c
  name = k.name.toList ||
    k.aliases.any fun other => other.toList = name || other.toList = undotted

/-- The encodings of all characters, of the first few, and of none. -/
def families : List (Known Encoding) :=
  [⟨"utf_8", ["cp65001", "u8", "utf", "utf8", "utf8_ucs2", "utf8_ucs4"], .utf8⟩,
   ⟨"utf_8_sig", [], .markedUtf8⟩,
   ⟨"utf_7", ["u7", "unicode_1_1_utf_7", "utf7"], .utf7⟩,
   ⟨"utf_16", ["u16", "utf16"], .utf16 none⟩,
   ⟨"utf_16_le", ["unicodelittleunmarked", "utf_16le"], .utf16 (some .little)⟩,
   ⟨"utf_16_be", ["unicodebigunmarked", "utf_16be"], .utf16 (some .big)⟩,
   ⟨"utf_32", ["u32", "utf32"], .utf32 none⟩,
   ⟨"utf_32_le", ["utf_32le"], .utf32 (some .little)⟩,
   ⟨"utf_32_be", ["utf_32be"], .utf32 (some .big)⟩,
   ⟨"ascii",
    ["646", "ansi_x3.4_1968", "ansi_x3.4_1986", "ansi_x3_4_1968", "cp367", "csascii", "ibm367",
     "iso646_us", "iso_646.irv_1991", "iso_ir_6", "us", "us_ascii"], .ascii⟩,
   ⟨"idna", [], .idna⟩,
   ⟨"latin_1",
    ["8859", "cp819", "csisolatin1", "ibm819", "iso8859", "iso8859_1", "iso_8859_1",
     "iso_8859_1_1987", "iso_ir_100", "l1", "latin", "latin1"], .latin1⟩,
   ⟨"charmap", [], .latin1⟩,
   ⟨"raw_unicode_escape", [], .escaped .narrow⟩,
   ⟨"unicode_escape", [], .escaped .wide⟩,
   ⟨"hz", ["hz_gb", "hz_gb_2312", "hzgb"], .hz⟩,
   ⟨"punycode", [], .punycode⟩,
   ⟨"undefined", [], .undefined⟩]

/-- The East Asian sets. -/
def eastAsianSets : List (Known EastAsian) :=
  [⟨"shift_jis", ["csshiftjis", "s_jis", "shiftjis", "sjis", "x_mac_japanese"], .shiftJis⟩,
   ⟨"shift_jis_2004", ["s_jis_2004", "shiftjis2004", "sjis_2004"],
    .extendedShiftJis .of2004⟩,
   ⟨"shift_jisx0213", ["s_jisx0213", "shiftjisx0213", "sjisx0213"],
    .extendedShiftJis .of2000⟩,
   ⟨"cp932", ["932", "ms932", "ms_kanji", "mskanji"], .pcShiftJis⟩,
   ⟨"euc_jp", ["eucjp", "u_jis", "ujis"], .eucJis⟩,
   ⟨"euc_jis_2004", ["euc_jis2004", "eucjis2004", "jisx0213"], .extendedEucJis .of2004⟩,
   ⟨"euc_jisx0213", ["eucjisx0213"], .extendedEucJis .of2000⟩,
   ⟨"gb2312",
    ["chinese", "csiso58gb231280", "euc_cn", "euccn", "eucgb2312_cn", "gb2312_1980", "gb2312_80",
     "iso_ir_58", "x_mac_simp_chinese"], .gb⟩,
   ⟨"gbk", ["936", "cp936", "ms936"], .gbk⟩,
   ⟨"gb18030", ["gb18030_2000"], .gb18030⟩,
   ⟨"big5", ["big5_tw", "csbig5", "x_mac_trad_chinese"], .big5⟩,
   ⟨"big5hkscs", ["big5_hkscs", "hkscs"], .hongKong⟩,
   ⟨"cp950", ["950", "ms950"], .pcBig5⟩,
   ⟨"euc_kr",
    ["euckr", "korean", "ks_c_5601", "ks_c_5601_1987", "ks_x_1001", "ksc5601", "ksx1001",
     "x_mac_korean"], .ks⟩,
   ⟨"cp949", ["949", "ms949", "uhc"], .allSyllables⟩,
   ⟨"johab", ["cp1361", "ms1361"], .johab⟩]

/-- The versions of ISO 2022. -/
def iso2022Versions : List (Known Iso2022) :=
  [⟨"iso2022_jp", ["csiso2022jp", "iso2022jp", "iso_2022_jp"], .jp⟩,
   ⟨"iso2022_jp_1", ["iso2022jp_1", "iso_2022_jp_1"], .jp1⟩,
   ⟨"iso2022_jp_2", ["iso2022jp_2", "iso_2022_jp_2"], .jp2⟩,
   ⟨"iso2022_jp_2004", ["iso2022jp_2004", "iso_2022_jp_2004"], .jp3 .of2004⟩,
   ⟨"iso2022_jp_3", ["iso2022jp_3", "iso_2022_jp_3"], .jp3 .of2000⟩,
   ⟨"iso2022_jp_ext", ["iso2022jp_ext", "iso_2022_jp_ext"], .jpExt⟩,
   ⟨"iso2022_kr", ["csiso2022kr", "iso2022kr", "iso_2022_kr"], .kr⟩]

/-- All encodings. -/
def all : List (Known Encoding) :=
  families ++
    (CodePage.all.map fun p => ⟨p.name, p.aliases, .page p⟩) ++
    (eastAsianSets.map fun k => ⟨k.name, k.aliases, .eastAsian k.encoding k.name⟩) ++
    iso2022Versions.map fun k => ⟨k.name, k.aliases, .iso2022 k.encoding k.name⟩

/-- The encodings from bytes to bytes. -/
def binary : List (Known Unit) :=
  [⟨"base64_codec", ["base64", "base_64"], ()⟩,
   ⟨"bz2_codec", ["bz2"], ()⟩,
   ⟨"hex_codec", ["hex"], ()⟩,
   ⟨"quopri_codec", ["quopri", "quoted_printable", "quotedprintable"], ()⟩,
   ⟨"rot_13", ["rot13"], ()⟩,
   ⟨"uu_codec", ["uu"], ()⟩,
   ⟨"zlib_codec", ["zip", "zlib"], ()⟩]

/-- Why a name gives no encoding of text. -/
inductive Unnamed where
  | unknown (name : String)
  | notText (name : String)
  | nul
deriving DecidableEq, Repr

/-- What comes first in a text, in so many bytes of UTF-8; a character that does not fit in is
replaced. -/
def cut : Nat → List Char → List Char
  | _, [] => []
  | 0, _ => []
  | room, c :: cs =>
    if c.utf8Size ≤ room then c :: cut (room - c.utf8Size) cs else ['\ufffd']

/-- In words, why a name gives no encoding of text. Of a name that gives something else, the first 400
bytes are told. -/
def Unnamed.message : Unnamed → String
  | .unknown name => "unknown encoding: " ++ name
  | .notText name =>
    "'" ++ String.ofList (cut 400 name.toList) ++
      "' is not a text encoding; use codecs.open() to handle arbitrary codecs"
  | .nul => "embedded null character"

/-- The encoding of a name; that of the surroundings is UTF-8. -/
def ofName (name : String) : Except Unnamed Encoding :=
  if name.toList.contains '\x00' then .error .nul
  else if name = "locale" then .ok .utf8
  else
    let plain := plainName name
    match all.find? (·.answersTo plain) with
    | some known => .ok known.encoding
    | none =>
      if binary.any (·.answersTo plain) then .error (.notText name) else .error (.unknown name)

end Encoding

end SlideDeck.Text
