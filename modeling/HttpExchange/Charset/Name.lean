import HttpExchange.Charset.Scheme

/-!
# Charsets and their names

A charset is a scheme, perhaps with a byte order mark in front of the content. Its name may be spelled
in many ways: only the ASCII letters, digits and full stops of a name count, in either case, and the
places where others stood between them.
-/

namespace HttpExchange

/-- A charset. The last two are known names that do not belong to a text encoding. -/
inductive Charset where
  /-- UTF-8. -/
  | utf8
  /-- UTF-8 with a mark in front. -/
  | utf8Marked
  /-- ASCII. -/
  | ascii
  /-- The first part of ISO 8859. -/
  | latin1
  /-- The fifteenth part of ISO 8859. -/
  | latin9
  /-- The code page of western Windows. -/
  | windows1252
  /-- Units of two bytes with a mark that tells their order. -/
  | utf16
  /-- Units of two bytes, the low byte first. -/
  | utf16le
  /-- Units of two bytes, the high byte first. -/
  | utf16be
  /-- Units of four bytes with a mark that tells their order. -/
  | utf32
  /-- Units of four bytes, the low byte first. -/
  | utf32le
  /-- Units of four bytes, the high byte first. -/
  | utf32be
  /-- Hexadecimal digits for bytes. -/
  | hexadecimal
  /-- Letters moved by half the alphabet. -/
  | rot13
  deriving DecidableEq, Repr

namespace Charset

/-! ## Names -/

/-- A name reduced to what counts: the runs of lower-case ASCII letters, digits and full stops, with
underscores between them; `gap` tells that other characters stood before. -/
def normalize (gap : Bool) : List Char → List Char
  | [] => []
  | c :: rest =>
    if c.isAlphanum || c == '.' then
      (if gap then ['_'] else []) ++ c.toLower :: normalize false rest
    else normalize true rest

/-- A name reduced to what counts, without underscores at its beginning. -/
def normalizedName (name : String) : String :=
  let cs := normalize false (name.toList.dropWhile fun c => !(c.isAlphanum || c == '.'))
  String.ofList cs

/-- The proper names of the charsets. -/
def properNames : List (String × Charset) :=
  [("utf_8", .utf8), ("utf_8_sig", .utf8Marked), ("ascii", .ascii), ("latin_1", .latin1),
   ("iso8859_1", .latin1), ("iso8859_15", .latin9), ("cp1252", .windows1252), ("utf_16", .utf16),
   ("utf_16_le", .utf16le), ("utf_16_be", .utf16be), ("utf_32", .utf32),
   ("utf_32_le", .utf32le), ("utf_32_be", .utf32be),
   ("hex_codec", .hexadecimal), ("rot_13", .rot13)]

/-- The other names of the charsets. In these an underscore may be spelled as a full stop. -/
def otherNames : List (String × Charset) :=
  [("u8", .utf8), ("utf", .utf8), ("utf8", .utf8), ("utf8_ucs2", .utf8), ("utf8_ucs4", .utf8),
   ("cp65001", .utf8),
   ("646", .ascii), ("ansi_x3.4_1968", .ascii), ("ansi_x3_4_1968", .ascii),
   ("ansi_x3.4_1986", .ascii), ("cp367", .ascii), ("csascii", .ascii), ("ibm367", .ascii),
   ("iso646_us", .ascii), ("iso_646.irv_1991", .ascii), ("iso_ir_6", .ascii), ("us", .ascii),
   ("us_ascii", .ascii),
   ("8859", .latin1), ("cp819", .latin1), ("csisolatin1", .latin1), ("ibm819", .latin1),
   ("iso8859", .latin1), ("iso8859_1", .latin1), ("iso_8859_1", .latin1),
   ("iso_8859_1_1987", .latin1), ("iso_ir_100", .latin1), ("l1", .latin1), ("latin", .latin1),
   ("latin1", .latin1),
   ("l9", .latin9), ("latin9", .latin9), ("iso_8859_15", .latin9),
   ("1252", .windows1252), ("windows_1252", .windows1252),
   ("u16", .utf16), ("utf16", .utf16), ("unicodelittleunmarked", .utf16le), ("utf_16le", .utf16le),
   ("unicodebigunmarked", .utf16be), ("utf_16be", .utf16be),
   ("u32", .utf32), ("utf32", .utf32), ("utf_32le", .utf32le), ("utf_32be", .utf32be),
   ("hex", .hexadecimal), ("rot13", .rot13)]

/-- The charset that a name means, if it is known. -/
def find? (name : String) : Option Charset :=
  let key := normalizedName name
  let dotless := String.ofList (key.toList.map fun c => if c = '.' then '_' else c)
  (otherNames.lookup key).or ((otherNames.lookup dotless).or (properNames.lookup key))

/-! ## Content -/

/-- The bytes of western Windows that differ from ISO 8859-1. -/
def windows1252Exceptions : List (UInt8 × Option Char) :=
  [(0x80, some '\u20ac'), (0x81, none), (0x82, some '\u201a'), (0x83, some '\u0192'),
   (0x84, some '\u201e'), (0x85, some '\u2026'), (0x86, some '\u2020'), (0x87, some '\u2021'),
   (0x88, some '\u02c6'), (0x89, some '\u2030'), (0x8A, some '\u0160'), (0x8B, some '\u2039'),
   (0x8C, some '\u0152'), (0x8D, none), (0x8E, some '\u017d'), (0x8F, none),
   (0x90, none), (0x91, some '\u2018'), (0x92, some '\u2019'), (0x93, some '\u201c'),
   (0x94, some '\u201d'), (0x95, some '\u2022'), (0x96, some '\u2013'), (0x97, some '\u2014'),
   (0x98, some '\u02dc'), (0x99, some '\u2122'), (0x9A, some '\u0161'), (0x9B, some '\u203a'),
   (0x9C, some '\u0153'), (0x9D, none), (0x9E, some '\u017e'), (0x9F, some '\u0178')]

/-- The bytes of ISO 8859-15 that differ from ISO 8859-1. -/
def latin9Exceptions : List (UInt8 × Option Char) :=
  [(0xA4, some '\u20ac'), (0xA6, some '\u0160'), (0xA8, some '\u0161'), (0xB4, some '\u017d'),
   (0xB8, some '\u017e'), (0xBC, some '\u0152'), (0xBD, some '\u0153'), (0xBE, some '\u0178')]

/-- The scheme of a charset, in the order of bytes that holds where no mark tells another. Charsets
that are no text encodings have none. -/
def scheme? : Charset → Option Scheme
  | .utf8 => some .utf8
  | .utf8Marked => some .utf8
  | .ascii => some .ascii
  | .latin1 => some .latin1
  | .latin9 => some (.table latin9Exceptions)
  | .windows1252 => some (.table windows1252Exceptions)
  | .utf16 => some (.utf16 false)
  | .utf16le => some (.utf16 false)
  | .utf16be => some (.utf16 true)
  | .utf32 => some (.utf32 false)
  | .utf32le => some (.utf32 false)
  | .utf32be => some (.utf32 true)
  | .hexadecimal => none
  | .rot13 => none

/-- The marks that may stand in front of content, each with the scheme that it announces. A mark is
told from content by its length and bytes alone. -/
def marks : Charset → List (List UInt8 × Scheme)
  | .utf8Marked => [([0xEF, 0xBB, 0xBF], .utf8)]
  | .utf16 => [([0xFF, 0xFE], .utf16 false), ([0xFE, 0xFF], .utf16 true)]
  | .utf32 => [([0xFF, 0xFE, 0, 0], .utf32 false), ([0, 0, 0xFE, 0xFF], .utf32 true)]
  | _ => []

/-- The mark that is written in front of content: none, or the first one. -/
def writtenMark (c : Charset) : List UInt8 := (c.marks.head?.map (·.1)).getD []

/-- Must content that is read piece by piece begin with a mark, and what are its units called? -/
def requiredMark? : Charset → Option String
  | .utf16 => some "UTF-16"
  | .utf32 => some "UTF-32"
  | _ => none

/-- The scheme of content, and the length of the mark in front of it. -/
def detect (c : Charset) (s : Scheme) (bs : List UInt8) : Scheme × Nat :=
  match c.marks.find? fun m => m.1.isPrefixOf bs with
  | some (mark, announced) => (announced, mark.length)
  | none => (s, 0)

/-- The place of the first byte after the mark. A mark of UTF-8 is not part of the content whose bytes
are counted. -/
def positionAfterMark (c : Charset) (length : Nat) : Nat := if c = .utf8Marked then 0 else length

/-- The characters of content of a charset with scheme `s`. -/
def decode (c : Charset) (s : Scheme) (bs : List UInt8) : Except Scheme.DecodeFault (List Char) :=
  let (scheme, length) := c.detect s bs
  scheme.runAll (c.positionAfterMark length) (bs.drop length)

/-- The bytes of a text in a charset with scheme `s`, with a mark in front if the charset has one. -/
def encode (c : Charset) (s : Scheme) (cs : List Char) : Except Scheme.EncodeFault (List UInt8) :=
  (s.encode 0 cs).map (c.writtenMark ++ ·)

end Charset

end HttpExchange
