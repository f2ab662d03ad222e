import Avatar.Failure
import Avatar.Text.Utf16

/-! # Character encodings

    The encodings that a text may be sent in, by the names under which
    they are asked for.  Letter case and the punctuation between the parts
    of a name do not matter.  A text with surrogates, or with characters
    that an encoding lacks, cannot be encoded. -/

namespace Avatar

/-- A character encoding. -/
inductive Charset
  | utf8
  /-- UTF-8 after a byte order mark. -/
  | markedUtf8
  | utf16 (order : ByteOrder)
  /-- Sixteen-bit units, the least octet first, after a byte order mark. -/
  | markedUtf16
  | utf32 (order : ByteOrder)
  /-- Thirty-two-bit units, the least octet first, after a byte order
      mark. -/
  | markedUtf32
  | ascii
  /-- The first 256 code points, an octet each. -/
  | latin1
  /-- Latin 1 with letters and signs in the place of some controls. -/
  | windows1252
  /-- Latin 1 with eight other characters, the euro sign among them. -/
  | latin9
deriving DecidableEq

/-- The octets of a number of sixteen bits. -/
def ByteOrder.octets16 (order : ByteOrder) (n : Nat) : Bytes :=
  match order with
  | .bigEndian => [(n / 0x100).toUInt8, n.toUInt8]
  | .littleEndian => [n.toUInt8, (n / 0x100).toUInt8]

/-- The octets of a number of thirty-two bits. -/
def ByteOrder.octets32 (order : ByteOrder) (n : Nat) : Bytes :=
  match order with
  | .bigEndian => order.octets16 (n / 0x10000) ++ order.octets16 (n % 0x10000)
  | .littleEndian => order.octets16 (n % 0x10000) ++ order.octets16 (n / 0x10000)

namespace Charset

/-- The names of the encodings, in lower case and with low lines between
    their parts. -/
def names : List (Charset × List String) := [
  (.utf8, ["utf_8", "utf8", "u8", "utf", "cp65001", "utf8_ucs2", "utf8_ucs4"]),
  (.markedUtf8, ["utf_8_sig"]),
  (.markedUtf16, ["utf_16", "utf16", "u16"]),
  (.utf16 .bigEndian, ["utf_16_be", "utf_16be", "unicodebigunmarked"]),
  (.utf16 .littleEndian, ["utf_16_le", "utf_16le", "unicodelittleunmarked"]),
  (.markedUtf32, ["utf_32", "utf32", "u32"]),
  (.utf32 .bigEndian, ["utf_32_be", "utf_32be"]),
  (.utf32 .littleEndian, ["utf_32_le", "utf_32le"]),
  (.ascii, ["ascii", "us_ascii", "us", "646", "ansi_x3.4_1968", "ansi_x3_4_1968",
    "ansi_x3.4_1986", "cp367", "csascii", "ibm367", "iso646_us", "iso_646.irv_1991",
    "iso_ir_6"]),
  (.latin1, ["latin_1", "latin1", "iso8859_1", "iso_8859_1", "8859", "cp819", "csisolatin1",
    "ibm819", "iso8859", "iso_8859_1_1987", "iso_ir_100", "l1", "latin"]),
  (.windows1252, ["cp1252", "windows_1252", "1252"]),
  (.latin9, ["iso8859_15", "iso_8859_15", "latin9", "l9"])]

/-- A code point of a name. -/
def isNamePoint (c : CodePoint) : Bool := c.isLower || c.isUpper || c.isDigit || c = '.'

/-- Adds a code point to a name that is held latest code point first,
    where `parted` says whether punctuation came just before. -/
def pushNamePoint (name : Text × Bool) (c : CodePoint) : Text × Bool :=
  if isNamePoint c then
    let before := if name.2 && !name.1.isEmpty then CodePoint.ofChar '_' :: name.1 else name.1
    (c.asciiLowercase :: before, false)
  else (name.1, true)

/-- A name in lower case and with single low lines between its parts. -/
def plainName (name : Text) : Text := (name.foldl pushNamePoint ([], false)).1.reverse

/-- The encoding of a name. -/
def ofName? (name : Text) : Option Charset :=
  (names.find? fun entry => entry.2.any fun known => plainName name = Text.ofString known).map (·.1)

/-- The characters from 0x80 to 0x9F in the Windows encoding; a zero
    stands where there is none. -/
def windowsPoints : List Nat := [
  0x20AC, 0, 0x201A, 0x0192, 0x201E, 0x2026, 0x2020, 0x2021, 0x02C6, 0x2030, 0x0160, 0x2039,
  0x0152, 0, 0x017D, 0, 0, 0x2018, 0x2019, 0x201C, 0x201D, 0x2022, 0x2013, 0x2014, 0x02DC,
  0x2122, 0x0161, 0x203A, 0x0153, 0, 0x017E, 0x0178]

/-- The eight octets at which Latin 9 differs from Latin 1, with their
    characters. -/
def latin9Points : List (Nat × Nat) := [
  (0xA4, 0x20AC), (0xA6, 0x160), (0xA8, 0x161), (0xB4, 0x17D), (0xB8, 0x17E), (0xBC, 0x152),
  (0xBD, 0x153), (0xBE, 0x178)]

/-- The octet of a character in an encoding of one octet each. -/
def octet? (charset : Charset) (c : CodePoint) : Option UInt8 :=
  match charset with
  | .ascii => if c.val < 0x80 then some c.val.toUInt8 else none
  | .latin1 => if c.val < 0x100 then some c.val.toUInt8 else none
  | .windows1252 =>
    if c.val < 0x80 || (0xA0 ≤ c.val && c.val < 0x100) then some c.val.toUInt8
    else (windowsPoints.idxOf? c.val).map fun place => (0x80 + place).toUInt8
  | .latin9 =>
    match latin9Points.find? (·.2 = c.val) with
    | some (octet, _) => some octet.toUInt8
    | none =>
      if c.val < 0x100 && !latin9Points.any (·.1 = c.val) then some c.val.toUInt8 else none
  | _ => none

/-- The octets of a text in units of sixteen bits. -/
def octets16 (order : ByteOrder) (s : Text) : Bytes :=
  s.units16.flatMap fun unit => order.octets16 unit.toNat

/-- The octets of a text in units of thirty-two bits. -/
def octets32 (order : ByteOrder) (s : Text) : Bytes := s.flatMap fun c => order.octets32 c.val

/-- The byte order mark. -/
def mark : CodePoint := ⟨0xFEFF, by decide⟩

/-- The octets of a text without surrogates. -/
def octets? (charset : Charset) (s : Text) : Option Bytes :=
  match charset with
  | .utf8 => some s.utf8
  | .markedUtf8 => some (Text.utf8 (mark :: s))
  | .utf16 order => some (octets16 order s)
  | .markedUtf16 => some (octets16 .littleEndian (mark :: s))
  | .utf32 order => some (octets32 order s)
  | .markedUtf32 => some (octets32 .littleEndian (mark :: s))
  | _ => s.mapM charset.octet?

/-- A text in an encoding. -/
def encode (charset : Charset) (s : Text) : Except Failure Bytes :=
  match s.surrogates?, charset.octets? s with
  | some run, _ => .error (.unencodable run)
  | none, none => .error .notInEncoding
  | none, some bytes => .ok bytes

end Charset

end Avatar
