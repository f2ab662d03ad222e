import Avatar.Json.Parser
import Avatar.Text.Blank
import Avatar.Text.Utf16

/-! # JSON in octets

    A document starts with an ASCII character, so a byte order mark or
    the places of the zero octets among the first four tell in which of
    the Unicode encodings it is.  Surrogates are let through. -/

namespace Avatar.Json

/-- A Unicode encoding. -/
inductive Encoding
  | utf8
  | utf16 (order : ByteOrder)
  | utf32 (order : ByteOrder)
deriving DecidableEq

/-- The encoding of some octets, and the octets after a byte order
    mark. -/
def detectEncoding (bytes : Bytes) : Encoding × Bytes :=
  match bytes with
  | 0x00 :: 0x00 :: 0xFE :: 0xFF :: rest => (.utf32 .bigEndian, rest)
  | 0xFF :: 0xFE :: 0x00 :: 0x00 :: rest => (.utf32 .littleEndian, rest)
  | 0xFE :: 0xFF :: rest => (.utf16 .bigEndian, rest)
  | 0xFF :: 0xFE :: rest => (.utf16 .littleEndian, rest)
  | 0xEF :: 0xBB :: 0xBF :: rest => (.utf8, rest)
  | a :: b :: c :: d :: _ =>
    if a = 0 then (if b = 0 then .utf32 .bigEndian else .utf16 .bigEndian, bytes)
    else if b = 0 then
      (if c = 0 && d = 0 then .utf32 .littleEndian else .utf16 .littleEndian, bytes)
    else (.utf8, bytes)
  | [a, b] =>
    (if a = 0 then .utf16 .bigEndian else if b = 0 then .utf16 .littleEndian else .utf8, bytes)
  | _ => (.utf8, bytes)

/-- The text that octets in an encoding stand for. -/
def Encoding.decode? : Encoding → Bytes → Option Text
  | .utf8, bytes => Utf8.decodeWithSurrogates? bytes
  | .utf16 order, bytes => order.decode16? bytes
  | .utf32 order, bytes => order.decode32? bytes

/-- The document that some octets are, in whichever encoding. -/
def parseBytes (bytes : Bytes) : Except Failure Json :=
  let (encoding, rest) := detectEncoding bytes
  match encoding.decode? rest with
  | none => .error .undecodable
  | some s => parse s

/-- The document that some octets are in UTF-8, the ASCII blanks around
    it left aside; nothing but blanks stands for null. -/
def parseUtf8 (bytes : Bytes) : Except Failure Json :=
  let trimmed := ((bytes.dropWhile isBlankOctet).reverse.dropWhile isBlankOctet).reverse
  if trimmed.isEmpty then .ok .null
  else
    match Utf8.decode? trimmed with
    | none => .error .undecodable
    | some s => parse s

end Avatar.Json
