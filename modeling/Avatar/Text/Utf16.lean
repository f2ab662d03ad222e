import Avatar.Text.Utf8

/-! # Sixteen-bit and thirty-two-bit units

    A code point above U+FFFF takes two units of sixteen bits.  Reading
    units joins a high surrogate with a low one that follows it and lets
    every other surrogate stand alone. -/

namespace Avatar

/-- The units of sixteen bits that stand for a code point. -/
def CodePoint.units16 (c : CodePoint) : List UInt16 :=
  if c.val < 0x10000 then [c.val.toUInt16]
  else
    [(0xD800 + (c.val - 0x10000) / 0x400).toUInt16,
      (0xDC00 + (c.val - 0x10000) % 0x400).toUInt16]

namespace Text

/-- The units of sixteen bits that stand for a text. -/
def units16 (s : Text) : List UInt16 := s.flatMap CodePoint.units16

/-- Adds a unit to a text that is held latest code point first: a low
    surrogate completes a high one before it. -/
def pushUnit : Text → UInt16 → Text
  | [], unit => [.ofNat unit.toNat]
  | c :: before, unit =>
    let next := CodePoint.ofNat unit.toNat
    if c.isHighSurrogate && next.isLowSurrogate then .ofSurrogates c next :: before
    else next :: c :: before

/-- The text that some units of sixteen bits stand for. -/
def ofUnits16 (units : List UInt16) : Text := (units.foldl pushUnit []).reverse

end Text

/-- The order in which the octets of a number follow one another. -/
inductive ByteOrder
  | bigEndian
  | littleEndian
deriving DecidableEq

namespace ByteOrder

/-- The number that two octets stand for. -/
def unit16 (order : ByteOrder) (a b : UInt8) : UInt16 :=
  match order with
  | .bigEndian => a.toUInt16 * 0x100 + b.toUInt16
  | .littleEndian => b.toUInt16 * 0x100 + a.toUInt16

/-- The number that four octets stand for. -/
def unit32 (order : ByteOrder) (a b c d : UInt8) : Nat :=
  match order with
  | .bigEndian => ((a.toNat * 0x100 + b.toNat) * 0x100 + c.toNat) * 0x100 + d.toNat
  | .littleEndian => ((d.toNat * 0x100 + c.toNat) * 0x100 + b.toNat) * 0x100 + a.toNat

/-- Adds the text that octets in pairs stand for to a text that is held
    latest code point first; `none` if an octet is left over. -/
def decode16From (order : ByteOrder) (before : Text) : Bytes → Option Text
  | [] => some before.reverse
  | [_] => none
  | a :: b :: rest => decode16From order (before.pushUnit (order.unit16 a b)) rest

/-- The text that octets in pairs stand for. -/
def decode16? (order : ByteOrder) (bytes : Bytes) : Option Text :=
  decode16From order [] bytes

/-- Adds the code points that octets in fours stand for to a text that is
    held latest code point first; `none` if octets are left over or a
    number is out of range. -/
def decode32From (order : ByteOrder) (before : Text) : Bytes → Option Text
  | [] => some before.reverse
  | a :: b :: c :: d :: rest =>
    if h : order.unit32 a b c d < 0x110000 then
      decode32From order (⟨order.unit32 a b c d, h⟩ :: before) rest
    else none
  | _ => none

/-- The text that octets in fours stand for. -/
def decode32? (order : ByteOrder) (bytes : Bytes) : Option Text :=
  decode32From order [] bytes

end ByteOrder

end Avatar
