import Avatar.Text.Hex

/-! # Percent escapes

    In a URL an octet may be written as a percent sign and two hexadecimal
    digits.  A percent sign that no two such digits follow stands for
    itself. -/

namespace Avatar

/-- The octet that a percent sign and two hexadecimal digits stand
    for. -/
def escapedOctet? (c high low : CodePoint) : Option UInt8 :=
  match if c = '%' then high.hexValue? else none, low.hexValue? with
  | some h, some l => some (h * 16 + l).toUInt8
  | _, _ => none

namespace Text

/-- The octets of a text with escapes, where `octets` says what a code
    point outside of them stands for. -/
def unescaped (octets : CodePoint → Bytes) : Text → Bytes
  | [] => []
  | c :: high :: low :: rest =>
    match escapedOctet? c high low with
    | some octet => octet :: unescaped octets rest
    | none => octets c ++ unescaped octets (high :: low :: rest)
  | c :: rest => octets c ++ unescaped octets rest

/-- The upper-case hexadecimal digit of a value. -/
def upperHexDigit (value : Nat) : CodePoint :=
  .ofNat (if value < 10 then '0'.toNat + value else 'A'.toNat + (value - 10))

/-- The escape of an octet. -/
def octetEscape (b : UInt8) : Text :=
  [CodePoint.ofChar '%', upperHexDigit (b.toNat / 16), upperHexDigit (b.toNat % 16)]

/-- The text in which only the code points of a class stand for
    themselves. -/
def escaped (isPlain : CodePoint → Bool) (s : Text) : Text :=
  s.flatMap fun c => if isPlain c then [c] else c.utf8.flatMap octetEscape

end Text

end Avatar
