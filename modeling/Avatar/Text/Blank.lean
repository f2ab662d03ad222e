import Avatar.Text.Parts

/-! # White space

    The code points that Unicode calls white space, with the four
    information separators U+001C to U+001F, and the shorter list of
    ASCII. -/

namespace Avatar

/-- Unicode white space. -/
def CodePoint.isBlank (c : CodePoint) : Bool :=
  let n := c.val
  (0x09 ≤ n && n ≤ 0x0D) || (0x1C ≤ n && n ≤ 0x20) || n == 0x85 || n == 0xA0 || n == 0x1680
    || (0x2000 ≤ n && n ≤ 0x200A) || n == 0x2028 || n == 0x2029 || n == 0x202F || n == 0x205F
    || n == 0x3000

/-- The text without the white space around it. -/
def Text.trimBlanks (s : Text) : Text := s.trim CodePoint.isBlank

/-- The six blanks of ASCII, as octets. -/
def isBlankOctet (b : UInt8) : Bool := b == 0x20 || (0x09 ≤ b && b ≤ 0x0D)

end Avatar
