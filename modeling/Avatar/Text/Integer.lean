import Avatar.Text.Blank
import Avatar.Text.Digit
import Avatar.Text.Parts

/-! # Integers in texts

    An integer is a sign that may be missing and decimal digits of any
    script.  Single low lines may stand between digits and white space
    around the whole, where the information separators do not count as
    white space. -/

namespace Avatar.Text

/-- White space that may stand around an integer. -/
def isIntegerBlank (c : CodePoint) : Bool := c.isBlank && !(0x1C ≤ c.val && c.val ≤ 0x1F)

/-- The values of digits, of which there has to be one. -/
def digits? (s : Text) : Option (List Nat) :=
  if s.isEmpty then none else s.mapM CodePoint.digitValue?

/-- The number that digits stand for, groups of them parted by single low
    lines. -/
def natural? (s : Text) : Option Nat :=
  match (s.splitOn '_').mapM digits? with
  | none => none
  | some groups =>
    if groups.flatten.length ≤ maxIntegerDigits then some (ofDigits groups.flatten) else none

/-- The integer that a text stands for. -/
def integer? (s : Text) : Option Int :=
  match s.trim isIntegerBlank with
  | [] => none
  | c :: rest =>
    if c = '-' then (natural? rest).map fun n => -(n : Int)
    else if c = '+' then (natural? rest).map Int.ofNat
    else (natural? (c :: rest)).map Int.ofNat

end Avatar.Text
