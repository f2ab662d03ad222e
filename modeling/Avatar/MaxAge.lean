import Avatar.Failure
import Avatar.Text.Blank
import Avatar.Text.Digit
import Avatar.Text.Parts
import Avatar.Text.Pattern

/-! # The max-age of a Cache-Control value

    The directive counts where it starts the value or follows a comma or
    white space; its number is the longest run of decimal digits after
    the equals sign.  The first directive with a digit decides. -/

namespace Avatar.MaxAge

/-- How long an answer may be kept when nothing else is said: twelve
    hours. -/
def standard : Nat := 60 * 60 * 12

/-- What stands between two directives. -/
def isSeparator (c : CodePoint) : Bool := c = ',' || c.isBlank

/-- The name of the directive, where a directive may begin. -/
def introduction : Pattern := .seq (.either .start (.point isSeparator)) (.literal "max-age=")

/-- The digits of the number. -/
def number : Pattern := .atLeastOnce (.point CodePoint.isDecimal)

/-- The number that decimal digits stand for, unless there are too many of
    them to be read. -/
def ofDigitText (digits : Text) : Except Failure Nat :=
  if digits.length ≤ maxIntegerDigits then .ok (ofDigits (digits.filterMap CodePoint.digitValue?))
  else .error (.integerTooLong digits.length)

/-- The number of seconds that a Cache-Control value asks for. -/
def ofCacheControl (value : Text) : Except Failure Nat :=
  match introduction.search number value with
  | none => .ok standard
  | some digits => ofDigitText digits

/-- The number of seconds that are asked for, where there may be no
    Cache-Control value at all. -/
def ofHeader : Option Text → Except Failure Nat
  | none => .ok standard
  | some value => ofCacheControl value

/-- The Cache-Control value of every answer that this service makes. -/
def cacheControl : Text := "public, max-age=" ++ Text.ofNat standard

end Avatar.MaxAge
