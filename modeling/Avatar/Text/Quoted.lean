import Avatar.Text.Hex
import Avatar.Text.PrintableTable

/-! # Quoted texts

    A text is shown between apostrophes, or between quotation marks if it
    holds an apostrophe and no quotation mark.  The backslash and the
    quote in use are written after a backslash, and what cannot be
    printed as an escape of two, four or eight hexadecimal digits. -/

namespace Avatar

/-- A code point between quotes of the given form. -/
def CodePoint.quoted (quote : CodePoint) (c : CodePoint) : Text :=
  if c = quote || c = '\\' then ['\\', c]
  else if c = '\t' then "\\t"
  else if c = '\n' then "\\n"
  else if c = '\r' then "\\r"
  else if c.isPrintable then [c]
  else if c.val < 0x100 then "\\x" ++ Text.hexDigits 2 c.val
  else if c.val < 0x10000 then "\\u" ++ Text.hexDigits 4 c.val
  else "\\U" ++ Text.hexDigits 8 c.val

/-- The text between quotes. -/
def Text.quoted (s : Text) : Text :=
  let onlySingle := s.contains (CodePoint.ofChar '\'') && !s.contains (CodePoint.ofChar '"')
  let quote : CodePoint := if onlySingle then '"' else '\''
  [quote] ++ s.flatMap (CodePoint.quoted quote) ++ [quote]

end Avatar
