import Avatar.Json
import Avatar.Text.Hex
import Avatar.Text.Utf16

/-! # Writing JSON

    Documents are written in ASCII on one line.  Other code points are
    escaped by their units of sixteen bits, and a binary fraction is
    written with all its digits, so nothing is lost. -/

namespace Avatar.Json

/-- A unit of sixteen bits as an escape. -/
def escapedUnit (unit : UInt16) : Text := "\\u" ++ Text.hexDigits 4 unit.toNat

/-- A code point inside quotation marks. -/
def escaped (c : CodePoint) : Text :=
  if c = '"' || c = '\\' then ['\\', c]
  else if c.isBetween ' ' '~' then [c]
  else c.units16.flatMap escapedUnit

/-- A text between quotation marks. -/
def quotedText (s : Text) : Text := "\"" ++ s.flatMap escaped ++ "\""

/-- A binary fraction, exactly: two to the minus `k` is five to the `k`
    over ten to the `k`. -/
def realText : Binary64 → Text
  | .finite negative significand exponent =>
    let sign : Text := if negative then "-" else ""
    let places := (-exponent).toNat
    sign ++ Text.ofNat ((significand <<< exponent.toNat) * Nat.pow 5 places) ++ "e-"
      ++ Text.ofNat places
  | .infinite false => "Infinity"
  | .infinite true => "-Infinity"
  | .notANumber => "NaN"

/-- The characters of an ASCII text at the end of a string. -/
def append (written : String) (s : Text) : String :=
  s.foldl (fun w c => w.push (Char.ofNat c.val)) written

mutual

/-- Writes a value after what is written already. -/
def renderAfter (written : String) : Json → String
  | .null => written ++ "null"
  | .bool true => written ++ "true"
  | .bool false => written ++ "false"
  | .int n => append written (Text.ofInt n)
  | .real x => append written (realText x)
  | .str s => append written (quotedText s)
  | .arr [] => written ++ "[]"
  | .arr (v :: vs) => renderElements (renderAfter (written.push '[') v) vs
  | .obj [] => (written.push '\x7b').push '\x7d'
  | .obj ((name, v) :: rest) =>
    renderMembers (renderAfter (append (written.push '\x7b') (quotedText name ++ ":")) v) rest

/-- Writes the further elements of an array and closes it. -/
def renderElements (written : String) : List Json → String
  | [] => written.push ']'
  | v :: vs => renderElements (renderAfter (written.push ',') v) vs

/-- Writes the further members of an object and closes it. -/
def renderMembers (written : String) : List (Text × Json) → String
  | [] => written.push '\x7d'
  | (name, v) :: rest =>
    renderMembers (renderAfter (append (written.push ',') (quotedText name ++ ":")) v) rest

end

/-- The document that stands for a value. -/
def render (v : Json) : String := renderAfter "" v

end Avatar.Json
