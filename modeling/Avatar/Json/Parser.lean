import Avatar.Failure
import Avatar.Json
import Avatar.Text.Parts

/-! # Reading JSON

    A recursive reader over code points.  Besides the grammar it accepts
    `NaN`, `Infinity` and `-Infinity`; in texts it accepts every code
    point but the controls below U+0020, and an escaped surrogate that
    stands alone.  An integer with too many digits fails where it stands,
    before anything wrong behind it, and so does a bracket that is opened
    inside too many others.  The steps of the reading are bounded by the
    length of the text. -/

namespace Avatar.Json

/-- The blanks that may stand between two tokens. -/
def isJsonBlank (c : CodePoint) : Bool := c = ' ' || c = '\t' || c = '\n' || c = '\r'

/-- What comes after some blanks. -/
def skipBlanks (s : Text) : Text := s.dropWhile isJsonBlank

/-- The ASCII digits that a text starts with, and the rest. -/
def spanDigits (s : Text) : Text × Text := s.span CodePoint.isDigit

/-- The number that ASCII digits stand for. -/
def digitsValue (digits : Text) : Nat := ofDigits (digits.map fun c => c.val - '0'.toNat)

/-- The code unit that four hexadecimal digits stand for, and the
    rest. -/
def hexUnit? : Text → Option (CodePoint × Text)
  | a :: b :: c :: d :: rest =>
    ([a, b, c, d].mapM CodePoint.hexValue?).map fun digits =>
      (.ofNat (digits.foldl (fun n d => 16 * n + d) 0), rest)
  | _ => none

/-- The code point that an escape after `\u` stands for, and the rest: a
    low surrogate that is escaped too completes a high one. -/
def escapedUnit? (s : Text) : Option (CodePoint × Text) :=
  match hexUnit? s with
  | none => none
  | some (high, rest) =>
    match if high.isHighSurrogate then Text.after? "\\u" rest else none with
    | none => some (high, rest)
    | some second =>
      match hexUnit? second with
      | none => none
      | some (low, rest') =>
        if low.isLowSurrogate then some (.ofSurrogates high low, rest') else some (high, rest)

/-- What a single letter after a backslash stands for. -/
def escapedLetter? (c : CodePoint) : Option CodePoint :=
  if c = '"' || c = '\\' || c = '/' then some c
  else if c = 'b' then some (CodePoint.ofChar '\x08')
  else if c = 'f' then some (CodePoint.ofChar '\x0c')
  else if c = 'n' then some (CodePoint.ofChar '\n')
  else if c = 'r' then some (CodePoint.ofChar '\r')
  else if c = 't' then some (CodePoint.ofChar '\t')
  else none

/-- The rest of a text literal whose code points so far are held latest
    first, and what follows its closing quotation mark. -/
def closeString : Nat → Text → Text → Except Failure (Text × Text)
  | 0, _, _ => .error .malformedJson
  | _ + 1, _, [] => .error .malformedJson
  | fuel + 1, read, c :: rest =>
    if c = '"' then .ok (read.reverse, rest)
    else if c = '\\' then
      match rest with
      | [] => .error .malformedJson
      | e :: rest' =>
        if e = 'u' then
          match escapedUnit? rest' with
          | some (unit, rest'') => closeString fuel (unit :: read) rest''
          | none => .error .malformedJson
        else
          match escapedLetter? e with
          | some letter => closeString fuel (letter :: read) rest'
          | none => .error .malformedJson
    else if c.val < 0x20 then .error .malformedJson
    else closeString fuel (c :: read) rest

/-- A text literal after its opening quotation mark, and what follows
    it. -/
def string (s : Text) : Except Failure (Text × Text) := closeString (s.length + 1) [] s

/-- The digits after a point, and the rest; the point needs a digit. -/
def fraction (s : Text) : Text × Text :=
  match s with
  | c :: rest =>
    if c = '.' then
      match spanDigits rest with
      | ([], _) => ([], s)
      | (digits, rest') => (digits, rest')
    else ([], s)
  | [] => ([], s)

/-- The exponent, if there is one, and the rest; it needs a digit. -/
def exponent? (s : Text) : Option Int × Text :=
  match s with
  | c :: rest =>
    if c = 'e' || c = 'E' then
      let (negative, unsigned) : Bool × Text :=
        match rest with
        | sign :: rest' =>
          if sign = '-' then (true, rest') else if sign = '+' then (false, rest') else (false, rest)
        | [] => (false, rest)
      match spanDigits unsigned with
      | ([], _) => (none, s)
      | (digits, rest') =>
        (some (if negative then -(digitsValue digits : Int) else digitsValue digits), rest')
    else (none, s)
  | [] => (none, s)

/-- The digits of an integer, and the rest: a zero stands alone. -/
def wholeDigits? : Text → Option (Text × Text)
  | [] => none
  | c :: rest =>
    if c = '0' then some ([c], rest)
    else if c.isDigit then some (spanDigits (c :: rest))
    else none

/-- A number without its sign, and what follows it. -/
def unsignedNumber (negative : Bool) (s : Text) : Except Failure (Json × Text) :=
  match wholeDigits? s with
  | none => .error .malformedJson
  | some (whole, rest) =>
    match fraction rest with
    | (places, rest') =>
      let real (exponent : Int) : Json :=
        .real (.ofDecimal negative (digitsValue (whole ++ places)) (exponent - places.length))
      match exponent? rest' with
      | (some exponent, rest'') => .ok (real exponent, rest'')
      | (none, rest'') =>
        if !places.isEmpty then .ok (real 0, rest'')
        else if maxIntegerDigits < whole.length then .error (.integerTooLong whole.length)
        else .ok (.int (if negative then -digitsValue whole else digitsValue whole), rest'')

/-- A number, and what follows it. -/
def number (s : Text) : Except Failure (Json × Text) :=
  match Text.after? "-" s with
  | none => unsignedNumber false s
  | some rest => unsignedNumber true rest

/-- The words that stand for a value. -/
def words : List (Text × Json) := [
  ("null", .null), ("true", .bool true), ("false", .bool false), ("NaN", .real .notANumber),
  ("Infinity", .real (.infinite false)), ("-Infinity", .real (.infinite true))]

/-- The value of a word, and what follows it. -/
def word? (s : Text) : Option (Json × Text) :=
  words.findSome? fun w => (Text.after? w.1 s).map fun rest => (w.2, rest)

/-- A value that is no array and no object, and what follows it. -/
def scalar (s : Text) : Except Failure (Json × Text) :=
  match Text.after? "\"" s with
  | some rest => (string rest).map fun r => (.str r.1, r.2)
  | none =>
    match word? s with
    | some r => .ok r
    | none => number s

/-- The greatest number of brackets that may be open at once. -/
def maxDepth : Nat := 970

mutual

/-- A value, and what follows it.  `room` says how many brackets may still
    be opened inside one another. -/
def value : Nat → Nat → Text → Except Failure (Json × Text)
  | 0, _, _ => .error .malformedJson
  | _ + 1, _, [] => .error .malformedJson
  | fuel + 1, room, c :: rest =>
    if c = '[' then
      match room, skipBlanks rest with
      | 0, _ => .error .nestedTooDeeply
      | _ + 1, [] => .error .malformedJson
      | room + 1, d :: rest' =>
        if d = ']' then .ok (.arr [], rest') else elements fuel room [] (d :: rest')
    else if c.val = 0x7b then
      match room, skipBlanks rest with
      | 0, _ => .error .nestedTooDeeply
      | _ + 1, [] => .error .malformedJson
      | room + 1, d :: rest' =>
        if d.val = 0x7d then .ok (.obj [], rest') else members fuel room [] (d :: rest')
    else scalar (c :: rest)

/-- The elements of an array from the next one on, after those in `read`,
    which are held latest first. -/
def elements : Nat → Nat → List Json → Text → Except Failure (Json × Text)
  | 0, _, _, _ => .error .malformedJson
  | fuel + 1, room, read, s => do
    let (v, rest) ← value fuel room s
    match skipBlanks rest with
    | [] => .error .malformedJson
    | d :: rest' =>
      if d = ']' then return (.arr (v :: read).reverse, rest')
      else if d = ',' then elements fuel room (v :: read) (skipBlanks rest')
      else .error .malformedJson

/-- The members of an object from the next one on, after those in
    `read`. -/
def members : Nat → Nat → List (Text × Json) → Text → Except Failure (Json × Text)
  | 0, _, _, _ => .error .malformedJson
  | fuel + 1, room, read, s => do
    match Text.after? "\"" s with
    | none => .error .malformedJson
    | some opened =>
      let (name, afterName) ← string opened
      match Text.after? ":" (skipBlanks afterName) with
      | none => .error .malformedJson
      | some afterColon =>
        let (v, rest) ← value fuel room (skipBlanks afterColon)
        match skipBlanks rest with
        | [] => .error .malformedJson
        | d :: rest' =>
          if d.val = 0x7d then return (.obj (setMember name v read), rest')
          else if d = ',' then members fuel room (setMember name v read) (skipBlanks rest')
          else .error .malformedJson

end

/-- The document that a text is, blanks around it left aside, if no more
    than `depth` brackets are open at once. -/
def parseWithin (depth : Nat) (s : Text) : Except Failure Json := do
  let (v, rest) ← value (2 * s.length + 2) depth (skipBlanks s)
  if (skipBlanks rest).isEmpty then return v else .error .malformedJson

/-- The document that a text is, blanks around it left aside. -/
def parse (s : Text) : Except Failure Json := parseWithin maxDepth s

end Avatar.Json
