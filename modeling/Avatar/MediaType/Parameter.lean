import Avatar.MediaType.Layout
import Avatar.Text.Charset
import Avatar.Text.Percent

/-! # Parameters of a media type

    A parameter is a name and a value.  A long value may be given in
    numbered sections, and a value with characters outside of ASCII in
    percent escapes after the names of an encoding and a language.  What
    cannot be read is left out, and so is what follows a value. -/

namespace Avatar.MediaType

/-- A code point of a name. -/
def isNamePoint (c : CodePoint) : Bool :=
  !isGap c && !(Text.ofString "()<>@,:;\\\"[]/?=*'%").contains c

/-- A code point of a value without quotation marks. -/
def isValuePoint (c : CodePoint) : Bool := isNamePoint c || c = '%'

/-- A value, or a section of one, under the name of its parameter. -/
structure Section where
  name : Text
  /-- The place of the section in the value. -/
  number : Nat
  /-- Whether the value is in percent escapes. -/
  isEscaped : Bool
  /-- The name of the encoding of the escaped octets. -/
  encoding : Text
  value : Text

namespace Section

/-- A quotation or a word, and what follows it. -/
def value? (s : Text) : Option (Text × Text) :=
  match afterGaps .plain s with
  | [] => none
  | c :: rest =>
    if c = '"' then
      let (content, after) := quotation false rest
      some (content, afterGaps .plain after)
    else
      match (c :: rest).span isValuePoint with
      | ([], _) => none
      | (word, after) => some (word, afterGaps .plain after)

/-- A value after the name of a language, which stands between
    apostrophes. -/
def afterLanguage? (s : Text) : Option Text :=
  match Text.after? "'" s with
  | none => none
  | some language =>
    match Text.after? "'" (language.dropWhile isNamePoint) with
    | none => none
    | some rest => (value? rest).map (·.1)

/-- The number of a section after an asterisk, and what follows it; the
    first section needs none. -/
def numberOf (s : Text) : Nat × Text :=
  match s with
  | [] => (0, [])
  | c :: rest =>
    match if c = '*' then rest.span CodePoint.isDigit else ([], rest) with
    | ([], _) => (0, s)
    | (digits, after) => (ofDigits (digits.map fun d => d.val - '0'.toNat), after)

/-- Reads what follows the equals sign of a section. -/
def withValue? (empty : Section) (s : Text) : Option Section :=
  let s := afterGaps .plain s
  let first := if Text.startsWith "'" s then some ([], s) else value? s
  match first with
  | none => none
  | some (word, rest) =>
    if Text.startsWith "'" rest then
      (afterLanguage? rest).map fun value => { empty with encoding := word, value }
    else if empty.isEscaped && empty.number = 0 && !rest.isEmpty then none
    else some { empty with value := word }

/-- Reads a part of a header. -/
def ofPart? (part : Text) : Option Section :=
  match (afterGaps .plain part).span isNamePoint with
  | ([], _) => none
  | (name, rest) =>
    let name := Text.trimBlanks name
    match afterGaps .plain rest with
    | [] => some ⟨name, 0, false, [], []⟩
    | c :: rest =>
      let (number, rest) := numberOf (c :: rest)
      let (isEscaped, rest) :=
        match Text.after? "*" rest with
        | some rest => (true, rest)
        | none => (false, rest)
      (Text.after? "=" rest).bind (withValue? ⟨name, number, isEscaped, [], []⟩)

/-- The sections that follow one another in a value: one out of order is
    left out unless it is escaped. -/
def inOrder (next : Nat) : List Section → List Section
  | [] => []
  | first :: others =>
    if first.number = next || first.isEscaped then first :: inOrder (next + 1) others
    else inOrder next others

/-- The text of a section, where the first one names the encoding. -/
def text (encoding : Text) (part : Section) : Text :=
  if !part.isEscaped then part.value
  else if Charset.ofName? encoding = some .latin1 then
    (part.value.unescaped CodePoint.utf8).map fun octet => .ofNat octet.toNat
  else Utf8.decodeLossy (part.value.unescaped CodePoint.utf8)

/-- The value that sections of one name make up.  Of two whole values the
    first one counts. -/
def joined (sections : List Section) : Text :=
  match sections.mergeSort (fun a b => a.number ≤ b.number) with
  | [] => []
  | first :: others =>
    let isWhole := !first.isEscaped && others.head?.any (·.number = 0)
    (inOrder 0 (if isWhole then [first] else first :: others)).flatMap (text first.encoding)

end Section

/-- The parameters that the parts of a header give, in the order in which
    their names come first. -/
def parametersOf (parts : List Text) : List (Text × Text) :=
  let sections := parts.filterMap Section.ofPart?
  (sections.map Section.name).eraseDups.map fun name =>
    (name, Section.joined (sections.filter (·.name = name)))

end Avatar.MediaType
